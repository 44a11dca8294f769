import Landscape.Number.Double

/-!
# Sums and products of doubles

Sums and products are computed exactly and rounded once (`Landscape.Double.add`, `Landscape.Double.times`,
`Landscape.Double.timesNat`). What is not finite spreads as usual.
-/

namespace Landscape.Double

/-- The value of a finite double as a quotient of an integer and a positive natural. -/
def toQuotient (negative : Bool) (m : Nat) (q : Int) : Int × Nat :=
  let (num, den) := divideByPowerOfTwo m 1 (-q)
  (if negative then -(num : Int) else num, den)

/-- The sum of two doubles. -/
def add : Double → Double → Double
  | .notANumber, _ | _, .notANumber => .notANumber
  | .infinite s, .infinite t => if s == t then .infinite s else .notANumber
  | .infinite s, _ | _, .infinite s => .infinite s
  | .finite s m q, .finite s' m' q' =>
    let (a, d) := toQuotient s m q
    let (b, e) := toQuotient s' m' q'
    let n := a * e + b * d
    if n == 0 then zero (s && s') else nearest (decide (n < 0)) n.natAbs (d * e)

/-- The product of a double and a positive natural. -/
def timesNat : Double → Nat → Double
  | .finite s m q, n =>
    let (a, d) := toQuotient s m q
    nearest s (a.natAbs * n) d
  | x, _ => x

/-- Whether a double has a minus sign. -/
def isNegative : Double → Bool
  | .finite s _ _ | .infinite s => s
  | .notANumber => false

/-- The product of two doubles. An infinity times zero is no number. -/
def times : Double → Double → Double
  | .notANumber, _ | _, .notANumber => .notANumber
  | .finite s m q, .finite t n r =>
    let (a, d) := toQuotient false m q
    let (b, e) := toQuotient false n r
    nearest (s != t) (a.natAbs * b.natAbs) (d * e)
  | x, y => if x.isZero || y.isZero then .notANumber else .infinite (x.isNegative != y.isNegative)

end Landscape.Double
