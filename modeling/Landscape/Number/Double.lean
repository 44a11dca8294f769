/-!
# Double precision numbers

A double precision number is a signed multiple of a power of two with a significand below
`2 ^ 53`, or an infinity, or not a number. This file holds the type (`Landscape.Double`), the
rounding of a quotient of naturals to the nearest double, a half going to the even neighbour
(`Landscape.Double.nearest`), and equality with integers. Everything is exact arithmetic on naturals, so
nothing depends on the machine's floating point.
-/

namespace Landscape

/-- A double precision number. A finite one has the value `± significand * 2 ^ exponent`; the
functions of this file only build normal forms, where the significand is below `2 ^ 53` and, unless
the exponent is the least one, not below `2 ^ 52`. -/
inductive Double where
  | finite (negative : Bool) (significand : Nat) (exponent : Int)
  | infinite (negative : Bool)
  | notANumber
  deriving DecidableEq, Repr, Inhabited

/-! ### Rounding -/

/-- The whole number nearest to `num / den`, a half going to the even neighbour. -/
def roundHalfEven (num den : Nat) : Nat :=
  let q := num / den
  let r := num % den
  if den < 2 * r || (2 * r == den && q % 2 == 1) then q + 1 else q

/-- The quotient `num / den` divided by `2 ^ e`, as a numerator and a denominator. -/
def divideByPowerOfTwo (num den : Nat) (e : Int) : Nat × Nat :=
  if 0 ≤ e then (num, den * Nat.pow 2 e.toNat) else (num * Nat.pow 2 (-e).toNat, den)

/-- The exponent of the greatest power of two that is at most `num / den`, for positive `num`. -/
def binaryExponent (num den : Nat) : Int :=
  let e : Int := (num.log2 : Int) - (den.log2 : Int)
  let (n, d) := divideByPowerOfTwo num den e
  if d ≤ n then e else e - 1

namespace Double

/-- The exponent of the smallest positive double. -/
def leastExponent : Int := -1074

/-- The exponent of the greatest finite double. -/
def greatestExponent : Int := 971

/-- Zero, with a sign. -/
def zero (negative : Bool) : Double :=
  .finite negative 0 leastExponent

/-- **The double nearest to `± num / den`**, a half going to the even significand. A quotient beyond
the finite doubles becomes an infinity. -/
def nearest (negative : Bool) (num den : Nat) : Double :=
  if num == 0 then zero negative
  else
    let q := max (binaryExponent num den - 52) leastExponent
    let (n, d) := divideByPowerOfTwo num den q
    let m := roundHalfEven n d
    let (m, q) := if m == Nat.pow 2 53 then (Nat.pow 2 52, q + 1) else (m, q)
    if greatestExponent < q then .infinite negative else .finite negative m q

/-- The double nearest to an integer; `none` when it lies beyond the finite doubles. -/
def ofInt? (n : Int) : Option Double :=
  match nearest (decide (n < 0)) n.natAbs 1 with
  | .infinite _ => none
  | x => some x

/-- The double zero or one that a truth value stands for. -/
def ofBool (b : Bool) : Double :=
  nearest false b.toNat 1

/-! ### Comparison -/

/-- Both zeros, and nothing else. -/
def isZero : Double → Bool
  | .finite _ m _ => m == 0
  | _ => false

/-- The number with its sign changed. -/
def negate : Double → Double
  | .finite s m q => .finite (!s) m q
  | .infinite s => .infinite (!s)
  | .notANumber => .notANumber

/-- Equality as numbers: the two zeros are equal, and what is not a number equals nothing. -/
def sameNumber : Double → Double → Bool
  | .finite s m q, .finite s' m' q' =>
    let (num, den) := divideByPowerOfTwo m 1 (-q)
    let (num', den') := divideByPowerOfTwo m' 1 (-q')
    num * den' == num' * den && (m == 0 || s == s')
  | .infinite s, .infinite s' => s == s'
  | _, _ => false

/-- Equality with an integer, which is exact also for integers that no double has. -/
def equalsInt : Double → Int → Bool
  | .finite s m q, n =>
    let (num, den) := divideByPowerOfTwo m 1 (-q)
    num == n.natAbs * den && (n == 0 || s == decide (n < 0))
  | _, _ => false

end Double

end Landscape
