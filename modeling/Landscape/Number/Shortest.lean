import Landscape.Number.Double

/-!
# The shortest decimal of a double

Many decimals round to one double. This file finds, for a positive finite double, a decimal with
the fewest digits among them, and of those the one nearest to the double itself
(`Landscape.Double.shortest`). All is exact arithmetic on naturals: a double is compared with the two
ends of the interval of reals that round to it, in quarters of its last place.

The search tries one digit, then two, and so on: with `n` digits the decimals of the right size form a grid,
and if any point of the grid rounds to the double, then one of the two points next to the
double does.
-/

namespace Landscape

/-- A decimal `0.d₁d₂… * 10 ^ point`. -/
structure Decimal where
  digits : List Nat
  point : Int
  deriving DecidableEq, Repr, Inhabited

/-! ### The decimal digits of a natural -/

/-- The decimal digits of a natural, most significant first; the digit `0` alone for zero. -/
def decimalDigits (n : Nat) : List Nat :=
  (Nat.toDigits 10 n).map fun c => c.toNat - '0'.toNat

/-- How many decimal digits a natural is written with. -/
def decimalLength (n : Nat) : Nat :=
  (Nat.toDigits 10 n).length

/-! ### The size of a quotient -/

/-- The least `k`, from `k₀` on and among `fuel` candidates, with `den ≤ num * 10 ^ (k - k₀)`. -/
def decimalShift (num den k₀ : Nat) : Nat → Nat
  | 0 => k₀
  | fuel + 1 => if den ≤ num then k₀ else decimalShift (num * 10) den (k₀ + 1) fuel

/-- The position `p` with `10 ^ (p - 1) ≤ num / den < 10 ^ p`, for a positive quotient. -/
def decimalPosition (num den : Nat) : Int :=
  if den ≤ num then decimalLength (num / den) else 1 - (decimalShift num den 0 (decimalLength den + 1) : Int)

/-! ### The interval of a double, and the grid -/

/-- A positive double `significand * 2 ^ exponent` seen as a quotient of naturals, with the reals
that round to it: they lie between `lower` and `upper` in the same denominator, and the ends
belong to them iff `closed`. -/
structure RoundingInterval where
  value : Nat
  lower : Nat
  upper : Nat
  den : Nat
  closed : Bool
  deriving Repr

/-- The interval of `m * 2 ^ q`. Below a power of two the doubles are twice as dense, unless they have
the least exponent. -/
def RoundingInterval.of (m : Nat) (q : Int) : RoundingInterval :=
  let step := if m == Nat.pow 2 52 && Double.leastExponent < q then 1 else 2
  let (u, den) := divideByPowerOfTwo 1 1 (2 - q)
  { value := 4 * m * u, lower := (4 * m - step) * u, upper := (4 * m + 2) * u, den
    closed := m % 2 == 0 }

/-- Whether the grid point `g * (num / den)` rounds to the double. -/
def RoundingInterval.holds (i : RoundingInterval) (g num den : Nat) : Bool :=
  let a := g * num * i.den
  if i.closed then i.lower * den ≤ a && a ≤ i.upper * den else i.lower * den < a && a < i.upper * den

/-- The point of the grid of `num / den` that rounds to the double and is nearest to it, if one
does; of two that are equally near, the even one. -/
def RoundingInterval.onGrid? (i : RoundingInterval) (num den : Nat) : Option Nat :=
  let f := i.value * den / (i.den * num)
  match i.holds f num den, i.holds (f + 1) num den with
  | true, true =>
    let below := i.value * den - f * num * i.den
    let above := (f + 1) * num * i.den - i.value * den
    some (if below < above || (below == above && f % 2 == 0) then f else f + 1)
  | true, false => some f
  | false, true => some (f + 1)
  | false, false => none

/-- The unit `10 ^ k` as a quotient of naturals. -/
def decimalUnit (k : Int) : Nat × Nat :=
  if 0 ≤ k then (Nat.pow 10 k.toNat, 1) else (1, Nat.pow 10 (-k).toNat)

/-- The digits without the zeros they end with. -/
def dropTrailingZeros (ds : List Nat) : List Nat :=
  (ds.reverse.dropWhile (· == 0)).reverse

namespace Double

/-- The most digits that a double needs to be told from every other. -/
def mostDigits : Nat := 17

/-- **The shortest decimal** that rounds to the positive double `m * 2 ^ q`. -/
def shortest (m : Nat) (q : Int) : Decimal :=
  let i := RoundingInterval.of m q
  let p := decimalPosition i.value i.den
  let onGrid? (n : Nat) : Option Decimal :=
    let (num, den) := decimalUnit (p - n)
    (i.onGrid? num den).map fun g =>
      ⟨dropTrailingZeros (decimalDigits g), p - n + decimalLength g⟩
  ((List.range' 1 mostDigits).findSome? onGrid?).getD ⟨[0], 1⟩

end Double

end Landscape
