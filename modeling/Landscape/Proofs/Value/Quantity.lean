import Landscape.Value.Basic
import Mathlib.Algebra.Order.Field.Rat
import Mathlib.Algebra.Order.Field.Power
import Mathlib.Tactic.FieldSimp
import Mathlib.Tactic.Linarith
import Mathlib.Tactic.Positivity

/-!
# What a number is worth

Documents write numbers in three kinds: truth values, whole numbers and doubles. Comparing them never converts one kind
to another, because a whole number may lie where no double is. It multiplies out by powers of two instead.

What such a comparison means is said here by rationals: every number is worth a quantity, a rational or an infinity
(`Landscape.Value.quantity?`), and two numbers are the same if and only if they are worth the same
(`Landscape.Value.sameNumber?_iff`). So sameness of numbers is a partial equivalence, whatever their kinds, and what it
leaves out is the double that is not a number, which is worth nothing.
-/

namespace Landscape

/-- What a number is worth. -/
inductive Quantity where
  | finite (x : ℚ)
  | infinite (negative : Bool)

/-- A rational with a sign of its own. -/
def signed (negative : Bool) (x : ℚ) : ℚ :=
  if negative then -x else x

/-- What a double is worth. -/
def Double.quantity? : Double → Option Quantity
  | .finite s m q => some (.finite (signed s (m * 2 ^ q)))
  | .infinite s => some (.infinite s)
  | .notANumber => none

/-- What a value is worth, if it is a number. -/
def Value.quantity? : Value → Option Quantity
  | .bool b => some (.finite (b.toNat : ℚ))
  | .int n => some (.finite n)
  | .float x => x.quantity?
  | _ => none

/-! ### Multiplying out -/

/-- A quotient by a power of two, as a numerator and a denominator. -/
theorem divideByPowerOfTwo_eq {m num den : Nat} {q : Int} (h : divideByPowerOfTwo m 1 (-q) = (num, den)) :
    0 < (den : ℚ) ∧ (m : ℚ) * 2 ^ q * den = num := by
  rw [divideByPowerOfTwo] at h
  by_cases hq : 0 ≤ -q
  · rw [if_pos hq] at h
    obtain ⟨k, hk⟩ := Int.eq_ofNat_of_zero_le hq
    obtain rfl : q = -(k : Int) := by omega
    obtain ⟨rfl, rfl⟩ := Prod.mk.inj h
    have hpow : (0 : ℚ) < 2 ^ k := by positivity
    simp only [Nat.one_mul, neg_neg, Int.toNat_natCast, Nat.pow_eq, Nat.cast_pow, Nat.cast_ofNat, zpow_neg,
      zpow_natCast]
    constructor
    · exact hpow
    · field_simp
  · rw [if_neg hq] at h
    obtain ⟨k, hk⟩ := Int.eq_ofNat_of_zero_le (show 0 ≤ q by omega)
    subst hk
    obtain ⟨rfl, rfl⟩ := Prod.mk.inj h
    simp

/-- Two quotients are the same if they are crosswise. -/
theorem cross_eq_iff {a b : ℚ} {n d n' d' : Nat} (hd : 0 < (d : ℚ)) (hd' : 0 < (d' : ℚ)) (ha : a * d = n)
    (hb : b * d' = n') : n * d' = n' * d ↔ a = b := by
  have hcross : n * d' = n' * d ↔ a * d * d' = b * d' * d := by
    rw [ha, hb]
    exact_mod_cast Iff.rfl
  rw [hcross]
  constructor
  · intro h
    have hne : (d : ℚ) * d' ≠ 0 := by positivity
    refine mul_right_cancel₀ hne ?_
    linarith
  · rintro rfl
    exact mul_right_comm a _ _

/-- What has a sign and a size is told by both, but for zero. -/
theorem signed_eq_signed_iff {s t : Bool} {a b : ℚ} (ha : 0 ≤ a) (hb : 0 ≤ b) :
    signed s a = signed t b ↔ a = b ∧ (a = 0 ∨ s = t) := by
  cases s <;> cases t <;> simp only [signed, Bool.false_eq_true, if_true, if_false, or_true, and_true, or_false,
    reduceCtorEq, neg_inj]
  · constructor
    · intro h
      constructor <;> linarith
    · rintro ⟨rfl, h⟩
      linarith
  · constructor
    · intro h
      constructor <;> linarith
    · rintro ⟨rfl, h⟩
      linarith

/-! ### Sameness -/

namespace Double

theorem size_nonneg (m : Nat) (q : Int) : (0 : ℚ) ≤ m * 2 ^ q := by
  positivity

theorem size_eq_zero_iff {m : Nat} {q : Int} : (m : ℚ) * 2 ^ q = 0 ↔ m = 0 := by
  have hpow : (2 : ℚ) ^ q ≠ 0 := by positivity
  rw [mul_eq_zero, or_iff_left hpow, Nat.cast_eq_zero]

/-- Doubles are the same if they are worth the same. -/
theorem sameNumber_iff (x y : Double) :
    x.sameNumber y = true ↔ ∃ a, x.quantity? = some a ∧ y.quantity? = some a := by
  cases x <;> cases y <;> simp only [sameNumber, quantity?, Option.some.injEq, reduceCtorEq, false_and, and_false,
    exists_false, exists_eq_left', Bool.false_eq_true, beq_iff_eq, Quantity.infinite.injEq, Quantity.finite.injEq]
  case finite.finite s m q s' m' q' =>
    rcases hx : divideByPowerOfTwo m 1 (-q) with ⟨num, den⟩
    rcases hy : divideByPowerOfTwo m' 1 (-q') with ⟨num', den'⟩
    obtain ⟨hden, hnum⟩ := divideByPowerOfTwo_eq hx
    obtain ⟨hden', hnum'⟩ := divideByPowerOfTwo_eq hy
    refine Iff.trans ?_ eq_comm
    rw [signed_eq_signed_iff (size_nonneg m q) (size_nonneg m' q'), ← cross_eq_iff hden hden' hnum hnum',
      size_eq_zero_iff]
    simp only [Bool.and_eq_true, Bool.or_eq_true, beq_iff_eq]
  case infinite.infinite s s' => exact eq_comm

/-- A double is the same as a whole number if it is worth that number. -/
theorem equalsInt_iff (x : Double) (n : Int) : x.equalsInt n = true ↔ x.quantity? = some (.finite n) := by
  cases x <;> simp only [equalsInt, quantity?, Option.some.injEq, reduceCtorEq, Bool.false_eq_true,
    Quantity.finite.injEq]
  case finite s m q =>
    rcases hx : divideByPowerOfTwo m 1 (-q) with ⟨num, den⟩
    obtain ⟨hden, hnum⟩ := divideByPowerOfTwo_eq hx
    have hsign : (n : ℚ) = signed (decide (n < 0)) (n.natAbs : ℚ) := by
      rw [signed, Nat.cast_natAbs, Int.cast_abs]
      by_cases hn : n < 0
      · have hneg : (n : ℚ) < 0 := by exact_mod_cast hn
        rw [if_pos (decide_eq_true hn), abs_of_neg hneg, neg_neg]
      · have hpos : (0 : ℚ) ≤ n := by exact_mod_cast not_lt.mp hn
        rw [if_neg (by simpa using hn), abs_of_nonneg hpos]
    have hsize : num * 1 = n.natAbs * den ↔ (m : ℚ) * 2 ^ q = n.natAbs :=
      cross_eq_iff hden (by norm_num) hnum (by norm_num)
    rw [Nat.mul_one] at hsize
    rw [hsign, signed_eq_signed_iff (size_nonneg m q) (Nat.cast_nonneg _), ← hsize, Bool.and_eq_true, beq_iff_eq,
      Bool.or_eq_true, beq_iff_eq, beq_iff_eq]
    refine and_congr_right fun h => or_congr_left ?_
    rw [hsize.mp h, Nat.cast_eq_zero, Int.natAbs_eq_zero]

end Double

namespace Value

/-- A number that is no double is worth its whole number. -/
theorem quantity?_of_asInt? {v : Value} {n : Int} (h : v.asInt? = some n) : v.quantity? = some (.finite n) := by
  cases v <;> simp only [asInt?, reduceCtorEq, Option.some.injEq] at h
  case bool b =>
    subst h
    rw [quantity?, Int.cast_natCast]
  case int => rw [quantity?, h]

/-- What is neither a double nor a whole number is worth nothing. -/
theorem quantity?_of_asInt?_eq_none {v : Value} (hv : ∀ x, v ≠ .float x) (h : v.asInt? = none) :
    v.quantity? = none := by
  cases v <;> simp only [asInt?, reduceCtorEq] at h <;> first | rfl | exact absurd rfl (hv _)

/-- **Numbers are the same if they are worth the same**, of whatever kinds they are. -/
theorem sameNumber?_iff (v w : Value) :
    (sameNumber? v w).getD false = true ↔ ∃ a, v.quantity? = some a ∧ w.quantity? = some a := by
  fun_cases sameNumber? v w
  case case1 x y => exact Double.sameNumber_iff x y
  case case2 x hw =>
    rcases hn : w.asInt? with _ | n
    · simp [quantity?_of_asInt?_eq_none hw hn]
    · simp only [Option.map_some, Option.getD_some, Double.equalsInt_iff, quantity?_of_asInt? hn]
      constructor
      · intro h
        exact ⟨_, h, rfl⟩
      · rintro ⟨a, h, ⟨⟩⟩
        exact h
  case case3 y hv =>
    rcases hn : v.asInt? with _ | n
    · simp [quantity?_of_asInt?_eq_none hv hn]
    · simp only [Option.map_some, Option.getD_some, Double.equalsInt_iff, quantity?_of_asInt? hn]
      constructor
      · intro h
        exact ⟨_, rfl, h⟩
      · rintro ⟨a, ⟨⟩, h⟩
        exact h
  case case4 hv hw _ =>
    rcases hm : v.asInt? with _ | m
    · simp [quantity?_of_asInt?_eq_none hv hm]
    · rcases hn : w.asInt? with _ | n
      · simp [quantity?_of_asInt?_eq_none hw hn]
      · rw [quantity?_of_asInt? hm, quantity?_of_asInt? hn]
        simp only [Option.bind_eq_bind, Option.bind_some, Option.pure_def, Option.getD_some, beq_iff_eq,
          Option.some.injEq, exists_eq_left', Quantity.finite.injEq, Int.cast_inj]
        exact eq_comm

end Value

end Landscape
