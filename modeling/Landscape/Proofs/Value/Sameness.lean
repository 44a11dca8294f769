import Landscape.Proofs.Loading.Language
import Landscape.Proofs.Value.Quantity

/-!
# What a key stands for

A value that may be a key stands for something (`Landscape.Value.meaning?`): a number for its quantity, whatever its
kind, a moment that says its offset for a point of universal time, a tuple for what its items stand for. Two keys are
the same if and only if they stand for the same thing (`Landscape.Value.IsKey.same_iff`), so among keys sameness is
symmetric and transitive, and a table that is searched by it cannot answer in two ways.

It is not reflexive. A double that is not a number stands for nothing, unless it is a value that was made at a place, and
then it is told by the place. Equality (`Landscape.Value.Equals`) does not go by places: it is sameness but for what is
not a number, which equals nothing, itself included.
-/

namespace Landscape

/-- What a moment can stand for. -/
inductive Instant where
  /-- What a clock shows that does not say its offset. -/
  | clock (m : Moment)
  /-- A point of universal time. -/
  | universal (minute : Int) (second microsecond : Nat)

/-- What a key can stand for. -/
inductive Meaning where
  | nothing
  | number (x : Quantity)
  | place (n : Nat)
  | text (s : String)
  | bytes (bs : List UInt8)
  | date (d : Date)
  | instant (t : Instant)
  | parts (xs : List Meaning)

/-- What a moment stands for. -/
def Moment.instant (m : Moment) : Instant :=
  match m.offset with
  | none => .clock m
  | some x => .universal (m.universalMinute x) m.second m.microsecond

namespace Value

mutual
/-- **What a key stands for**, if it stands for anything. -/
def meaning? : Value → Option Meaning
  | .null => some .nothing
  | .bool b => (Value.bool b).quantity?.map .number
  | .int n => (Value.int n).quantity?.map .number
  | .float x => (Value.float x).quantity?.map .number
  | .nan p => some (.place p)
  | .text s => some (.text s)
  | .bytes bs => some (.bytes bs)
  | .date d => some (.date d)
  | .moment m => some (.instant m.instant)
  | .tuple xs => (meanings? xs).map .parts
  | .list _ | .mapping _ | .set _ | .again _ => none

/-- What some keys stand for, if each of them stands for anything. -/
def meanings? : List Value → Option (List Meaning)
  | [] => some []
  | x :: xs => do return (← meaning? x) :: (← meanings? xs)
end

/-- **Equality of keys**: they stand for the same thing, and are not what is not a number. -/
def Equals (v w : Value) : Prop :=
  (∀ p, v ≠ .nan p) ∧ ∃ x, v.meaning? = some x ∧ w.meaning? = some x

end Value

/-- Moments are the same if they stand for the same. -/
theorem Moment.same_iff (a b : Moment) : a.same b = true ↔ a.instant = b.instant := by
  rw [Moment.same, Moment.instant, Moment.instant]
  rcases ha : a.offset with _ | x <;> rcases hb : b.offset with _ | y <;> simp [and_assoc]

namespace Value

/-! ### Numbers -/

/-- A number stands for its quantity. -/
theorem meaning?_eq_number_iff {v : Value} {a : Quantity} : v.meaning? = some (.number a) ↔ v.quantity? = some a := by
  cases v <;> simp [meaning?, quantity?]

theorem same_bool (b : Bool) (w : Value) : same (.bool b) w = (sameNumber? (.bool b) w).getD false := by
  cases w <;> simp only [same]

theorem same_int (n : Int) (w : Value) : same (.int n) w = (sameNumber? (.int n) w).getD false := by
  cases w <;> simp only [same]

theorem same_float (x : Double) (w : Value) : same (.float x) w = (sameNumber? (.float x) w).getD false := by
  cases w <;> simp only [same]

/-- What is the same as a number stands for its quantity. -/
theorem number_iff {v w : Value} (h : v.meaning? = v.quantity?.map .number) :
    (sameNumber? v w).getD false = true ↔ ∃ x, v.meaning? = some x ∧ w.meaning? = some x := by
  rw [sameNumber?_iff, h]
  constructor
  · rintro ⟨a, hv, hw⟩
    exact ⟨.number a, by rw [hv, Option.map_some], meaning?_eq_number_iff.mpr hw⟩
  · rintro ⟨x, hv, hw⟩
    obtain ⟨a, ha, rfl⟩ := Option.map_eq_some_iff.mp hv
    exact ⟨a, ha, meaning?_eq_number_iff.mp hw⟩

/-! ### Keys -/

theorem meaning?_tuple_eq_some_iff {xs : List Value} {x : Meaning} :
    (Value.tuple xs).meaning? = some x ↔ ∃ zs, meanings? xs = some zs ∧ .parts zs = x := by
  rw [meaning?, Option.map_eq_some_iff]

theorem meanings?_cons_eq_some_iff {v : Value} {vs : List Value} {zs : List Meaning} :
    meanings? (v :: vs) = some zs ↔ ∃ y ys, v.meaning? = some y ∧ meanings? vs = some ys ∧ y :: ys = zs := by
  simp [meanings?, Option.bind_eq_some_iff]

/-- Lists of keys are the same if they stand for the same, item by item. -/
theorem sameItems_iff {vs : List Value}
    (h : ∀ v ∈ vs, ∀ w, v.same w = true ↔ ∃ x, v.meaning? = some x ∧ w.meaning? = some x) (ws : List Value) :
    sameItems vs ws = true ↔ ∃ zs, meanings? vs = some zs ∧ meanings? ws = some zs := by
  induction vs generalizing ws with
  | nil => cases ws <;> simp [sameItems, meanings?, Option.bind_eq_some_iff]
  | cons v vs ih =>
    cases ws with
    | nil => simp [sameItems, meanings?, Option.bind_eq_some_iff]
    | cons w ws =>
      rw [sameItems, Bool.and_eq_true, h v (by simp) w, ih (fun v hv => h v (by simp [hv])) ws]
      simp only [meanings?_cons_eq_some_iff]
      constructor
      · rintro ⟨⟨x, hv, hw⟩, zs, hvs, hws⟩
        exact ⟨x :: zs, ⟨x, zs, hv, hvs, rfl⟩, x, zs, hw, hws, rfl⟩
      · rintro ⟨_, ⟨x, zs, hv, hvs, rfl⟩, _, _, hw, hws, h⟩
        obtain ⟨rfl, rfl⟩ := List.cons.inj h
        exact ⟨⟨_, hv, hw⟩, _, hvs, hws⟩

/-- **Keys are the same if they stand for the same.** -/
theorem IsKey.same_iff {v : Value} (hv : v.IsKey) (w : Value) :
    v.same w = true ↔ ∃ x, v.meaning? = some x ∧ w.meaning? = some x := by
  induction hv generalizing w with
  | bool b =>
    rw [same_bool]
    exact number_iff rfl
  | int n =>
    rw [same_int]
    exact number_iff rfl
  | float x =>
    rw [same_float]
    exact number_iff rfl
  | tuple vs _ ih =>
    cases w
    case tuple ws =>
      rw [same, sameItems_iff ih]
      simp only [meaning?_tuple_eq_some_iff]
      constructor
      · rintro ⟨zs, hvs, hws⟩
        exact ⟨_, ⟨zs, hvs, rfl⟩, zs, hws, rfl⟩
      · rintro ⟨_, ⟨zs, hvs, rfl⟩, _, hws, h⟩
        obtain rfl := Meaning.parts.inj h
        exact ⟨_, hvs, hws⟩
    -- a tuple is the same as nothing else
    all_goals simp [same, sameNumber?, asInt?, meaning?]
  | null => cases w <;> simp [same, sameNumber?, asInt?, meaning?]
  | moment m =>
    cases w <;> simp [same, sameNumber?, asInt?, meaning?, Moment.same_iff]
    exact eq_comm
  | _ =>
    cases w <;> simp [same, sameNumber?, asInt?, meaning?]
    exact eq_comm

/-- What is the same as a key is the same the other way round, if it is a key as well. -/
theorem IsKey.same_symm {v w : Value} (hv : v.IsKey) (hw : w.IsKey) (h : v.same w = true) : w.same v = true := by
  obtain ⟨x, hx, hx'⟩ := (hv.same_iff w).mp h
  exact (hw.same_iff v).mpr ⟨x, hx', hx⟩

/-- **Sameness of keys is transitive.** -/
theorem IsKey.same_trans {u v w : Value} (hu : u.IsKey) (hv : v.IsKey) (huv : u.same v = true) (hvw : v.same w = true) :
    u.same w = true := by
  obtain ⟨x, hux, hvx⟩ := (hu.same_iff v).mp huv
  obtain ⟨y, hvy, hwy⟩ := (hv.same_iff w).mp hvw
  obtain rfl : x = y := Option.some.inj (hvx.symm.trans hvy)
  exact (hu.same_iff w).mpr ⟨x, hux, hwy⟩

/-- A key that equals itself is equal to what it is the same as. -/
theorem IsKey.equals_iff {v w : Value} (hv : v.IsKey) (h : v.Equals v) : v.Equals w ↔ v.same w = true := by
  rw [hv.same_iff, Equals]
  exact and_iff_right h.1

end Value

end Landscape
