import Landscape.Proofs.Text.Alias
import Mathlib.Algebra.GroupWithZero.Nat

/-!
# Line breaks

A text of lines has a break behind each of them, and consists of these lines if and only if none of them holds a break
of its own (`Landscape.breaksIn_lines_eq_iff`). Aliases hold none (`Landscape.breaksIn_aliasOf`), while names, endpoints
and paths may.
-/

namespace Landscape

/-! ### Breaks in texts -/

/-- How many line breaks a text holds. -/
def breaksIn (s : String) : Nat :=
  s.toList.count '\n'

@[simp] theorem breaksIn_append (s t : String) : breaksIn (s ++ t) = breaksIn s + breaksIn t := by
  rw [breaksIn, String.toList_append, List.count_append]
  rfl

@[simp] theorem breaksIn_empty : breaksIn "" = 0 :=
  rfl

/-- A separator without breaks adds none. -/
theorem breaksIn_intercalate {sep : String} (h : breaksIn sep = 0) (ss : List String) :
    breaksIn (sep.intercalate ss) = (ss.map breaksIn).sum := by
  induction ss with
  | nil => rfl
  | cons s ss ih =>
    cases ss with
    | nil => simp [breaksIn]
    | cons t ss =>
      simp only [String.intercalate_cons_cons, breaksIn_append, h, ih, List.map_cons, List.sum_cons, Nat.add_zero]

/-- The breaks of some texts. -/
def breaksAmong (ts : List String) : Nat :=
  (ts.map breaksIn).sum

@[simp] theorem breaksAmong_nil : breaksAmong [] = 0 :=
  rfl

@[simp] theorem breaksAmong_cons (t : String) (ts : List String) :
    breaksAmong (t :: ts) = breaksIn t + breaksAmong ts := by
  rw [breaksAmong, List.map_cons, List.sum_cons, breaksAmong]

@[simp] theorem breaksAmong_append (ts ts' : List String) :
    breaksAmong (ts ++ ts') = breaksAmong ts + breaksAmong ts' := by
  rw [breaksAmong, List.map_append, List.sum_append, breaksAmong, breaksAmong]

theorem breaksAmong_eq_zero_iff {ts : List String} : breaksAmong ts = 0 ↔ ∀ t ∈ ts, breaksIn t = 0 := by
  induction ts with
  | nil => simp
  | cons t ts ih => rw [breaksAmong_cons, Nat.add_eq_zero_iff, ih, List.forall_mem_cons]

/-- Groups of texts that have the breaks of other groups. -/
theorem breaksAmong_flatMap_congr {α : Type} {f g : α → List String} (h : ∀ x, breaksAmong (f x) = breaksAmong (g x))
    (xs : List α) : breaksAmong (xs.flatMap f) = breaksAmong (xs.flatMap g) := by
  induction xs with
  | nil => rfl
  | cons x xs ih => rw [List.flatMap_cons, List.flatMap_cons, breaksAmong_append, breaksAmong_append, h, ih]

/-- Groups of texts without breaks. -/
theorem breaksAmong_flatMap_of_zero {α : Type} {f : α → List String} (h : ∀ x, breaksAmong (f x) = 0) (xs : List α) :
    breaksAmong (xs.flatMap f) = 0 := by
  induction xs with
  | nil => rfl
  | cons x xs ih => rw [List.flatMap_cons, breaksAmong_append, h, ih]

/-- There is no line break in an alias. -/
theorem breaksIn_aliasOf (name : String) : breaksIn (aliasOf name) = 0 := by
  rw [breaksIn, toList_aliasOf, List.count_eq_zero]
  intro h
  have hblank : isBlank '\n' = false := by simpa using (List.mem_filter.mp h).2
  exact absurd hblank (by decide)

/-- A text that holds no breaks. -/
theorem breaksIn_eq_zero_iff {s : String} : breaksIn s = 0 ↔ '\n' ∉ s.toList :=
  List.count_eq_zero

/-! ### Texts of lines -/

/-- A text of lines has the breaks of the lines, and one behind each of them. -/
theorem breaksIn_lines (ls : List String) :
    breaksIn (String.join (ls.map (· ++ "\n"))) = ls.length + breaksAmong ls := by
  induction ls with
  | nil => rfl
  | cons l ls ih =>
    have hbreak : breaksIn "\n" = 1 := by decide
    rw [List.map_cons, String.join_cons, breaksIn_append, breaksIn_append, ih, hbreak, breaksAmong_cons,
      List.length_cons]
    omega

/-- **A text of lines has as many lines**, if and only if none of them holds a break. -/
theorem breaksIn_lines_eq_iff {ls : List String} :
    breaksIn (String.join (ls.map (· ++ "\n"))) = ls.length ↔ ∀ l ∈ ls, breaksIn l = 0 := by
  rw [breaksIn_lines, Nat.add_eq_left, breaksAmong_eq_zero_iff]

/-- A text of lines without breaks consists of these lines. -/
theorem splitOn_join_lines {ls : List String} (h : ∀ l ∈ ls, breaksIn l = 0) :
    (String.join (ls.map (· ++ "\n"))).toList.splitOn '\n' = ls.map String.toList ++ [[]] := by
  -- a break after each line is a break between the lines and an empty line at the end
  have hlines : (String.join (ls.map (· ++ "\n"))).toList =
      ['\n'].intercalate (ls.map String.toList ++ [[]]) := by
    clear h
    induction ls with
    | nil => rfl
    | cons l ls ih =>
      rw [String.toList_join] at ih ⊢
      have hne : ls.map String.toList ++ [[]] ≠ [] := by simp
      rw [List.map_cons, List.map_cons, List.cons_append, List.intercalate_cons_of_ne_nil hne, ← ih]
      simp
  rw [hlines, List.splitOn_intercalate]
  · intro cs hcs
    obtain hcs | hcs := List.mem_append.mp hcs
    · obtain ⟨l, hl, rfl⟩ := List.mem_map.mp hcs
      exact breaksIn_eq_zero_iff.mp (h l hl)
    · simp [List.mem_singleton.mp hcs]
  · simp

end Landscape
