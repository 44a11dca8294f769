import Landscape.Alias
import Mathlib.Data.List.TakeDrop
import Mathlib.Logic.Relation

/-!
# What is left of a name in its alias

Trimming a name and taking out its runs of blanks is the same as leaving out its blanks one by one
(`Landscape.toList_aliasOf`). So nothing of a name gets lost but its blanks, wherever they stand: names are put together
as their aliases are, and two names share their alias if and only if they differ only in blanks
(`Landscape.alias_normalForm`).

That two texts differ only in blanks is said without aliases: one comes of the other by putting blanks in and taking
blanks out, one at a time (`Landscape.DifferInBlanks`).
-/

namespace Landscape

theorem filter_dropWhile_isBlank (s : List Char) :
    (s.dropWhile isBlank).filter (!isBlank ·) = s.filter (!isBlank ·) := by
  induction s with
  | nil => rfl
  | cons c s ih =>
    cases hc : isBlank c with
    | true => rw [List.dropWhile_cons_of_pos hc, ih, List.filter_cons_of_neg (by simp [hc])]
    | false => rw [List.dropWhile_cons_of_neg (by simp [hc])]

theorem filter_trim (s : List Char) : (trim s).filter (!isBlank ·) = s.filter (!isBlank ·) := by
  rw [trim, trimEnd, List.filter_reverse, filter_dropWhile_isBlank, ← List.filter_reverse, List.reverse_reverse,
    filter_dropWhile_isBlank]

/-- Taking out runs of blanks leaves what is no blank. -/
theorem removeBlankRuns_eq_filter (s : List Char) : removeBlankRuns s = s.filter (!isBlank ·) := by
  fun_induction removeBlankRuns s with
  | case1 => rfl
  | case2 c r hc ih => rw [ih, filter_dropWhile_isBlank, List.filter_cons_of_neg (by simp [hc])]
  | case3 c r hc ih => rw [ih, List.filter_cons_of_pos (by simp [hc])]

/-- **The alias of a name** is what is no blank in it. -/
theorem toList_aliasOf (name : String) : (aliasOf name).toList = name.toList.filter (!isBlank ·) := by
  rw [aliasOf, String.toList_ofList, removeBlankRuns_eq_filter, filter_trim]

/-! ### Names that differ only in blanks -/

/-- One text is the other **with one blank more**. -/
def OneBlankMore (s t : List Char) : Prop :=
  ∃ before blank after, isBlank blank = true ∧ s = before ++ after ∧ t = before ++ blank :: after

/-- Two texts **differ only in blanks**: putting blanks in and taking blanks out leads from one to the other. -/
def DifferInBlanks : List Char → List Char → Prop :=
  Relation.EqvGen OneBlankMore

theorem OneBlankMore.cons {s t : List Char} (h : OneBlankMore s t) (c : Char) : OneBlankMore (c :: s) (c :: t) := by
  obtain ⟨before, blank, after, hblank, rfl, rfl⟩ := h
  exact ⟨c :: before, blank, after, hblank, rfl, rfl⟩

theorem DifferInBlanks.cons {s t : List Char} (h : DifferInBlanks s t) (c : Char) :
    DifferInBlanks (c :: s) (c :: t) := by
  induction h with
  | rel s t hmore => exact .rel _ _ (hmore.cons c)
  | refl s => exact .refl _
  | symm s t _ ih => exact ih.symm
  | trans s t u _ _ ih ih' => exact ih.trans _ _ _ ih'

/-- A blank more does not matter to what is left without blanks, and so no number of them does. -/
theorem DifferInBlanks.filter_eq {s t : List Char} (h : DifferInBlanks s t) :
    s.filter (!isBlank ·) = t.filter (!isBlank ·) := by
  induction h with
  | rel s t hmore =>
    obtain ⟨before, blank, after, hblank, rfl, rfl⟩ := hmore
    rw [List.filter_append, List.filter_append, List.filter_cons_of_neg (by simp [hblank])]
  | refl s => rfl
  | symm s t _ ih => exact ih.symm
  | trans s t u _ _ ih ih' => exact ih.trans ih'

/-- A text differs only in blanks from what is left without them. -/
theorem differInBlanks_filter (s : List Char) : DifferInBlanks (s.filter (!isBlank ·)) s := by
  induction s with
  | nil => exact .refl _
  | cons c s ih =>
    cases hc : isBlank c with
    | true =>
      rw [List.filter_cons_of_neg (by simp [hc])]
      exact ih.trans _ _ _ (.rel _ _ ⟨[], c, s, hc, rfl, rfl⟩)
    | false =>
      rw [List.filter_cons_of_pos (by simp [hc])]
      exact ih.cons c

/-- **Texts differ only in blanks** if and only if the same is left of them without blanks. -/
theorem differInBlanks_iff {s t : List Char} :
    DifferInBlanks s t ↔ s.filter (!isBlank ·) = t.filter (!isBlank ·) := by
  refine ⟨DifferInBlanks.filter_eq, fun h => ?_⟩
  have hs := differInBlanks_filter s
  rw [h] at hs
  exact (hs.symm).trans _ _ _ (differInBlanks_filter t)

/-! ### The normal form -/

/-- **The alias is a normal form of names.** It is what is no blank in a name, in its order, whether the ends are trimmed
first or not. The alias of two names put together is that of one and then that of the other, an alias is its own, and two
names share their alias if and only if they differ only in blanks. -/
theorem alias_normalForm (a b : String) :
    (aliasOf a).toList = a.toList.filter (!isBlank ·) ∧
    removeBlankRuns (trim a.toList) = removeBlankRuns a.toList ∧
    aliasOf (a ++ b) = aliasOf a ++ aliasOf b ∧
    aliasOf (aliasOf a) = aliasOf a ∧
    (aliasOf a = aliasOf b ↔ DifferInBlanks a.toList b.toList) := by
  refine ⟨toList_aliasOf a, ?_, ?_, ?_, ?_⟩
  · rw [removeBlankRuns_eq_filter, removeBlankRuns_eq_filter, filter_trim]
  · rw [← String.toList_inj, String.toList_append, toList_aliasOf, toList_aliasOf, toList_aliasOf, String.toList_append,
      List.filter_append]
  · rw [← String.toList_inj, toList_aliasOf, toList_aliasOf, List.filter_filter]
    simp only [Bool.and_self]
  · rw [← String.toList_inj, toList_aliasOf, toList_aliasOf, differInBlanks_iff]

end Landscape
