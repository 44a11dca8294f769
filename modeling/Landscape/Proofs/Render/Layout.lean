import Landscape.Proofs.Render.Drawing

/-!
# The text with its layout

Where Graphviz is missing, a line that asks for another layout is put into the text of a diagram, after the mark that
begins it. Of several marks it is the first (`Landscape.PlantUml.exists_holdsFirst`), and what stands before and after
stays as it is. A text that has the line, wherever it stands, is not given another, and so the line is put in once
(`Landscape.PlantUml.withLayout_withLayout`).

A text can be sent with that line if and only if it can be sent without (`Landscape.PlantUml.holdsHalves_withLayout`).
That is not for granted, since characters of a text may be read in pairs. But a pair does not reach over a character
that always means itself (`Landscape.points_append`), and the mark and the line end with such characters.
-/

namespace Landscape

/-! ### Reading one text after another -/

/-- Whether a character means itself wherever it stands: it stands for no half, and is not the mark in front of
another. -/
def meansItself (c : Char) : Bool :=
  !isHalf c && c != meantMark

theorem points_cons_of_meansItself {c : Char} (hc : meansItself c = true) (t : List Char) :
    points (c :: t) = points [c] ++ points t := by
  obtain ⟨-, hmark⟩ : isHalf c = false ∧ c ≠ meantMark := by simpa [meansItself] using hc
  cases t with
  | nil => simp [points]
  | cons d t => simp [points, hmark]

/-- **One text after another** is read as the one and then the other, if the first ends with a character that means
itself. -/
theorem points_append {s : List Char} (h : s.getLast?.any meansItself = true) (t : List Char) :
    points (s ++ t) = points s ++ points t := by
  -- the induction follows the reading, which may take two characters at once
  induction s using points.induct with
  | case1 => simp at h
  | case2 c => exact points_cons_of_meansItself (by simpa using h) t
  | case3 c d r hmark ih =>
    cases r with
    | nil => simp [points, hmark]  -- the last character is the one that is marked
    | cons e r =>
      have hrest := ih (by simpa using h)
      simp only [List.cons_append] at hrest ⊢
      simp [points, hmark, hrest]
  | case4 c d r hmark ih =>
    have hrest := ih (by simpa using h)
    simp only [List.cons_append] at hrest ⊢
    simp [points, hmark, hrest]

/-! ### Halves -/

theorem Utf8.halvesFrom?_eq_none_iff {n : Nat} {ps : List Point} :
    halvesFrom? n ps = none ↔ ∀ p ∈ ps, ∃ c, p = .char c := by
  induction ps generalizing n with
  | nil => simp [halvesFrom?]
  | cons p ps ih =>
    cases p with
    | char c => simp [halvesFrom?, ih]
    | half m => simp [halvesFrom?]

/-- A text holds no halves if it is made of characters. -/
theorem holdsHalves_eq_false_iff {s : String} :
    holdsHalves s = false ↔ ∀ p ∈ points s.toList, ∃ c, p = .char c := by
  rw [holdsHalves, Option.isSome_eq_false_iff, Option.isNone_iff_eq_none, Utf8.halves?,
    Utf8.halvesFrom?_eq_none_iff]

/-! ### Texts within texts -/

/-- A text occurs in another if that has it inside. -/
theorem occursIn_iff {what s : List Char} : occursIn what s = true ↔ what <:+: s := by
  induction s with
  | nil => simp [occursIn]
  | cons c r ih => rw [occursIn, Bool.or_eq_true, ih, List.isPrefixOf_iff_prefix, List.infix_cons_iff]

/-- A text **holds a mark first** between two parts: it is made of them, and the mark stands nowhere further in front. -/
structure HoldsFirst (mark before after s : List Char) : Prop where
  eq : s = before ++ mark ++ after
  first : ∀ before' after', s = before' ++ mark ++ after' → before.length ≤ before'.length

namespace PlantUml

/-- A text without the mark has no place for what is to be put in. -/
theorem insertAfter_of_absent {mark s : List Char} (h : ¬mark <:+: s) (what : List Char) :
    insertAfter mark what s = s := by
  induction s with
  | nil =>
    have hmark : mark ≠ [] := by
      rintro rfl
      exact h List.nil_infix
    rw [insertAfter, List.isEmpty_eq_false_iff.mpr hmark, if_neg Bool.false_ne_true]
  | cons c r ih =>
    obtain ⟨hfront, hrest⟩ := not_or.mp (mt List.infix_cons_iff.mpr h)
    rw [insertAfter, if_neg (mt List.isPrefixOf_iff_prefix.mp hfront), ih hrest]

/-- **What is put in stands after the first mark**, and the parts before and after it stay as they are. -/
theorem exists_holdsFirst {mark s : List Char} (h : mark <:+: s) (what : List Char) : ∃ before after,
    HoldsFirst mark before after s ∧ insertAfter mark what s = before ++ mark ++ (what ++ after) := by
  induction s with
  | nil =>
    obtain rfl := List.eq_nil_of_infix_nil h
    exact ⟨[], [], ⟨rfl, fun _ _ _ => Nat.zero_le _⟩, by simp [insertAfter]⟩
  | cons c r ih =>
    by_cases hfront : mark <+: c :: r
    · obtain ⟨after, hafter⟩ := hfront
      refine ⟨[], after, ⟨hafter.symm, fun _ _ _ => Nat.zero_le _⟩, ?_⟩
      rw [insertAfter, if_pos (List.isPrefixOf_iff_prefix.mpr ⟨after, hafter⟩), ← hafter, List.drop_left,
        List.nil_append, List.append_assoc]
    · obtain ⟨before, after, ⟨hr, hfirst⟩, hput⟩ := ih ((List.infix_cons_iff.mp h).resolve_left hfront)
      refine ⟨c :: before, after, ⟨by rw [hr]; rfl, fun before' after' heq => ?_⟩, ?_⟩
      · -- the mark is not at the beginning, so one before it is one in the rest
        cases before' with
        | nil => exact absurd ⟨after', heq.symm⟩ hfront
        | cons d before' => exact Nat.succ_le_succ (hfirst before' after' (List.cons.inj heq).2)
      · rw [insertAfter, if_neg (mt List.isPrefixOf_iff_prefix.mp hfront), hput]
        rfl

/-! ### The line of the layout -/

/-- The line that asks for a layout, with the break in front of it. -/
def layoutLine : List Char :=
  '\n' :: layoutPragma.toList

/-- A text **needs no line** for its layout: Graphviz is there, or the text asks for a layout itself, or no diagram
begins in it. -/
def NeedsNoLine (graphviz : Bool) (text : String) : Prop :=
  graphviz = true ∨ layoutPragma.toList <:+: text.toList ∨ ¬startMark.toList <:+: text.toList

theorem withLayout_of_needsNoLine {graphviz : Bool} {text : String} (h : NeedsNoLine graphviz text) :
    withLayout graphviz text = text := by
  rw [withLayout]
  split
  · rfl
  · next hasks =>
    have hnot : ¬(graphviz = true ∨ layoutPragma.toList <:+: text.toList) := by
      rwa [Bool.or_eq_true, occursIn_iff] at hasks
    have hstart : ¬startMark.toList <:+: text.toList := (or_assoc.mpr h).resolve_left hnot
    rw [insertAfter_of_absent hstart, String.ofList_toList]

/-- **A text that needs the line** gets it after the first mark. -/
theorem exists_withLayout {graphviz : Bool} {text : String} (h : ¬NeedsNoLine graphviz text) : ∃ before after,
    HoldsFirst startMark.toList before after text.toList ∧
      (withLayout graphviz text).toList = before ++ startMark.toList ++ (layoutLine ++ after) := by
  obtain ⟨hgraphviz, hrest⟩ := not_or.mp h
  obtain ⟨hpragma, hstart⟩ := not_or.mp hrest
  obtain ⟨before, after, hfirst, hput⟩ := exists_holdsFirst (not_not.mp hstart) layoutLine
  refine ⟨before, after, hfirst, ?_⟩
  have hasks : (graphviz || occursIn layoutPragma.toList text.toList) = false := by
    rw [Bool.eq_false_iff, ne_eq, Bool.or_eq_true, occursIn_iff, not_or]
    exact ⟨hgraphviz, hpragma⟩
  rw [withLayout, hasks, if_neg Bool.false_ne_true, String.toList_ofList, ← hput]
  rfl

/-- A text has got longer by the line, so it is another. -/
theorem withLayout_eq_self_iff {graphviz : Bool} {text : String} :
    withLayout graphviz text = text ↔ NeedsNoLine graphviz text := by
  refine ⟨fun h => ?_, withLayout_of_needsNoLine⟩
  by_contra hneeds
  obtain ⟨before, after, ⟨htext, -⟩, hput⟩ := exists_withLayout hneeds
  rw [h, htext] at hput
  have hlength := congrArg List.length hput
  simp [layoutLine] at hlength
  omega

/-- **The line is put in once**: a text with its layout needs no line. -/
theorem withLayout_withLayout (graphviz : Bool) (text : String) :
    withLayout graphviz (withLayout graphviz text) = withLayout graphviz text := by
  by_cases h : NeedsNoLine graphviz text
  · rw [withLayout_of_needsNoLine h, withLayout_of_needsNoLine h]
  · obtain ⟨before, after, -, hput⟩ := exists_withLayout h
    refine withLayout_of_needsNoLine (.inr (.inl ⟨before ++ startMark.toList ++ ['\n'], after, ?_⟩))
    rw [hput, layoutLine]
    simp

/-- A text with the line in it is read as before, and the line as itself. -/
theorem mem_points_insert {before after : List Char} {p : Point} :
    p ∈ points (before ++ startMark.toList ++ (layoutLine ++ after)) ↔
      p ∈ points (before ++ startMark.toList ++ after) ∨ p ∈ points layoutLine := by
  have hstart : (before ++ startMark.toList).getLast?.any meansItself = true := by
    rw [List.getLast?_append]
    exact (by decide : (startMark.toList.getLast?.or none).any meansItself = true)
  have hline : layoutLine.getLast?.any meansItself = true := by decide
  rw [points_append hstart, points_append hstart, points_append hline]
  simp only [List.mem_append]
  rw [← or_assoc, or_right_comm]

/-- **A text can be sent with its layout** if and only if it can be sent. -/
theorem holdsHalves_withLayout (graphviz : Bool) (text : String) :
    holdsHalves (withLayout graphviz text) = holdsHalves text := by
  by_cases h : NeedsNoLine graphviz text
  · rw [withLayout_of_needsNoLine h]
  · obtain ⟨before, after, ⟨htext, -⟩, hput⟩ := exists_withLayout h
    have hline : ∀ p ∈ points layoutLine, ∃ c, p = .char c :=
      Utf8.halvesFrom?_eq_none_iff.mp (by decide : Utf8.halvesFrom? 0 (points layoutLine) = none)
    have hiff : holdsHalves (withLayout graphviz text) = false ↔ holdsHalves text = false := by
      rw [holdsHalves_eq_false_iff, holdsHalves_eq_false_iff, hput, htext]
      simp only [mem_points_insert]
      exact ⟨fun h p hp => h p (.inl hp), fun h p hp => hp.elim (h p) (hline p)⟩
    rw [Bool.eq_iff_iff, ← Bool.not_eq_false, ← Bool.not_eq_false]
    exact not_congr hiff

end PlantUml

end Landscape
