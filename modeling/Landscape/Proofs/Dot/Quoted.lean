import Landscape.Proofs.Dot.Token
import Mathlib.Algebra.Group.Even
import Mathlib.Algebra.Ring.Parity
import Mathlib.Data.List.DropRight

/-!
# Identifiers as they stand in a text

What is written for an identifier is one token of DOT (`Landscape.Dot.IsIdentifier`): a word or a numeral that is no
keyword, or a text in quotes. It is never markup, since that is written only where it is meant.

A text in quotes goes on to the first quote that is not escaped, and a quote is escaped by an odd number of backslashes
before it. So what matters is how many backslashes meet a quote (`Landscape.Dot.IsQuoted`), whether the name had them
or quoting has put them there. If the backslashes of a text are doubled before it is quoted, then each backslash and
each quote of the text gets one backslash of its own (`Landscape.Dot.escapeQuotes_escapeBackslashes`). Then no
backslash of the text ever meets a quote as an escape, and the text can be read off the quoted one
(`Landscape.Dot.halveBackslashes_escapeBackslashes`).

The exception is a word or a numeral with a line break at its end. It is written bare, and then the line break is not
part of the token (`Landscape.Dot.isIdentifier_quoteId_iff`).
-/

namespace Landscape.Dot

/-! ### Tokens -/

/-- How many backslashes a text ends with. -/
def backslashesAtEnd (s : List Char) : Nat :=
  (s.rtakeWhile (· == '\\')).length

/-- **A text in quotes.** Of the quotes after the first, the last one is the only one that is not escaped: the only one
with an even number of backslashes before it. -/
def IsQuoted (t : List Char) : Prop :=
  ∃ body, t = '"' :: (body ++ ['"']) ∧
    ∀ a b, body ++ ['"'] = a ++ '"' :: b → (Even (backslashesAtEnd a) ↔ b = [])

/-- **One identifier**, and nothing else: a word or a numeral that DOT does not keep, or a text in quotes. -/
def IsIdentifier (t : List Char) : Prop :=
  isPlain t = true ∧ isKeyword t = false ∨ IsQuoted t

/-- An identifier is no markup. -/
theorem IsIdentifier.ne_markup {t : List Char} (h : IsIdentifier t) (r : List Char) : t ≠ '<' :: r := by
  rintro rfl
  obtain ⟨hplain, -⟩ | ⟨body, hbody, -⟩ := h
  · exact absurd (eq_of_mem_of_isPlain hplain List.mem_cons_self) (by decide)
  · cases hbody

/-! ### Backslashes before quotes -/

theorem backslashesAtEnd_concat (s : List Char) (c : Char) :
    backslashesAtEnd (s ++ [c]) = if c = '\\' then backslashesAtEnd s + 1 else 0 := by
  rw [backslashesAtEnd, List.rtakeWhile_concat]
  by_cases hc : c = '\\'
  · simp [hc, backslashesAtEnd]
  · simp [hc]

/-- What a character is written as in quotes: a backslash or a quote after a backslash of its own. -/
def escaped (c : Char) : List Char :=
  if c = '\\' ∨ c = '"' then ['\\', c] else [c]

/-- **Quoting after doubling** escapes the text character by character. -/
theorem escapeQuotes_escapeBackslashes (s : List Char) :
    escapeQuotes (escapeBackslashes s) = s.flatMap escaped := by
  induction s with
  | nil => rfl
  | cons c s ih =>
    rw [escapeBackslashes_cons, List.flatMap_cons, ← ih]
    by_cases hback : c = '\\'
    · rw [if_pos hback, hback]
      rfl
    · rw [if_neg hback]
      by_cases hquote : c = '"'
      · rw [hquote]
        rfl
      · simp [escaped, escapeQuotes, hback, hquote]

/-- A quote is written only for a quote, after its backslash. -/
theorem eq_of_escaped_eq_append {c : Char} {a b : List Char} (h : escaped c = a ++ '"' :: b) : a = ['\\'] ∧ b = [] := by
  rw [escaped] at h
  split at h
  · match a with
    | [] => simp at h
    | [d] =>
      obtain ⟨hd, -, hb⟩ : '\\' = d ∧ c = '"' ∧ [] = b := by simpa using h
      exact ⟨congrArg (fun d => [d]) hd.symm, hb.symm⟩
    | d :: e :: a => simp at h
  · rename_i hc
    match a with
    | [] => exact absurd (.inr (List.cons.inj h).1) hc
    | d :: a => simp at h

/-- What is written ends with whole pairs of backslashes. -/
theorem even_backslashesAtEnd (s : List Char) : Even (backslashesAtEnd (s.flatMap escaped)) := by
  induction s using List.reverseRecOn with
  | nil => exact ⟨0, rfl⟩
  | append_singleton s c ih =>
    rw [List.flatMap_append, List.flatMap_singleton, escaped]
    split
    · rw [← List.singleton_append, ← List.append_assoc, backslashesAtEnd_concat, backslashesAtEnd_concat, if_pos rfl]
      split
      · exact ih.add even_two
      · exact ⟨0, rfl⟩
    · rename_i hc
      rw [backslashesAtEnd_concat, if_neg fun h => hc (.inl h)]
      exact ⟨0, rfl⟩

/-- Each quote that is written has its own backslash after such pairs. -/
theorem not_even_backslashesAtEnd {s a b : List Char} (h : s.flatMap escaped = a ++ '"' :: b) :
    ¬ Even (backslashesAtEnd a) := by
  induction s using List.reverseRecOn generalizing b with
  | nil => simp at h
  | append_singleton s c ih =>
    rw [List.flatMap_append, List.flatMap_singleton, List.append_eq_append_iff] at h
    obtain ⟨as, rfl, hlast⟩ | ⟨bs, hbefore, hb⟩ := h
    · -- the quote is in what was written for the last character
      obtain ⟨rfl, -⟩ := eq_of_escaped_eq_append hlast
      rw [backslashesAtEnd_concat, if_pos rfl, Nat.even_add_one, not_not]
      exact even_backslashesAtEnd s
    · cases bs with
      | nil => exact absurd (eq_of_escaped_eq_append (a := []) hb.symm).1 nofun
      | cons d bs =>
        injection hb with hd
        subst hd
        exact ih hbefore

/-- **What is written in quotes** after the doubling is one text in quotes. -/
theorem isQuoted_escapeQuotes (s : List Char) :
    IsQuoted ('"' :: (escapeQuotes (escapeBackslashes s) ++ ['"'])) := by
  refine ⟨_, rfl, fun a b h => ?_⟩
  rw [escapeQuotes_escapeBackslashes] at h
  cases b using List.reverseRecOn with
  | nil =>
    obtain rfl := List.append_cancel_right h
    exact iff_of_true (even_backslashesAtEnd s) rfl
  | append_singleton b c =>
    rw [← List.cons_append, ← List.append_assoc] at h
    have hbody := (List.append_inj' h rfl).1
    exact iff_of_false (not_even_backslashesAtEnd hbody) (by simp)

/-- **What is written for an identifier** is one identifier, unless there is a loose line break. -/
theorem isIdentifier_quoteId_iff (s : List Char) :
    IsIdentifier (quoteId (escapeBackslashes s)) ↔ endsLoose s = false := by
  constructor
  · intro h
    rw [Bool.eq_false_iff]
    intro hloose
    obtain ⟨w, rfl, hw, -⟩ := exists_of_endsLoose hloose
    rw [quoteId_of_endsLoose hloose] at h
    obtain ⟨hplain, -⟩ | ⟨body, hbody, -⟩ := h
    · exact absurd (eq_of_mem_of_isPlain hplain (List.mem_append_right w (List.mem_singleton_self _))) (by decide)
    · have hlast := congrArg List.getLast? hbody
      simp [List.getLast?_cons] at hlast
  · intro h
    rw [quoteId]
    split
    · rename_i hbare
      rw [isBare_iff, endsLoose_escapeBackslashes, h] at hbare
      exact .inl ⟨hbare.1.resolve_right Bool.false_ne_true, hbare.2⟩
    · exact .inr (isQuoted_escapeQuotes s)

/-! ### Undoing the doubling -/

/-- The text with each pair of backslashes made one. -/
def halveBackslashes : List Char → List Char
  | '\\' :: '\\' :: r => '\\' :: halveBackslashes r
  | c :: r => c :: halveBackslashes r
  | [] => []

theorem halveBackslashes_escapeBackslashes : Function.LeftInverse halveBackslashes escapeBackslashes := by
  intro s
  induction s with
  | nil => rfl
  | cons c s ih =>
    rw [escapeBackslashes_cons]
    by_cases hc : c = '\\'
    · simp [hc, halveBackslashes, ih]
    · simp [hc, halveBackslashes, ih]

end Landscape.Dot
