import Mathlib.Data.List.TakeWhile

/-!
# Cutting a text where something begins

What a text is cut into by taking characters as long as they are of some kind. If it begins with such characters and
goes on with another, then these are what is taken (`Landscape.takeWhile_append_of_all`); so a text is cut at
the first place of a character (`Landscape.takeWhile_append_cons_of_notMem`).
-/

namespace Landscape

theorem takeWhile_append_of_all {p : Char → Bool} {s r : List Char} (hs : ∀ c ∈ s, p c = true)
    (hr : ∀ c ∈ r.head?, p c = false) : (s ++ r).takeWhile p = s ∧ (s ++ r).dropWhile p = r := by
  rw [List.takeWhile_append_of_pos hs, List.dropWhile_append_of_pos hs]
  cases r with
  | nil => simp
  | cons c r => simp [hr c rfl]

/-- Without the character there is no cut. -/
theorem dropWhile_eq_nil_of_notMem {d : Char} {s : List Char} (h : d ∉ s) : s.dropWhile (· != d) = [] :=
  List.dropWhile_eq_nil_iff.mpr fun c hc => by simpa using fun hd : c = d => h (hd ▸ hc)

/-- The cut is at the first place of the character. -/
theorem takeWhile_append_cons_of_notMem {d : Char} {s r : List Char} (h : d ∉ s) :
    (s ++ d :: r).takeWhile (· != d) = s ∧ (s ++ d :: r).dropWhile (· != d) = d :: r := by
  refine takeWhile_append_of_all (fun c hc => ?_) (by rintro c ⟨⟩; simp)
  simpa using fun hd : c = d => h (hd ▸ hc)

end Landscape
