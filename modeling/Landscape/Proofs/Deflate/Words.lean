import Landscape.Proofs.Deflate.Canonical
import Landscape.Proofs.Deflate.Lengths
import Mathlib.Data.List.TakeWhile

/-!
# Symbols that have words

A code that is made of lengths has words of these lengths (`Landscape.Deflate.length_word_ofLengths`), so a symbol has a
word if its length is positive. The codes that are the same for all blocks have words for all symbols of tokens
(`Landscape.Deflate.Token.hasWords_fixed`); the codes of a block's own have words for the symbols that occur in it
(`Landscape.Deflate.codeLengths_countSymbols_pos`).
-/

namespace Landscape.Deflate

/-! ### Words of given lengths -/

theorem map_length_assign (next lengths : List Nat) : (Code.assign next lengths).map List.length = lengths := by
  induction lengths generalizing next with
  | nil => rfl
  | cons l ls ih => rw [Code.assign, List.map_cons, length_bitsDown, ih]

/-- **The word of a symbol is as long as it was to be.** -/
theorem length_word_ofLengths (longest : Nat) (lengths : List Nat) (s : Nat) :
    ((Code.ofLengths longest lengths).word s).length = lengths.getD s 0 := by
  have hlengths := map_length_assign (0 :: Code.firstWords lengths 1 0 longest) lengths
  rw [Code.word, Code.ofLengths]
  generalize Code.assign (0 :: Code.firstWords lengths 1 0 longest) lengths = words at hlengths ⊢
  rw [← hlengths, List.getD_eq_getElem?_getD, List.getD_eq_getElem?_getD, List.getElem?_map]
  cases words[s]? <;> rfl

theorem word_ne_nil_iff {longest : Nat} {lengths : List Nat} {s : Nat} :
    (Code.ofLengths longest lengths).word s ≠ [] ↔ 0 < lengths.getD s 0 := by
  rw [← length_word_ofLengths longest, List.length_pos_iff]

/-! ### Symbols of tokens -/

/-- A number that lies in its range has one of the symbols of the ranges. -/
theorem spellNumber_lt {ranges : List Range} {n : Nat} (first most : Nat)
    (hplace : ranges[(rangeOf ranges n).1]? = some (rangeOf ranges n).2)
    (hmost : ∀ r ∈ ranges, r.bits ≤ most) :
    (spellNumber ranges first n).symbol < first + ranges.length ∧ (spellNumber ranges first n).bits ≤ most :=
  ⟨Nat.add_lt_add_left (List.getElem?_eq_some_iff.mp hplace).1 first, hmost _ (List.mem_of_getElem? hplace)⟩

namespace Token

variable {t : Token}

/-- A token has one of the first symbols, with few bits after it. -/
theorem main_lt (ht : t.IsWritable) : t.main.symbol < mainSymbols ∧ t.main.bits ≤ 5 := by
  cases t with
  | byte b => exact ⟨Nat.lt_trans b.toNat_lt (by decide), Nat.zero_le 5⟩
  | copy length back => exact spellNumber_lt firstLengthSymbol 5 (rangeOf_length ht.1 ht.2.1).1 (by decide)

/-- A copy has one of the second symbols, with few bits after it. -/
theorem distance_lt (ht : t.IsWritable) {s : Spelled} (hs : t.distance? = some s) :
    s.symbol < distanceSymbols ∧ s.bits ≤ 13 := by
  cases t with
  | byte b => exact absurd hs.symm (Option.some_ne_none s)
  | copy length back =>
    obtain rfl := Option.some.inj hs
    have hlt := spellNumber_lt 0 13 (rangeOf_distance ht.2.2.1 ht.2.2.2).1 (by decide)
    rwa [Nat.zero_add] at hlt

end Token

/-! ### Codes that are the same for all blocks -/

theorem fixedMain_spec {s : Nat} (hs : s < mainSymbols) :
    0 < fixedMain.getD s 0 ∧ fixedMain.getD s 0 ≤ 9 := by
  have hall : ∀ l ∈ fixedMain, 0 < l ∧ l ≤ 9 := by decide +kernel
  have hlt : s < fixedMain.length := Nat.lt_of_lt_of_le hs (by decide +kernel)
  rw [List.getD_eq_getElem fixedMain 0 hlt]
  exact hall _ (List.getElem_mem hlt)

theorem fixedDistance_spec : ∀ s < distanceSymbols, fixedDistance.getD s 0 = 5 := by
  decide +kernel

theorem isPrefixFree_fixedMain : (Code.ofLengths longestWord fixedMain).isPrefixFree = true :=
  Code.isPrefixFree_ofLengths (by decide +kernel)

theorem isPrefixFree_fixedDistance : (Code.ofLengths longestWord fixedDistance).isPrefixFree = true :=
  Code.isPrefixFree_ofLengths (by decide +kernel)

/-- **The codes that are the same for all blocks have words for all tokens.** -/
theorem Token.hasWords_fixed {t : Token} (ht : t.IsWritable) :
    t.HasWords (Code.ofLengths longestWord fixedMain) (Code.ofLengths longestWord fixedDistance) := by
  refine ⟨word_ne_nil_iff.mpr (fixedMain_spec (main_lt ht).1).1, fun s hs => word_ne_nil_iff.mpr ?_⟩
  rw [fixedDistance_spec _ (distance_lt ht hs).1]
  decide

/-! ### Codes of a block's own -/

theorem length_countSymbols (symbols : Nat) (spelled : List Spelled) :
    (countSymbols symbols spelled).length = symbols := by
  have hsize (counts : Array Nat) :
      (spelled.foldl (fun (counts : Array Nat) s => counts.modify s.symbol (· + 1)) counts).size = counts.size := by
    induction spelled generalizing counts with
    | nil => rfl
    | cons s spelled ih => rw [List.foldl_cons, ih, Array.size_modify]
  rw [countSymbols, Array.length_toList, hsize, Array.size_replicate]

theorem foldl_modify_pos {spelled : List Spelled} {counts : Array Nat} {k : Nat} (hk : k < counts.size)
    (hcounted : 0 < counts.getD k 0 ∨ ∃ s ∈ spelled, s.symbol = k) :
    0 < (spelled.foldl (fun (counts : Array Nat) s => counts.modify s.symbol (· + 1)) counts).getD k 0 := by
  induction spelled generalizing counts with
  | nil => exact hcounted.resolve_right fun ⟨s, hs, _⟩ => List.not_mem_nil hs
  | cons t spelled ih =>
    rw [List.foldl_cons]
    refine ih (by rw [Array.size_modify]; exact hk) ?_
    -- a count never goes down
    have hcount : (counts.modify t.symbol (· + 1)).getD k 0 =
        counts.getD k 0 + if t.symbol = k then 1 else 0 := by
      simp only [Array.getD_eq_getD_getElem?, Array.getElem?_modify, Array.getElem?_eq_getElem hk]
      split <;> rfl
    rw [hcount]
    rcases hcounted with hbefore | ⟨s, hs, hsk⟩
    · exact .inl (Nat.lt_of_lt_of_le hbefore (Nat.le_add_right _ _))
    · rcases List.mem_cons.mp hs with rfl | hlater
      · refine .inl ?_
        rw [if_pos hsk]
        exact Nat.succ_pos _
      · exact .inr ⟨s, hlater, hsk⟩

/-- **A symbol that occurs is counted.** -/
theorem getD_countSymbols_ne_zero {symbols : Nat} {spelled : List Spelled} {s : Spelled} (hs : s ∈ spelled)
    (hlt : s.symbol < symbols) : (countSymbols symbols spelled).getD s.symbol 0 ≠ 0 := by
  have hsize : s.symbol < (Array.replicate symbols 0).size := by
    rw [Array.size_replicate]
    exact hlt
  rw [countSymbols, List.getD_eq_getElem?_getD, Array.getElem?_toList, ← Array.getD_eq_getD_getElem?]
  exact Nat.ne_of_gt (foldl_modify_pos hsize (.inr ⟨s, hs, rfl⟩))

/-- **A symbol that occurs has a length** among the lengths of a code of its own. -/
theorem codeLengths_countSymbols_pos {longest symbols : Nat} (hlongest : 0 < longest) {spelled : List Spelled}
    {s : Spelled} (hs : s ∈ spelled) (hlt : s.symbol < symbols) :
    0 < (codeLengths longest (countSymbols symbols spelled)).getD s.symbol 0 :=
  codeLengths_pos hlongest (getD_countSymbols_ne_zero hs hlt)

/-! ### Lengths without the last zeros -/

theorem exists_dropZeros (ls : List Nat) : ∃ n, ls = dropZeros ls ++ List.replicate n 0 := by
  refine ⟨(ls.reverse.takeWhile (· == 0)).length, ?_⟩
  have hzeros : (ls.reverse.takeWhile (· == 0)).reverse =
      List.replicate (ls.reverse.takeWhile (· == 0)).length 0 := by
    refine List.eq_replicate_iff.mpr ⟨List.length_reverse, fun n hn => ?_⟩
    have hmem := List.mem_reverse.mp hn
    have hzero := List.mem_takeWhile_imp hmem
    exact eq_of_beq hzero
  rw [dropZeros, ← hzeros, ← List.reverse_append, List.takeWhile_append_dropWhile, List.reverse_reverse]

/-- **What is dropped is not missed.** -/
theorem getD_dropZeros (ls : List Nat) (i : Nat) : (dropZeros ls).getD i 0 = ls.getD i 0 := by
  obtain ⟨n, hn⟩ := exists_dropZeros ls
  generalize dropZeros ls = kept at hn
  rw [hn]
  rcases Nat.lt_or_ge i kept.length with hlt | hge
  · rw [List.getD_append _ _ _ _ hlt]
  · rw [List.getD_append_right _ _ _ _ hge, List.getD_eq_default kept 0 hge]
    rcases Nat.lt_or_ge (i - kept.length) n with hlt' | hge'
    · rw [List.getD_replicate _ hlt']
    · rw [List.getD_eq_default _ 0 (by rw [List.length_replicate]; exact hge')]

theorem length_dropZeros_le (ls : List Nat) : (dropZeros ls).length ≤ ls.length := by
  obtain ⟨n, hn⟩ := exists_dropZeros ls
  generalize dropZeros ls = kept at hn
  rw [hn, List.length_append]
  exact Nat.le_add_right _ _

/-- A positive length is kept. -/
theorem lt_length_dropZeros {ls : List Nat} {i : Nat} (hi : 0 < ls.getD i 0) : i < (dropZeros ls).length := by
  rw [← getD_dropZeros] at hi
  exact lt_length_of_getD_ne_zero (Nat.ne_of_gt hi)

end Landscape.Deflate
