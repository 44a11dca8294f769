import Landscape.Deflate.Search
import Landscape.Proofs.Deflate.Bits
import Mathlib.Data.List.Chain
import Mathlib.Data.List.GetD

/-!
# Reading symbols

A word is read as its symbol, since no other word of the code begins with it or is its beginning
(`Landscape.Deflate.reads_symbol`). The bits after a symbol tell the numbers of its range apart, because each range
begins no later than the one before it has used up its bits (`Landscape.Deflate.Range.Joined`). So a token is read from
its symbols and their bits (`Landscape.Deflate.reads_token`), if the symbols have words at all.
-/

namespace Landscape.Deflate

/-! ### Words -/

/-- Neither of two words begins the other, unless one of them is none. -/
def Apart (w v : List Bool) : Prop :=
  w = [] ∨ v = [] ∨ (¬w <+: v ∧ ¬v <+: w)

/-- **A code is prefix-free** if no word begins another. -/
theorem Code.isPrefixFree_iff {c : Code} : c.isPrefixFree = true ↔ c.Pairwise Apart := by
  induction c with
  | nil => exact ⟨fun _ => .nil, fun _ => rfl⟩
  | cons w ws ih =>
    have hapart (v : List Bool) :
        (w.isEmpty || (v.isEmpty || !(w.isPrefixOf v || v.isPrefixOf w))) = true ↔ Apart w v := by
      simp [Apart, ← List.isPrefixOf_iff_prefix]
    rw [isPrefixFree, Bool.and_eq_true, ih, List.pairwise_cons]
    refine and_congr_left fun _ => ?_
    rw [Bool.or_eq_true, List.all_eq_true]
    constructor
    · rintro (hw | hws) v hv
      · exact .inl (List.isEmpty_iff.mp hw)
      · exact (hapart v).mp (by rw [hws v hv, Bool.or_true])
    · intro hall
      by_cases hw : w.isEmpty = true
      · exact .inl hw
      · refine .inr fun v hv => ?_
        have hcheck := (hapart v).mpr (hall v hv)
        rwa [eq_false_of_ne_true hw, Bool.false_or] at hcheck

variable {code : Code} {s : Nat}

/-- **A word is read as its symbol.** -/
theorem reads_symbol (hc : code.isPrefixFree = true) (hs : code.word s ≠ []) :
    Reads (readSymbol code) (code.word s) s := by
  intro rest
  have hlt : s < code.length := by
    by_contra hge
    exact hs (List.getD_eq_default code [] (Nat.le_of_not_lt hge))
  have hword : code.word s = code[s] := List.getD_eq_getElem code [] hlt
  have hfind : (code.findIdx? fun w => !w.isEmpty && w.isPrefixOf (code.word s ++ rest)) = some s := by
    refine List.findIdx?_eq_some_iff_getElem.mpr ⟨hlt, ?_, fun j hj => ?_⟩
    · simp [← hword, hs]
    · -- two words that begin the same bits begin one another
      have hapart := List.pairwise_iff_getElem.mp (Code.isPrefixFree_iff.mp hc) j s
        (Nat.lt_trans hj hlt) hlt hj
      intro hbegins
      rw [Bool.and_eq_true, List.isPrefixOf_iff_prefix] at hbegins
      rcases hapart with hnone | hnone | ⟨hnot, hnot'⟩
      · simp [hnone] at hbegins
      · exact hs (hword.trans hnone)
      · rw [← hword] at hnot hnot'
        exact (List.prefix_or_prefix_of_prefix hbegins.2 (List.prefix_append _ _)).elim hnot hnot'
  show readSymbol code _ = _
  rw [readSymbol, hfind]
  exact congrArg (fun bits => some (s, bits)) List.drop_left

/-! ### Ranges -/

/-- Ranges of which each begins no later than the one before it ends. -/
def Range.Joined (ranges : List Range) : Prop :=
  ranges.IsChain fun r r' => r'.first ≤ r.first + 2 ^ r.bits

/-- **A number lies in its range**, if it lies in one of the ranges at all. -/
theorem rangeOf_spec {ranges : List Range} (hjoined : Range.Joined ranges) {n : Nat} (hne : ranges ≠ [])
    (hfirst : (ranges.head hne).first ≤ n)
    (hlast : n < (ranges.getLast hne).first + 2 ^ (ranges.getLast hne).bits) :
    ranges[(rangeOf ranges n).1]? = some (rangeOf ranges n).2 ∧ (rangeOf ranges n).2.first ≤ n ∧
      n - (rangeOf ranges n).2.first < 2 ^ (rangeOf ranges n).2.bits := by
  -- the place after the one that is answered, which is that of the first range beyond the number
  generalize hk : ranges.findIdx (fun r => !decide (r.first ≤ n)) = k
  have hle : k ≤ ranges.length := hk ▸ List.findIdx_le_length
  have hlength : (ranges.takeWhile fun r => r.first ≤ n).length = k := by
    rw [List.takeWhile_eq_take_findIdx_not, hk, List.length_take]
    omega
  have hbefore (i : Nat) (hi : i < k) : ranges[i].first ≤ n := by
    have hnot := List.not_of_lt_findIdx (hk ▸ hi)
    simpa using hnot
  have hpos : 0 < k := by
    obtain ⟨r, rs, rfl⟩ := List.exists_cons_of_ne_nil hne
    rw [List.head_cons] at hfirst
    rw [← hk, List.findIdx_cons]
    simp [hfirst]
  have hlt : k - 1 < ranges.length := by omega
  have hplace : rangeOf ranges n = (k - 1, ranges[k - 1]) := by
    rw [rangeOf, hlength]
    exact congrArg _ (List.getD_eq_getElem ranges default hlt)
  have hbegins := hbefore (k - 1) (by omega)
  have hends : n < ranges[k - 1].first + 2 ^ ranges[k - 1].bits := by
    rcases Nat.lt_or_ge k ranges.length with hmore | hall
    · -- the next range begins beyond the number
      have hnext : n < ranges[k].first := by
        have hbeyond := List.findIdx_getElem (w := hk ▸ hmore)
        simp only [hk] at hbeyond
        simpa using hbeyond
      have hchain := List.isChain_iff_getElem.mp hjoined (k - 1) (by omega)
      have hsucc : k - 1 + 1 = k := by omega
      simp only [hsucc] at hchain
      omega
    · have hklast : ranges[k - 1] = ranges.getLast hne := by
        rw [List.getLast_eq_getElem]
        congr 1
        omega
      rw [hklast]
      exact hlast
  rw [hplace]
  refine ⟨List.getElem?_eq_getElem hlt, hbegins, ?_⟩
  dsimp only
  omega

/-- A number is read from its bits, by its range. -/
theorem reads_inRange {ranges : List Range} {n : Nat}
    (hplace : ranges[(rangeOf ranges n).1]? = some (rangeOf ranges n).2) (hbegins : (rangeOf ranges n).2.first ≤ n)
    (hbits : n - (rangeOf ranges n).2.first < 2 ^ (rangeOf ranges n).2.bits) :
    Reads (readInRange ranges (rangeOf ranges n).1)
      (bitsUp (rangeOf ranges n).2.bits (n - (rangeOf ranges n).2.first)) n := by
  rw [readInRange, hplace]
  have hread := (reads_number hbits).map ((rangeOf ranges n).2.first + ·)
  rwa [Nat.add_sub_cancel' hbegins] at hread

/-- Every length of a copy lies in its range. -/
theorem rangeOf_length {n : Nat} (hshortest : shortestCopy ≤ n) (hlongest : n ≤ longestCopy) :
    lengthRanges[(rangeOf lengthRanges n).1]? = some (rangeOf lengthRanges n).2 ∧
      (rangeOf lengthRanges n).2.first ≤ n ∧
      n - (rangeOf lengthRanges n).2.first < 2 ^ (rangeOf lengthRanges n).2.bits :=
  rangeOf_spec (by unfold Range.Joined; decide) (by decide) hshortest (Nat.lt_succ_of_le hlongest)

/-- Every distance of a copy lies in its range. -/
theorem rangeOf_distance {n : Nat} (hpos : 0 < n) (hfarthest : n ≤ farthestCopy) :
    distanceRanges[(rangeOf distanceRanges n).1]? = some (rangeOf distanceRanges n).2 ∧
      (rangeOf distanceRanges n).2.first ≤ n ∧
      n - (rangeOf distanceRanges n).2.first < 2 ^ (rangeOf distanceRanges n).2.bits := by
  refine rangeOf_spec (by unfold Range.Joined; decide) (by decide) hpos (Nat.lt_of_le_of_lt hfarthest ?_)
  decide

/-! ### Tokens -/

namespace Token

/-- A token that has symbols: a copy is not too short, too long or from too far back. -/
def IsWritable : Token → Prop
  | .byte _ => True
  | .copy length distance =>
    shortestCopy ≤ length ∧ length ≤ longestCopy ∧ 0 < distance ∧ distance ≤ farthestCopy

/-- A token in two codes. -/
def bitsIn (main distance : Code) (t : Token) : List Bool :=
  t.main.bitsIn main ++ (t.distance?.map (Spelled.bitsIn distance)).getD []

/-- Codes that have words for the symbols of a token. -/
def HasWords (main distance : Code) (t : Token) : Prop :=
  main.word t.main.symbol ≠ [] ∧ ∀ s, t.distance? = some s → distance.word s.symbol ≠ []

end Token

/-- **A token is read from its symbols.** -/
theorem reads_token {main distance : Code} (hmain : main.isPrefixFree = true)
    (hdistance : distance.isPrefixFree = true) {t : Token} (ht : t.IsWritable) (hwords : t.HasWords main distance) :
    Reads (readToken main distance) (t.bitsIn main distance) (some t) := by
  obtain ⟨hword, hback⟩ := hwords
  have hsymbol := reads_symbol hmain hword
  cases t with
  | byte b =>
    have hlt : b.toNat < endOfBlock := b.toNat_lt
    have hbits : (Token.byte b).bitsIn main distance = main.word b.toNat ++ [] :=
      (List.append_nil _).trans rfl
    have hbyte : b.toNat.toUInt8 = b := UInt8.ofNat_toNat
    rw [hbits]
    refine hsymbol.bind ?_
    show Reads (if b.toNat < endOfBlock then pure (some (Token.byte b.toNat.toUInt8)) else _) [] _
    rw [if_pos hlt, hbyte]
    exact reads_pure _
  | copy length back =>
    obtain ⟨hshortest, hlongest, hpos, hfarthest⟩ := ht
    obtain ⟨hplace, hbegins, hends⟩ := rangeOf_length hshortest hlongest
    obtain ⟨hplace', hbegins', hends'⟩ := rangeOf_distance hpos hfarthest
    have hzero : (spellNumber distanceRanges 0 back).symbol = (rangeOf distanceRanges back).1 := Nat.zero_add _
    have hbacksymbol := reads_symbol hdistance (hback _ rfl)
    rw [hzero] at hbacksymbol
    -- a symbol beyond the end of a block is one of a range of lengths
    generalize hs : (Token.copy length back).main.symbol = s at hsymbol
    have hsum : s = firstLengthSymbol + (rangeOf lengthRanges length).1 := hs.symm
    have hnotbyte : ¬s < endOfBlock := by
      rw [hsum, firstLengthSymbol, endOfBlock]
      omega
    have hnotend : s ≠ endOfBlock := by
      rw [hsum, firstLengthSymbol, endOfBlock]
      omega
    have hrange : s - firstLengthSymbol = (rangeOf lengthRanges length).1 := by
      rw [hsum, Nat.add_sub_cancel_left]
    have hbits : (Token.copy length back).bitsIn main distance = main.word s ++
        (bitsUp (rangeOf lengthRanges length).2.bits (length - (rangeOf lengthRanges length).2.first) ++
          (distance.word (rangeOf distanceRanges back).1 ++
            bitsUp (rangeOf distanceRanges back).2.bits (back - (rangeOf distanceRanges back).2.first))) := by
      rw [← hs, ← hzero]
      exact List.append_assoc _ _ _
    rw [hbits]
    refine hsymbol.bind ?_
    rw [if_neg hnotbyte, if_neg hnotend, hrange]
    refine (reads_inRange hplace hbegins hends).bind (hbacksymbol.bind ?_)
    exact (reads_inRange hplace' hbegins' hends').map fun n => some (Token.copy length n)

end Landscape.Deflate
