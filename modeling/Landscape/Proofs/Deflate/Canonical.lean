import Landscape.Proofs.Deflate.Symbol
import Mathlib.Data.List.Count

/-!
# Codes that follow from lengths

The words of a code that is made of lengths count up, and the first word of each length follows all the shorter ones
(`Landscape.Deflate.Code.firstWord_mul_le`). So none begins another if there is room for all of them, that is, if the
numbers of the words of each length have so many bits (`Landscape.Deflate.Code.isPrefixFree_ofLengths`).
-/

namespace Landscape.Deflate

/-! ### Numbers, the most significant bit first -/

@[simp] theorem length_bitsDown (n value : Nat) : (bitsDown n value).length = n := by
  simp [bitsDown]

theorem getElem_bitsDown {n value i : Nat} (hi : i < (bitsDown n value).length) :
    (bitsDown n value)[i] = value.testBit (n - 1 - i) := by
  simp [bitsDown]

theorem bitsDown_injective {n a b : Nat} (ha : a < 2 ^ n) (hb : b < 2 ^ n) (h : bitsDown n a = bitsDown n b) :
    a = b := by
  refine Nat.eq_of_testBit_eq fun i => ?_
  rcases Nat.lt_or_ge i n with hlt | hge
  · -- the bit of this place stands as far from the end
    have hbit := List.getElem_of_eq h (i := n - 1 - i) (by rw [length_bitsDown]; omega)
    rw [getElem_bitsDown, getElem_bitsDown] at hbit
    have hplace : n - 1 - (n - 1 - i) = i := by omega
    rwa [hplace] at hbit
  · have hpow : 2 ^ n ≤ 2 ^ i := Nat.pow_le_pow_right (by decide) hge
    rw [Nat.testBit_lt_two_pow (Nat.lt_of_lt_of_le ha hpow), Nat.testBit_lt_two_pow (Nat.lt_of_lt_of_le hb hpow)]

/-- The first bits of a number are those of what remains if the others are cut off. -/
theorem take_bitsDown {l m : Nat} (h : l ≤ m) (b : Nat) :
    (bitsDown m b).take l = bitsDown l (b / 2 ^ (m - l)) := by
  refine List.ext_getElem ?_ fun i hi hi' => ?_
  · rw [List.length_take, length_bitsDown, length_bitsDown, Nat.min_eq_left h]
  · rw [length_bitsDown] at hi'
    rw [List.getElem_take, getElem_bitsDown, getElem_bitsDown, Nat.testBit_div_two_pow]
    congr 1
    omega

theorem eq_div_of_prefix {l m a b : Nat} (hle : l ≤ m) (ha : a < 2 ^ l) (hb : b < 2 ^ m)
    (h : bitsDown l a <+: bitsDown m b) : a = b / 2 ^ (m - l) := by
  have htake := List.prefix_iff_eq_take.mp h
  rw [length_bitsDown, take_bitsDown hle] at htake
  refine bitsDown_injective ha ?_ htake
  rw [Nat.div_lt_iff_lt_mul (Nat.two_pow_pos _), ← Nat.pow_add, Nat.add_sub_cancel' hle]
  exact hb

/-! ### Words -/

namespace Code

variable {longest : Nat} {lengths : List Nat}

/-- The number of the first word of a length. -/
def firstWord (longest : Nat) (lengths : List Nat) (l : Nat) : Nat :=
  (0 :: firstWords lengths 1 0 longest).getD l 0

theorem length_firstWords (lengths : List Nat) (l first n : Nat) :
    (firstWords lengths l first n).length = n := by
  induction n generalizing l first with
  | zero => rfl
  | succ n ih => rw [firstWords, List.length_cons, ih]

theorem getD_firstWords (lengths : List Nat) (l first : Nat) {n i : Nat} (hi : i + 1 < n) :
    (firstWords lengths l first n).getD (i + 1) 0 =
      2 * ((firstWords lengths l first n).getD i 0 + lengths.count (l + i)) := by
  induction n generalizing l first i with
  | zero => exact absurd hi (Nat.not_lt_zero _)
  | succ n ih =>
    rw [firstWords, List.getD_cons_succ]
    cases i with
    | zero =>
      obtain ⟨n, rfl⟩ : ∃ m, n = m + 1 := ⟨n - 1, by omega⟩
      rw [firstWords, List.getD_cons_zero, List.getD_cons_zero, Nat.add_zero]
    | succ i =>
      rw [List.getD_cons_succ, ih (l + 1) _ (Nat.lt_of_succ_lt_succ hi), Nat.add_right_comm, Nat.add_assoc]

/-- A length begins where the one before it has ended, with a bit more. -/
theorem firstWord_succ {l : Nat} (hpos : 0 < l) (hlt : l < longest) :
    firstWord longest lengths (l + 1) = 2 * (firstWord longest lengths l + lengths.count l) := by
  obtain ⟨k, rfl⟩ : ∃ k, l = k + 1 := ⟨l - 1, by omega⟩
  rw [firstWord, List.getD_cons_succ, firstWord, List.getD_cons_succ, getD_firstWords _ _ _ hlt, Nat.add_comm 1 k]

/-- **The words of a length follow all shorter words.** -/
theorem firstWord_mul_le (lengths : List Nat) {l m : Nat} (hpos : 0 < l) (hlt : l < m) (hle : m ≤ longest) :
    (firstWord longest lengths l + lengths.count l) * 2 ^ (m - l) ≤ firstWord longest lengths m := by
  induction m, hlt using Nat.le_induction with
  | base =>
    have hone : l.succ - l = 1 := by omega
    rw [firstWord_succ hpos hle, hone, Nat.pow_one, Nat.mul_comm]
  | succ m hlm ih =>
    have hlm : l < m := hlm
    have hbefore := ih (Nat.le_of_succ_le hle)
    have hsub : m + 1 - l = m - l + 1 := by omega
    rw [firstWord_succ (by omega) hle, hsub, Nat.pow_succ, ← Nat.mul_assoc]
    omega

/-- The word of a symbol has the number of the first one of its length and as many more as symbols before it have words
of this length. -/
theorem getElem_assign {next lengths : List Nat} {s : Nat} (hs : s < (assign next lengths).length)
    (hs' : s < lengths.length) (hall : ∀ l ∈ lengths, l < next.length) :
    (assign next lengths)[s] =
      bitsDown lengths[s] (next.getD lengths[s] 0 + (lengths.take s).count lengths[s]) := by
  induction lengths generalizing next s with
  | nil => exact absurd hs' (Nat.not_lt_zero s)
  | cons l ls ih =>
    obtain ⟨hl, hls⟩ := List.forall_mem_cons.mp hall
    cases s with
    | zero => rfl
    | succ s =>
      have hs' : s < ls.length := Nat.lt_of_succ_lt_succ hs'
      have hlt := hls _ (List.getElem_mem hs')
      have hrest := ih (Nat.lt_of_succ_lt_succ hs) hs'
        fun k hk => by rw [List.length_modify]; exact hls k hk
      simp only [assign, List.getElem_cons_succ, List.take_succ_cons, List.count_cons]
      rw [hrest]
      congr 1
      -- the next word of a length is one further if the first symbol has a word of this length
      by_cases heq : l = ls[s]
      · simp [List.getD_eq_getElem?_getD, heq, hlt]
        omega
      · simp [List.getD_eq_getElem?_getD, heq]

theorem length_assign (next lengths : List Nat) : (assign next lengths).length = lengths.length := by
  induction lengths generalizing next with
  | nil => rfl
  | cons l ls ih => rw [assign, List.length_cons, List.length_cons, ih]

theorem length_ofLengths (longest : Nat) (lengths : List Nat) : (ofLengths longest lengths).length = lengths.length :=
  length_assign _ lengths

/-- There is room for the words of each length. -/
def HasRoom (longest : Nat) (lengths : List Nat) : Prop :=
  (∀ l ∈ lengths, l ≤ longest) ∧
    ∀ l < longest, firstWord longest lengths (l + 1) + lengths.count (l + 1) ≤ 2 ^ (l + 1)

instance : Decidable (HasRoom longest lengths) :=
  inferInstanceAs (Decidable (_ ∧ _))

theorem getElem_ofLengths (h : HasRoom longest lengths) {s : Nat} (hs : s < (ofLengths longest lengths).length)
    (hs' : s < lengths.length) :
    (ofLengths longest lengths)[s] =
      bitsDown lengths[s] (firstWord longest lengths lengths[s] + (lengths.take s).count lengths[s]) := by
  refine getElem_assign hs hs' fun l hl => ?_
  rw [List.length_cons, length_firstWords]
  exact Nat.lt_succ_of_le (h.1 l hl)

theorem count_take_lt {s t : Nat} (hs : s < lengths.length) (hlt : s < t) :
    (lengths.take s).count lengths[s] < (lengths.take t).count lengths[s] := by
  have hsucc : (lengths.take (s + 1)).count lengths[s] = (lengths.take s).count lengths[s] + 1 := by
    rw [List.take_succ_eq_append_getElem hs, List.count_append, List.count_singleton_self]
  have hmore : (lengths.take (s + 1)).Sublist (lengths.take t) :=
    (List.take_prefix_take_left hlt).sublist
  have hcount := hmore.count_le lengths[s]
  omega

/-- **No word begins another one.** -/
theorem not_prefix_ofLengths (h : HasRoom longest lengths) {s t : Nat} (hs : s < lengths.length)
    (ht : t < lengths.length) (hne : s ≠ t) (hpos : 0 < lengths[s])
    (hs' : s < (ofLengths longest lengths).length) (ht' : t < (ofLengths longest lengths).length) :
    ¬(ofLengths longest lengths)[s] <+: (ofLengths longest lengths)[t] := by
  rw [getElem_ofLengths h hs' hs, getElem_ofLengths h ht' ht]
  intro hbegins
  have hle : lengths[s] ≤ lengths[t] := by
    have hlength := hbegins.length_le
    rwa [length_bitsDown, length_bitsDown] at hlength
  -- a word's number is less than that of the first word behind those of its length, which still fits
  have hroom {i : Nat} (hi : i < lengths.length) (hipos : 0 < lengths[i]) :
      firstWord longest lengths lengths[i] + (lengths.take i).count lengths[i] <
        firstWord longest lengths lengths[i] + lengths.count lengths[i] ∧
      firstWord longest lengths lengths[i] + lengths.count lengths[i] ≤ 2 ^ lengths[i] := by
    have hcount := count_take_lt hi hi
    rw [List.take_length] at hcount
    have hfits := h.2 (lengths[i] - 1) (by have hlong := h.1 _ (List.getElem_mem hi); omega)
    rw [Nat.sub_add_cancel hipos] at hfits
    exact ⟨Nat.add_lt_add_left hcount _, hfits⟩
  obtain ⟨hlts, hfits⟩ := hroom hs hpos
  obtain ⟨hltt, hfitt⟩ := hroom ht (Nat.lt_of_lt_of_le hpos hle)
  have heq := eq_div_of_prefix hle (Nat.lt_of_lt_of_le hlts hfits) (Nat.lt_of_lt_of_le hltt hfitt) hbegins
  rcases Nat.lt_or_eq_of_le hle with hshorter | hsame
  · -- the beginning of a longer word is beyond all words of this length
    have hbeyond := firstWord_mul_le lengths hpos hshorter (h.1 _ (List.getElem_mem ht))
    have hdiv := (Nat.le_div_iff_mul_le (Nat.two_pow_pos _)).mpr
      (Nat.le_trans hbeyond (Nat.le_add_right _ ((lengths.take t).count lengths[t])))
    omega
  · -- two words of one length have different numbers
    rw [hsame, Nat.sub_self, Nat.pow_zero, Nat.div_one] at heq
    rcases Nat.lt_or_gt_of_ne hne with hst | hts
    · have hcount := count_take_lt hs hst
      rw [hsame] at hcount
      omega
    · have hcount := count_take_lt ht hts
      omega

/-- **A code that has room for its words is prefix-free.** -/
theorem isPrefixFree_ofLengths (h : HasRoom longest lengths) : (ofLengths longest lengths).isPrefixFree = true := by
  refine isPrefixFree_iff.mpr (List.pairwise_iff_getElem.mpr fun s t hs ht hlt => ?_)
  have hs' : s < lengths.length := length_ofLengths longest lengths ▸ hs
  have ht' : t < lengths.length := length_ofLengths longest lengths ▸ ht
  have hnone {i : Nat} (hi : i < (ofLengths longest lengths).length) (hi' : i < lengths.length)
      (hzero : lengths[i] = 0) : (ofLengths longest lengths)[i] = [] := by
    rw [getElem_ofLengths h hi hi', ← List.length_eq_zero_iff, length_bitsDown, hzero]
  rcases Nat.eq_zero_or_pos lengths[s] with hzero | hpos
  · exact .inl (hnone hs hs' hzero)
  · rcases Nat.eq_zero_or_pos lengths[t] with hzero | hpos'
    · exact .inr (.inl (hnone ht ht' hzero))
    · exact .inr (.inr ⟨not_prefix_ofLengths h hs' ht' (Nat.ne_of_lt hlt) hpos hs ht,
        not_prefix_ofLengths h ht' hs' (Nat.ne_of_gt hlt) hpos' ht hs⟩)

end Code

end Landscape.Deflate
