import Landscape.Proofs.Deflate.Words
import Mathlib.Algebra.BigOperators.Intervals
import Mathlib.Algebra.Order.BigOperators.Group.Finset

/-!
# Room for the words of a code

A word of some length shuts out all the longer ones that it begins. Counted in words of the greatest length, this is its
share (`Landscape.Deflate.share`), which halves with each bit. Words of some lengths can be told apart if their shares
are no more than there are words of the greatest length (`Landscape.Deflate.Code.hasRoom_of_taken_le`).

The leaves of a tree take exactly so much. If some of them lie too deep and are drawn up to the greatest length, they take
more, by half the number of the nodes that lie too deep (`Landscape.Deflate.Tree.two_mul_sum_share`). Making room gives
it back: each step takes one share away (`Landscape.Deflate.Crowded.step`), so in the end nothing is too much
(`Landscape.Deflate.Crowded.worth_makeRoom`). What carries a step is that a word of the greatest length is left to be
taken away, and that some word is shorter, since there are not too many words as a whole.

Hence there is room for the words of all the codes that are made here (`Landscape.Deflate.hasRoom_codeLengths`).
-/

namespace Landscape.Deflate

/-! ### Shares -/

/-- How many words of the greatest length a word of length `l` shuts out. -/
def share (longest l : Nat) : Nat :=
  2 ^ (longest - l)

variable {longest l : Nat}

theorem two_mul_share_succ (h : l < longest) : 2 * share longest (l + 1) = share longest l := by
  rw [share, share, ← Nat.pow_succ']
  congr 1
  omega

theorem share_of_le (h : longest ≤ l) : share longest l = 1 := by
  rw [share, Nat.sub_eq_zero_of_le h, Nat.pow_zero]

/-! ### The leaves of a tree -/

namespace Tree

/-- Below the greatest length, the nodes are one less than twice the leaves. -/
theorem countBelow_add_one {most depth : Nat} (h : most < depth) (t : Tree) :
    t.countBelow most depth + 1 = 2 * t.symbols.length := by
  induction t generalizing depth with
  | leaf symbol => rw [countBelow, if_pos h, symbols, List.length_singleton]
  | fork left right ihl ihr =>
    have hbelow : most < depth + 1 := Nat.lt_succ_of_lt h
    have hl := ihl hbelow
    have hr := ihr hbelow
    rw [countBelow, if_pos h, symbols, List.length_append]
    omega

/-- There each leaf has one share. -/
theorem sum_share_of_lt {most depth : Nat} (h : most ≤ depth) (t : Tree) :
    ((t.depths depth).map fun d => share most d.2).sum = t.symbols.length := by
  have hone : (t.depths depth).map (fun d => share most d.2) = (t.depths depth).map fun _ => 1 :=
    List.map_congr_left fun d hd => share_of_le (Nat.le_trans h (t.le_depths depth d hd))
  rw [hone, List.map_const', List.sum_replicate_nat, Nat.mul_one, length_depths]

/-- **The leaves of a tree take the share of its root**, and half as much more as nodes lie too deep. -/
theorem two_mul_sum_share {most depth : Nat} (h : depth ≤ most) (t : Tree) :
    2 * ((t.depths depth).map fun d => share most d.2).sum = 2 * share most depth + t.countBelow most depth := by
  induction t generalizing depth with
  | leaf symbol => rw [countBelow, if_neg (Nat.not_lt_of_le h), depths, List.map_singleton, List.sum_singleton]; rfl
  | fork left right ihl ihr =>
    rw [countBelow, if_neg (Nat.not_lt_of_le h), depths, List.map_append, List.sum_append]
    rcases Nat.lt_or_eq_of_le h with hlt | rfl
    · have hbelow : depth + 1 ≤ most := hlt
      have hl := ihl hbelow
      have hr := ihr hbelow
      have hhalf := two_mul_share_succ hlt
      omega
    · -- both parts lie too deep as a whole
      have hl := left.countBelow_add_one (Nat.lt_add_one depth)
      have hr := right.countBelow_add_one (Nat.lt_add_one depth)
      rw [left.sum_share_of_lt (Nat.le_succ depth), right.sum_share_of_lt (Nat.le_succ depth),
        share_of_le (Nat.le_refl depth)]
      omega

/-- At most twice as many nodes lie too deep as leaves lie deep enough. -/
theorem countBelow_le {most depth : Nat} (h : depth ≤ most) (t : Tree) :
    t.countBelow most depth ≤ 2 * (t.depths depth).countP fun d => min d.2 most == most := by
  induction t generalizing depth with
  | leaf symbol =>
    rw [countBelow, if_neg (Nat.not_lt_of_le h)]
    exact Nat.zero_le _
  | fork left right ihl ihr =>
    rw [countBelow, if_neg (Nat.not_lt_of_le h), depths, List.countP_append]
    rcases Nat.lt_or_eq_of_le h with hlt | rfl
    · have hbelow : depth + 1 ≤ most := hlt
      have hl := ihl hbelow
      have hr := ihr hbelow
      omega
    · have hall (t : Tree) : (t.depths (depth + 1)).countP (fun d => min d.2 depth == depth) = t.symbols.length := by
        rw [← t.length_depths (depth + 1), List.countP_eq_length]
        intro d hd
        exact beq_iff_eq.mpr (Nat.min_eq_right (Nat.le_of_succ_le (t.le_depths (depth + 1) d hd)))
      have hl := left.countBelow_add_one (Nat.lt_add_one depth)
      have hr := right.countBelow_add_one (Nat.lt_add_one depth)
      rw [hall, hall]
      omega

end Tree

/-! ### Numbers of words -/

/-- What words take, where it is said how many there are of each length. The last length is the greatest. -/
def worth : List Nat → Nat
  | [] => 0
  | n :: ns => n * 2 ^ ns.length + worth ns

section

variable {ns : List Nat}

theorem share_length_cons_succ (n : Nat) (ns : List Nat) (l : Nat) :
    share ((n :: ns).length - 1) (l + 1) = share (ns.length - 1) l := by
  rw [share, share, List.length_cons]
  congr 1
  omega

theorem getD_modify (f : Nat → Nat) {i : Nat} (hi : i < ns.length) :
    (ns.modify l f).getD i 0 = if l = i then f (ns.getD i 0) else ns.getD i 0 := by
  rw [List.getD_eq_getElem?_getD, List.getElem?_modify, List.getElem?_eq_getElem hi, List.getD_eq_getElem _ _ hi]
  split <;> rfl

/-- More words take more. -/
theorem worth_modify_add (hl : l < ns.length) (k : Nat) :
    worth (ns.modify l (· + k)) = worth ns + k * share (ns.length - 1) l := by
  induction ns generalizing l with
  | nil => exact absurd hl (Nat.not_lt_zero l)
  | cons n ns ih =>
    cases l with
    | zero =>
      rw [List.modify_zero_cons, worth, worth, share, List.length_cons, Nat.add_sub_cancel, Nat.sub_zero, Nat.add_mul]
      omega
    | succ l =>
      rw [List.modify_succ_cons, worth, worth, List.length_modify, ih (Nat.lt_of_succ_lt_succ hl),
        share_length_cons_succ, Nat.add_assoc]

/-- One word less takes less. -/
theorem worth_modify_sub (hl : ns.getD l 0 ≠ 0) :
    worth (ns.modify l (· - 1)) + share (ns.length - 1) l = worth ns := by
  induction ns generalizing l with
  | nil => exact absurd rfl hl
  | cons n ns ih =>
    cases l with
    | zero =>
      obtain ⟨k, rfl⟩ := Nat.exists_eq_succ_of_ne_zero hl
      rw [List.modify_zero_cons, worth, worth, share, List.length_cons, Nat.add_sub_cancel, Nat.sub_zero, Nat.succ_mul,
        Nat.succ_sub_one]
      omega
    | succ l =>
      rw [List.modify_succ_cons, worth, worth, List.length_modify, ← ih hl, share_length_cons_succ, Nat.add_assoc]

theorem sum_modify_sub (hl : ns.getD l 0 ≠ 0) : (ns.modify l (· - 1)).sum + 1 = ns.sum := by
  induction ns generalizing l with
  | nil => exact absurd rfl hl
  | cons n ns ih =>
    cases l with
    | zero =>
      obtain ⟨k, rfl⟩ := Nat.exists_eq_succ_of_ne_zero hl
      rw [List.modify_zero_cons, List.sum_cons, List.sum_cons]
      omega
    | succ l => rw [List.modify_succ_cons, List.sum_cons, List.sum_cons, ← ih hl, Nat.add_assoc]

/-- Words of the greatest length take one share each. -/
theorem worth_eq_sum_of_long (hshort : ∀ l, l + 1 < ns.length → ns.getD l 0 = 0) : worth ns = ns.sum := by
  induction ns with
  | nil => rfl
  | cons n ns ih =>
    rw [worth, List.sum_cons, ih fun l hl => hshort (l + 1) (Nat.succ_lt_succ hl)]
    cases ns with
    | nil => rw [List.length_nil, Nat.pow_zero, Nat.mul_one]
    | cons m ns =>
      have hn : n = 0 := hshort 0 (by rw [List.length_cons, List.length_cons]; omega)
      rw [hn, Nat.zero_mul]

/-- What words take is the sum of their shares. -/
theorem worth_eq_sum_share (ns : List Nat) :
    worth ns = ((List.range ns.length).map fun l => ns.getD l 0 * share (ns.length - 1) l).sum := by
  induction ns with
  | nil => rfl
  | cons n ns ih =>
    rw [worth, ih, List.length_cons, List.range_succ_eq_map, List.map_cons, List.sum_cons, List.map_map]
    congr 1
    refine congrArg List.sum (List.map_congr_left fun l _ => ?_)
    exact congrArg (ns.getD l 0 * ·) (share_length_cons_succ n ns l).symm

end

/-! ### Making room -/

/-- **Some words take too much**, by so many words of the greatest length. -/
structure Crowded (longest : Nat) (perLength : List Nat) (n : Nat) : Prop where
  length_eq : perLength.length = longest + 1
  worth_eq : worth perLength = 2 ^ longest + n
  /-- There would be room for all the words if they were of the greatest length. -/
  few : perLength.sum ≤ 2 ^ longest
  /-- There are so many words of the greatest length. -/
  enough : n ≤ perLength.getD longest 0

variable {perLength : List Nat} {n : Nat}

/-- The length that a step of making room takes a word from. -/
theorem Crowded.exists_find? (h : Crowded longest perLength (n + 1)) :
    ∃ l < longest, perLength.getD l 0 ≠ 0 ∧
      (List.range longest).reverse.find? (fun l => perLength.getD l 0 != 0) = some l := by
  cases hfind : (List.range longest).reverse.find? fun l => perLength.getD l 0 != 0 with
  | some l =>
    exact ⟨l, List.mem_range.mp (List.mem_reverse.mp (List.mem_of_find?_eq_some hfind)),
      by simpa using List.find?_some hfind, rfl⟩
  | none =>
    -- all words would be of the greatest length, and there are not so many
    have hshort : ∀ l, l + 1 < perLength.length → perLength.getD l 0 = 0 := by
      intro l hl
      have hl' : l < longest := by rw [h.length_eq] at hl; omega
      have hnone := List.find?_eq_none.mp hfind l (List.mem_reverse.mpr (List.mem_range.mpr hl'))
      simpa using hnone
    have hworth := worth_eq_sum_of_long hshort
    have htoo := h.worth_eq
    have hfew := h.few
    omega

/-- **A step of making room** takes one share away. -/
theorem Crowded.step (h : Crowded longest perLength (n + 1)) (hl : l < longest) (hword : perLength.getD l 0 ≠ 0) :
    Crowded longest (((perLength.modify l (· - 1)).modify (l + 1) (· + 2)).modify longest (· - 1)) n := by
  have hlength : (perLength.modify l (· - 1)).length = longest + 1 := by rw [List.length_modify, h.length_eq]
  have hlength' : ((perLength.modify l (· - 1)).modify (l + 1) (· + 2)).length = longest + 1 := by
    rw [List.length_modify, hlength]
  -- one word becomes two that are longer by one, so what they take stays the same
  have hworth := worth_modify_sub hword
  have hsum := sum_modify_sub hword
  have hnext : l + 1 < (perLength.modify l (· - 1)).length := by omega
  have hworth' := worth_modify_add hnext 2
  have hsum' := sum_modify_add hnext
  have hhalf := two_mul_share_succ hl
  -- a word of the greatest length is left, and it is the one that is taken away
  have henough : n + 1 ≤ ((perLength.modify l (· - 1)).modify (l + 1) (· + 2)).getD longest 0 := by
    have hkept : (perLength.modify l (· - 1)).getD longest 0 = perLength.getD longest 0 := by
      rw [getD_modify _ (by rw [h.length_eq]; omega), if_neg (Nat.ne_of_lt hl)]
    have hbefore := h.enough
    rw [getD_modify _ (by omega), hkept]
    split <;> omega
  have hlong := Nat.ne_of_gt (Nat.lt_of_lt_of_le (Nat.succ_pos n) henough)
  have hworth'' := worth_modify_sub hlong
  have hsum'' := sum_modify_sub hlong
  have hall := h.worth_eq
  have hfew := h.few
  rw [h.length_eq, Nat.add_sub_cancel] at hworth
  rw [hlength, Nat.add_sub_cancel] at hworth'
  rw [hlength', Nat.add_sub_cancel, share_of_le (Nat.le_refl longest)] at hworth''
  refine ⟨by rw [List.length_modify, hlength'], by omega, by omega, ?_⟩
  rw [getD_modify _ (by omega), if_pos rfl]
  omega

/-- **Making room for words that take too much** leaves them no more than there is. -/
theorem Crowded.worth_makeRoom (h : Crowded longest perLength n) :
    worth (makeRoom longest perLength n) = 2 ^ longest := by
  induction n generalizing perLength with
  | zero => exact h.worth_eq
  | succ n ih =>
    obtain ⟨l, hl, hword, hfind⟩ := h.exists_find?
    rw [makeRoom, hfind]
    exact ih (h.step hl hword)

/-! ### The lengths of a tree -/

/-- One more leaf is one more of its depth. -/
theorem perDepth_cons (longest : Nat) (d : Nat × Nat) (depths : List (Nat × Nat)) :
    perDepth longest (d :: depths) = (perDepth longest depths).modify (min d.2 longest) (· + 1) := by
  refine List.ext_getElem (by rw [List.length_modify, length_perDepth, length_perDepth]) fun l hl hl' => ?_
  simp only [perDepth, List.getElem_map, List.getElem_range, List.getElem_modify, List.countP_cons, beq_iff_eq]
  split <;> rfl

/-- **What the leaves take**, each counting as no deeper than the greatest length. -/
theorem worth_perDepth (longest : Nat) (depths : List (Nat × Nat)) :
    worth (perDepth longest depths) = (depths.map fun d => share longest d.2).sum := by
  induction depths with
  | nil =>
    rw [worth_eq_sum_of_long, sum_perDepth]
    · rfl
    · intro l _
      simp [perDepth]
  | cons d depths ih =>
    have hmin : min d.2 longest < (perDepth longest depths).length := by
      rw [length_perDepth]
      exact Nat.lt_succ_of_le (Nat.min_le_right _ _)
    have hshare : share longest (min d.2 longest) = share longest d.2 := by
      rw [share, share]
      congr 1
      omega
    rw [perDepth_cons, worth_modify_add hmin, ih, length_perDepth, Nat.add_sub_cancel, hshare, Nat.one_mul, List.map_cons,
      List.sum_cons, Nat.add_comm]

/-- The symbols that are at hand take no more than the lengths that they get. -/
theorem sum_map_zip_le (f : Nat → Nat) (symbols ls : List Nat) :
    ((symbols.zip ls).map fun d => f d.2).sum ≤ (ls.map f).sum := by
  induction symbols generalizing ls with
  | nil => exact Nat.zero_le _
  | cons s symbols ih =>
    cases ls with
    | nil => exact Nat.le_refl _
    | cons l ls =>
      rw [List.zip_cons_cons, List.map_cons, List.map_cons, List.sum_cons, List.sum_cons]
      exact Nat.add_le_add_left (ih ls) _

theorem sum_map_flatMap_replicate (f g : Nat → Nat) (ls : List Nat) :
    ((ls.flatMap fun l => List.replicate (g l) l).map f).sum = (ls.map fun l => g l * f l).sum := by
  induction ls with
  | nil => rfl
  | cons l ls ih =>
    rw [List.flatMap_cons, List.map_append, List.sum_append, List.map_replicate, List.sum_replicate_nat, ih,
      List.map_cons, List.sum_cons]

/-- **The lengths of the symbols of a tree** take no more than there is. -/
theorem Tree.sum_share_lengths_le {tree : Tree} (hfew : tree.symbols.length ≤ 2 ^ longest) (order : List Nat) :
    ((tree.lengths longest order).map fun d => share longest d.2).sum ≤ 2 ^ longest := by
  have htaken := tree.two_mul_sum_share (Nat.zero_le longest)
  have hdeep := tree.countBelow_le (Nat.zero_le longest)
  rw [share, Nat.sub_zero] at htaken
  rw [lengths]
  split
  · rename_i hnone
    rw [eq_of_beq hnone] at htaken
    omega
  · have hcrowded : Crowded longest (perDepth longest (tree.depths 0)) ((tree.countBelow longest 0 + 1) / 2) := by
      refine ⟨length_perDepth _ _, ?_, ?_, ?_⟩
      · rw [worth_perDepth]
        omega
      · rw [sum_perDepth, length_depths]
        exact hfew
      · rw [perDepth, List.getD_eq_getElem _ _ (by simp), List.getElem_map, List.getElem_range]
        omega
    refine Nat.le_trans (sum_map_zip_le _ _ _) (Nat.le_of_eq ?_)
    rw [sum_map_flatMap_replicate, List.map_reverse, List.sum_reverse, ← hcrowded.worth_makeRoom, worth_eq_sum_share,
      length_makeRoom, length_perDepth, Nat.add_sub_cancel]

/-! ### The lengths of a code -/

namespace Code

variable {lengths : List Nat}

/-- What the words of a code take. A symbol of length zero has none. -/
def taken (longest : Nat) (lengths : List Nat) : Nat :=
  ∑ l ∈ Finset.Icc 1 longest, lengths.count l * share longest l

/-- The words up to a length take what lies before the end of this length. -/
theorem firstWord_add_count_mul {l : Nat} (hpos : 0 < l) (hle : l ≤ longest) :
    (firstWord longest lengths l + lengths.count l) * share longest l =
      ∑ k ∈ Finset.Icc 1 l, lengths.count k * share longest k := by
  induction l, hpos using Nat.le_induction with
  | base =>
    obtain ⟨n, rfl⟩ := Nat.exists_eq_add_of_le' hle
    rw [Finset.Icc_self, Finset.sum_singleton, firstWord, List.getD_cons_succ, firstWords, List.getD_cons_zero,
      Nat.zero_add]
  | succ l hpos ih =>
    have hpos : 0 < l := hpos
    have hbefore := ih (Nat.le_of_succ_le hle)
    rw [Finset.sum_Icc_succ_top (Nat.le_add_left 1 l), ← hbefore, firstWord_succ hpos hle, Nat.add_mul,
      ← two_mul_share_succ hle]
    congr 1
    rw [Nat.mul_comm 2, Nat.mul_assoc]

/-- **There is room for words that take no more than there is.** -/
theorem hasRoom_of_taken_le (hle : ∀ l ∈ lengths, l ≤ longest) (htaken : taken longest lengths ≤ 2 ^ longest) :
    HasRoom longest lengths := by
  refine ⟨hle, fun l hl => ?_⟩
  have hupto : (firstWord longest lengths (l + 1) + lengths.count (l + 1)) * share longest (l + 1) ≤ 2 ^ longest := by
    rw [firstWord_add_count_mul (Nat.succ_pos l) hl]
    exact Nat.le_trans (Finset.sum_le_sum_of_subset (Finset.Icc_subset_Icc_right hl)) htaken
  have hall : 2 ^ longest = 2 ^ (l + 1) * share longest (l + 1) := by
    rw [share, ← Nat.pow_add, Nat.add_sub_cancel' hl]
  rw [hall] at hupto
  exact Nat.le_of_mul_le_mul_right hupto (Nat.two_pow_pos _)

/-- Fewer words take less. -/
theorem taken_le_of_sublist {lengths' : List Nat} (h : lengths.Sublist lengths') :
    taken longest lengths ≤ taken longest lengths' :=
  Finset.sum_le_sum fun l _ => Nat.mul_le_mul_right _ (h.count_le l)

theorem count_set_le (lengths : List Nat) (s l k : Nat) :
    (lengths.set s l).count k ≤ lengths.count k + if k = l then 1 else 0 := by
  rcases Nat.lt_or_ge s lengths.length with hlt | hge
  · rw [List.count_set hlt]
    have hnew : (l == k) = (k == l) := BEq.comm
    rw [hnew]
    simp only [beq_iff_eq]
    omega
  · rw [List.set_eq_of_length_le hge]
    exact Nat.le_add_right _ _

/-- A length takes its share, and what was there before it takes no more than it did. -/
theorem taken_set_le (longest : Nat) (lengths : List Nat) (s l : Nat) :
    taken longest (lengths.set s l) ≤ taken longest lengths + share longest l := by
  have hown : ∑ k ∈ Finset.Icc 1 longest, (if k = l then 1 else 0) * share longest k ≤ share longest l := by
    simp only [ite_mul, one_mul, zero_mul, Finset.sum_ite_eq']
    split
    · exact Nat.le_refl _
    · exact Nat.zero_le _
  calc taken longest (lengths.set s l)
      ≤ ∑ k ∈ Finset.Icc 1 longest, (lengths.count k + if k = l then 1 else 0) * share longest k :=
        Finset.sum_le_sum fun k _ => Nat.mul_le_mul_right _ (count_set_le lengths s l k)
    _ = taken longest lengths + ∑ k ∈ Finset.Icc 1 longest, (if k = l then 1 else 0) * share longest k := by
        simp only [Nat.add_mul, Finset.sum_add_distrib]
        rfl
    _ ≤ taken longest lengths + share longest l := Nat.add_le_add_left hown _

theorem taken_placed_le (longest : Nat) (lengths : List Nat) (ds : List (Nat × Nat)) :
    taken longest (placed lengths ds) ≤ taken longest lengths + (ds.map fun d => share longest d.2).sum := by
  induction ds generalizing lengths with
  | nil => exact Nat.le_refl _
  | cons d ds ih =>
    have hlater := ih (lengths.set d.1 d.2)
    have hd := taken_set_le longest lengths d.1 d.2
    rw [List.map_cons, List.sum_cons]
    exact Nat.le_trans hlater (by omega)

theorem taken_replicate_zero (longest n : Nat) : taken longest (List.replicate n 0) = 0 := by
  refine Finset.sum_eq_zero fun l hl => ?_
  have hpos := (Finset.mem_Icc.mp hl).1
  rw [List.count_replicate, if_neg (by simp; omega), Nat.zero_mul]

end Code

/-- Hardly more symbols get words than there are. -/
theorem length_weights_le (counts : List Nat) : (weights counts).length ≤ max 2 counts.length := by
  have hused : (occurring counts).length ≤ counts.length := by
    exact Nat.le_trans (List.length_filterMap_le _ _) (Nat.le_of_eq List.length_zipIdx)
  rw [weights_eq]
  generalize occurring counts = used at hused ⊢
  rcases used with _ | ⟨d, _ | ⟨d', used⟩⟩
  · exact Nat.le_max_left 2 _
  · exact Nat.le_max_left 2 _
  · exact Nat.le_trans hused (Nat.le_max_right 2 _)

theorem taken_codeLengths_le (hlongest : 0 < longest) {counts : List Nat} (hcounts : counts.length ≤ 2 ^ longest) :
    Code.taken longest (codeLengths longest counts) ≤ 2 ^ longest := by
  obtain ⟨hsymbols, -, -⟩ := grow_parts counts
  rw [codeLengths_eq]
  dsimp only at hsymbols ⊢
  refine Nat.le_trans (Code.taken_placed_le _ _ _) ?_
  rw [Code.taken_replicate_zero, Nat.zero_add]
  refine Tree.sum_share_lengths_le ?_ _
  rw [hsymbols.length_eq, List.length_map]
  have htwo : 2 ^ 1 ≤ 2 ^ longest := Nat.pow_le_pow_right (by decide) hlongest
  exact Nat.le_trans (length_weights_le counts) (Nat.max_le.mpr ⟨htwo, hcounts⟩)

/-- **There is room for the words of a code**, if its alphabet has no more symbols than there are words of the greatest
length. -/
theorem hasRoom_codeLengths (hlongest : 0 < longest) {counts : List Nat} (hcounts : counts.length ≤ 2 ^ longest) :
    Code.HasRoom longest (codeLengths longest counts) :=
  Code.hasRoom_of_taken_le (codeLengths_le hlongest counts) (taken_codeLengths_le hlongest hcounts)

theorem hasRoom_dropZeros_codeLengths (hlongest : 0 < longest) {counts : List Nat}
    (hcounts : counts.length ≤ 2 ^ longest) : Code.HasRoom longest (dropZeros (codeLengths longest counts)) := by
  have hsub : (dropZeros (codeLengths longest counts)).Sublist (codeLengths longest counts) := by
    obtain ⟨n, hn⟩ := exists_dropZeros (codeLengths longest counts)
    have hsub := List.sublist_append_left (dropZeros (codeLengths longest counts)) (List.replicate n 0)
    rwa [← hn] at hsub
  exact Code.hasRoom_of_taken_le (fun l hl => codeLengths_le hlongest counts l (hsub.subset hl))
    (Nat.le_trans (Code.taken_le_of_sublist hsub) (taken_codeLengths_le hlongest hcounts))

end Landscape.Deflate
