import Landscape.Deflate.Block
import Landscape.Proofs.Deflate.Tree
import Mathlib.Algebra.GroupWithZero.Nat
import Mathlib.Data.List.GetD

/-!
# The lengths of words

The symbols that get words are those that occur, and there are at least two of them (`Landscape.Deflate.mem_weights`).
Their depths in the tree are lengths of words unless some lie too deep. Then room is made among the lengths allowed,
which never takes a word away (`Landscape.Deflate.le_sum_makeRoom`), so that the lengths suffice for all the symbols.
Either way each of these symbols has a length that is positive and not too long (`Landscape.Deflate.codeLengths_spec`).
-/

namespace Landscape.Deflate

/-! ### Symbols that get words -/

theorem lt_length_of_getD_ne_zero {ns : List Nat} {i : Nat} (hi : ns.getD i 0 ≠ 0) : i < ns.length := by
  by_contra hge
  exact hi (List.getD_eq_default ns 0 (Nat.le_of_not_lt hge))

/-- The symbols that occur, with how often they do. -/
def occurring (counts : List Nat) : List (Nat × Nat) :=
  counts.zipIdx.filterMap fun (n, symbol) => if n == 0 then none else some (symbol, n)

theorem mem_occurring {counts : List Nat} {s : Nat} :
    s ∈ (occurring counts).map Prod.fst ↔ counts.getD s 0 ≠ 0 := by
  rw [occurring, List.map_filterMap, List.mem_filterMap]
  constructor
  · rintro ⟨⟨n, symbol⟩, hmem, hsome⟩
    have hget := List.mem_zipIdx' hmem
    by_cases hn : n = 0
    · simp [hn] at hsome
    · have hs : symbol = s := by simpa [hn] using hsome
      rw [← hs, List.getD_eq_getElem counts 0 hget.1, ← hget.2]
      exact hn
  · intro hs
    have hlt := lt_length_of_getD_ne_zero hs
    rw [List.getD_eq_getElem counts 0 hlt] at hs
    exact ⟨(counts[s], s), List.mk_mem_zipIdx_iff_getElem?.mpr (List.getElem?_eq_getElem hlt), by simp [hs]⟩

theorem weights_eq (counts : List Nat) :
    weights counts = match occurring counts with
      | [] => [(0, 1), (1, 1)]
      | [(symbol, n)] => [(symbol, n), (if symbol < 2 then symbol + 1 else 0, 1)]
      | used => used :=
  rfl

/-- A tree of the symbols is a fork. -/
theorem two_le_length_weights (counts : List Nat) : 2 ≤ (weights counts).length := by
  rw [weights_eq]
  rcases occurring counts with _ | ⟨⟨s, n⟩, _ | ⟨d, used⟩⟩
  · exact Nat.le_refl 2
  · exact Nat.le_refl 2
  · exact Nat.le_add_left 2 used.length

/-- **Every symbol that occurs gets a word.** -/
theorem mem_weights {counts : List Nat} {s : Nat} (hs : counts.getD s 0 ≠ 0) :
    s ∈ (weights counts).map Prod.fst := by
  have hmem := mem_occurring.mpr hs
  rw [weights_eq]
  generalize occurring counts = used at hmem ⊢
  rcases used with _ | ⟨⟨s, n⟩, _ | ⟨d, used⟩⟩
  · exact absurd hmem List.not_mem_nil
  · exact List.mem_cons.mpr (.inl (List.mem_singleton.mp hmem))
  · exact hmem

/-- Some symbol gets a word, even if none occurs. -/
theorem exists_mem_weights {counts : List Nat} (hne : counts ≠ []) :
    ∃ s < counts.length, s ∈ (weights counts).map Prod.fst := by
  by_cases hoccurs : ∃ s, counts.getD s 0 ≠ 0
  · obtain ⟨s, hs⟩ := hoccurs
    exact ⟨s, lt_length_of_getD_ne_zero hs, mem_weights hs⟩
  · have hnone : occurring counts = [] := by
      refine List.eq_nil_iff_forall_not_mem.mpr fun d hd => hoccurs ⟨d.1, ?_⟩
      exact mem_occurring.mp (List.mem_map_of_mem hd)
    refine ⟨0, List.length_pos_iff.mpr hne, ?_⟩
    rw [weights_eq, hnone]
    exact List.mem_cons_self

/-! ### Room -/

variable {perLength : List Nat} {l longest : Nat}

theorem sum_le_modify_sub (ns : List Nat) (l : Nat) : ns.sum ≤ (ns.modify l (· - 1)).sum + 1 := by
  induction ns generalizing l with
  | nil => exact Nat.zero_le _
  | cons n ns ih =>
    cases l with
    | zero =>
      rw [List.modify_zero_cons, List.sum_cons, List.sum_cons]
      omega
    | succ l =>
      have hrest := ih l
      rw [List.modify_succ_cons, List.sum_cons, List.sum_cons]
      omega

theorem sum_modify_add {ns : List Nat} (hl : l < ns.length) :
    (ns.modify l (· + 2)).sum = ns.sum + 2 := by
  induction ns generalizing l with
  | nil => exact absurd hl (Nat.not_lt_zero l)
  | cons n ns ih =>
    cases l with
    | zero =>
      rw [List.modify_zero_cons, List.sum_cons, List.sum_cons]
      omega
    | succ l =>
      have hrest := ih (Nat.lt_of_succ_lt_succ hl)
      rw [List.modify_succ_cons, List.sum_cons, List.sum_cons]
      omega

/-- At most one word of a length that counts is taken away. -/
theorem tail_sum_le_modify_sub (perLength : List Nat) (l : Nat) :
    perLength.tail.sum ≤ (perLength.modify l (· - 1)).tail.sum + 1 := by
  rcases perLength with _ | ⟨n, ns⟩
  · exact Nat.zero_le _
  · cases l with
    | zero =>
      rw [List.modify_zero_cons]
      exact Nat.le_succ _
    | succ l =>
      rw [List.modify_succ_cons]
      exact sum_le_modify_sub ns l

theorem tail_sum_modify_add (hl : l + 1 < perLength.length) :
    (perLength.modify (l + 1) (· + 2)).tail.sum = perLength.tail.sum + 2 := by
  rcases perLength with _ | ⟨n, ns⟩
  · exact absurd hl (Nat.not_lt_zero _)
  · rw [List.modify_succ_cons]
    exact sum_modify_add (Nat.lt_of_succ_lt_succ hl)

theorem length_makeRoom (longest : Nat) (perLength : List Nat) (n : Nat) :
    (makeRoom longest perLength n).length = perLength.length := by
  induction n generalizing perLength with
  | zero => rfl
  | succ n ih => rw [makeRoom, ih, List.length_modify, List.length_modify, List.length_modify]

/-- **Making room takes no word away.** -/
theorem le_sum_makeRoom (hlongest : 0 < longest) (hlength : perLength.length = longest + 1) (n : Nat) :
    perLength.tail.sum ≤ (makeRoom longest perLength n).tail.sum := by
  induction n generalizing perLength with
  | zero => exact Nat.le_refl _
  | succ n ih =>
    rw [makeRoom]
    generalize hl : ((List.range longest).reverse.find? fun l => perLength.getD l 0 != 0).getD 0 = l
    have hlt : l < longest := by
      rw [← hl]
      cases hfind : (List.range longest).reverse.find? fun l => perLength.getD l 0 != 0 with
      | none => exact hlongest
      | some l => exact List.mem_range.mp (List.mem_reverse.mp (List.mem_of_find?_eq_some hfind))
    refine Nat.le_trans ?_ (ih (by rw [List.length_modify, List.length_modify, List.length_modify, hlength]))
    -- a step takes two words away at most, and puts two, whose length is not zero
    have hfrom := tail_sum_le_modify_sub perLength l
    have hto : ((perLength.modify l (· - 1)).modify (l + 1) (· + 2)).tail.sum = _ :=
      tail_sum_modify_add (by rw [List.length_modify, hlength]; omega)
    have hlast := tail_sum_le_modify_sub ((perLength.modify l (· - 1)).modify (l + 1) (· + 2)) longest
    omega

theorem countP_lt_succ {α : Type} (f : α → Nat) (xs : List α) (n : Nat) :
    (xs.countP fun x => f x < n + 1) = (xs.countP fun x => f x < n) + xs.countP fun x => f x == n := by
  induction xs with
  | nil => rfl
  | cons x xs ih =>
    rw [List.countP_cons, List.countP_cons, List.countP_cons, ih]
    rcases Nat.lt_trichotomy (f x) n with hlt | heq | hgt
    · simp [hlt, Nat.lt_succ_of_lt hlt, Nat.ne_of_lt hlt]
      omega
    · simp [heq]
      omega
    · simp [Nat.not_lt_of_gt hgt, Nat.ne_of_gt hgt, Nat.not_lt_of_le (Nat.succ_le_of_lt hgt)]

/-- Counting by a number counts everything. -/
theorem sum_countP_eq {α : Type} (f : α → Nat) (xs : List α) (n : Nat) :
    ((List.range n).map fun l => xs.countP fun x => f x == l).sum = xs.countP fun x => f x < n := by
  induction n with
  | zero => simp
  | succ n ih =>
    rw [List.range_succ, List.map_append, List.sum_append, ih, countP_lt_succ, List.map_singleton, List.sum_singleton]

theorem map_getD_range (ns : List Nat) : ((List.range ns.length).map fun l => ns.getD l 0) = ns := by
  refine List.ext_getElem (by rw [List.length_map, List.length_range]) fun l _ hl => ?_
  rw [List.getElem_map, List.getElem_range, List.getD_eq_getElem ns 0 hl]

/-- The lengths, the longest coming first, begin with those that are positive. -/
theorem exists_lengths (hlength : perLength.length = longest + 1) :
    ∃ vs zeros, ((List.range (longest + 1)).reverse.flatMap fun l => List.replicate (perLength.getD l 0) l) =
      vs ++ zeros ∧ vs.length = perLength.tail.sum ∧ ∀ l ∈ vs, 0 < l ∧ l ≤ longest := by
  rcases perLength with _ | ⟨n, ns⟩
  · exact absurd hlength (Nat.succ_ne_zero longest).symm
  · have hns : ns.length = longest := Nat.succ.inj hlength
    -- the length zero comes last
    rw [List.range_succ_eq_map, List.reverse_cons, List.flatMap_append]
    refine ⟨_, _, rfl, ?_, fun l hl => ?_⟩
    · have hcounts : ((List.range longest).map Nat.succ).map
          (fun l => (List.replicate ((n :: ns).getD l 0) l).length) = ns := by
        rw [List.map_map]
        refine .trans (List.map_congr_left fun l _ => ?_) (hns ▸ map_getD_range ns)
        exact List.length_replicate
      rw [((List.reverse_perm _).flatMap_right _).length_eq, List.length_flatMap, hcounts, List.tail_cons]
    · obtain ⟨k, hk, hmem⟩ := List.mem_flatMap.mp hl
      obtain ⟨m, hm, rfl⟩ := List.mem_map.mp (List.mem_reverse.mp hk)
      rw [List.eq_of_mem_replicate hmem]
      exact ⟨Nat.succ_pos m, List.mem_range.mp hm⟩

/-! ### Lengths -/

/-- The parts that a tree is grown of. -/
def parts (counts : List Nat) : Heap :=
  ((weights counts).map fun (symbol, n) => Part.mk n 0 (.leaf symbol)).toArray

theorem symbols_parts (counts : List Nat) : (parts counts).symbols = (weights counts).map Prod.fst := by
  rw [Heap.symbols, parts, List.flatMap_map, List.map_eq_flatMap]
  rfl

theorem singles_parts (counts : List Nat) : (parts counts).singles = (weights counts).map Prod.fst := by
  rw [Heap.singles, parts, List.filterMap_map, ← List.filterMap_eq_map]
  rfl

/-- How many leaves have each depth, where no depth counts as more than `longest`. -/
def perDepth (longest : Nat) (depths : List (Nat × Nat)) : List Nat :=
  (List.range (longest + 1)).map fun l => depths.countP fun d => min d.2 longest == l

theorem length_perDepth (longest : Nat) (depths : List (Nat × Nat)) :
    (perDepth longest depths).length = longest + 1 := by
  rw [perDepth, List.length_map, List.length_range]

/-- All the leaves count. -/
theorem sum_perDepth (longest : Nat) (depths : List (Nat × Nat)) :
    (perDepth longest depths).sum = depths.length := by
  rw [perDepth, sum_countP_eq fun d : Nat × Nat => min d.2 longest, List.countP_eq_length]
  intro d _
  exact decide_eq_true (Nat.lt_succ_of_le (Nat.min_le_right _ _))

/-- If none of them is the root, no length is zero. -/
theorem tail_sum_perDepth (hlongest : 0 < longest) {depths : List (Nat × Nat)} (hdepths : ∀ d ∈ depths, 0 < d.2) :
    (perDepth longest depths).tail.sum = depths.length := by
  have hall := sum_perDepth longest depths
  -- no leaf has depth zero, so nothing is lost with the head
  have hroot : depths.countP (fun d => min d.2 longest == 0) = 0 := by
    refine List.countP_eq_zero.mpr fun d hd hzero => ?_
    have hpos := hdepths d hd
    have hmin := eq_of_beq hzero
    omega
  rw [perDepth, List.range_succ_eq_map, List.map_cons, List.sum_cons, hroot, Nat.zero_add] at hall
  rw [perDepth, List.range_succ_eq_map, List.map_cons, List.tail_cons]
  exact hall

/-- The lengths of the symbols of a tree, `order` being the order in which they were joined. -/
def Tree.lengths (longest : Nat) (tree : Tree) (order : List Nat) : List (Nat × Nat) :=
  let overflow := tree.countBelow longest 0
  if overflow == 0 then tree.depths 0
  else
    order.zip ((List.range (longest + 1)).reverse.flatMap fun l =>
      List.replicate ((makeRoom longest (perDepth longest (tree.depths 0)) ((overflow + 1) / 2)).getD l 0) l)

/-- **The lengths of the symbols of a tree** are positive and not too long, and every symbol has one. -/
theorem Tree.lengths_spec (hlongest : 0 < longest) {tree : Tree} (htree : tree.single? = none) {order : List Nat}
    (horder : order.Perm tree.symbols) :
    (∀ s ∈ tree.symbols, s ∈ (tree.lengths longest order).map Prod.fst) ∧
      ∀ d ∈ tree.lengths longest order, 0 < d.2 ∧ d.2 ≤ longest := by
  have hpos := depths_pos htree
  rw [lengths]
  split
  · rename_i hnone
    rw [map_fst_depths]
    exact ⟨fun s hs => hs, fun d hd => ⟨hpos d hd, depths_le (eq_of_beq hnone) d hd⟩⟩
  · -- room is made, and the symbols that were joined first have the longest words
    generalize hroom : makeRoom longest (perDepth longest (tree.depths 0))
      ((tree.countBelow longest 0 + 1) / 2) = perLength
    have hlength : perLength.length = longest + 1 := by
      rw [← hroom, length_makeRoom, length_perDepth]
    obtain ⟨vs, zeros, hvs, hlengthvs, hin⟩ := exists_lengths hlength
    have henough : order.length ≤ vs.length := by
      rw [horder.length_eq, ← tree.length_depths 0, ← tail_sum_perDepth hlongest hpos, hlengthvs, ← hroom]
      exact le_sum_makeRoom hlongest (length_perDepth _ _) _
    rw [hvs]
    constructor
    · rw [List.map_fst_zip (by rw [List.length_append]; omega)]
      exact fun s hs => horder.mem_iff.mpr hs
    · intro d hd
      obtain ⟨i, hi, rfl⟩ := List.getElem_of_mem hd
      have hlt := List.lt_length_left_of_zip hi
      rw [List.getElem_zip, List.getElem_append_left (Nat.lt_of_lt_of_le hlt henough)]
      exact hin _ (List.getElem_mem _)

/-- Some lengths in the places of their symbols. -/
def placed (ls : List Nat) (ds : List (Nat × Nat)) : List Nat :=
  ds.foldl (fun ls d => ls.set d.1 d.2) ls

theorem codeLengths_eq (longest : Nat) (counts : List Nat) :
    codeLengths longest counts =
      let grown := Heap.grow ((weights counts).length - 1) (Heap.ofArray (parts counts))
      placed (List.replicate counts.length 0) ((grown.1.getD 0 default).tree.lengths longest grown.2) := by
  rw [codeLengths]
  dsimp only
  rw [List.length_map]
  rfl

/-- **The tree of a code** has the symbols that get words, each of which was joined once. -/
theorem grow_parts (counts : List Nat) :
    let grown := Heap.grow ((weights counts).length - 1) (Heap.ofArray (parts counts))
    let tree := (grown.1.getD 0 default).tree
    tree.symbols.Perm ((weights counts).map Prod.fst) ∧ tree.single? = none ∧ grown.2.Perm tree.symbols := by
  have htwo := two_le_length_weights counts
  have hsize : (Heap.ofArray (parts counts)).size = (weights counts).length - 1 + 1 := by
    rw [← Array.length_toList, (Heap.perm_ofArray _).length_eq, parts, List.length_map]
    omega
  obtain ⟨hone, hsymbols, hsingles⟩ := Heap.grow_spec hsize
  replace hsymbols := hsymbols.trans ((Heap.perm_ofArray _).flatMap_right _)
  replace hsingles := hsingles.trans ((Heap.perm_ofArray _).filterMap _)
  generalize Heap.grow ((weights counts).length - 1) (Heap.ofArray (parts counts)) = grown at hone hsymbols hsingles ⊢
  obtain ⟨⟨ps⟩, order⟩ := grown
  obtain ⟨p, rfl⟩ := List.length_eq_one_iff.mp hone
  have hweights : p.tree.symbols.Perm ((weights counts).map Prod.fst) := by
    have honly : Heap.symbols ⟨[p]⟩ = p.tree.symbols := List.flatMap_singleton _ _
    rw [← symbols_parts, ← honly]
    exact hsymbols
  have hfork : p.tree.single? = none := by
    refine Tree.single?_eq_none ?_
    rw [hweights.length_eq, List.length_map]
    exact htwo
  have hnone : Heap.singles ⟨[p]⟩ = [] := List.filterMap_cons_none hfork
  have horder : order.Perm ((weights counts).map Prod.fst) := by
    rw [← singles_parts, ← List.append_nil order, ← hnone]
    exact hsingles
  exact ⟨hweights, hfork, horder.trans hweights.symm⟩

section

variable {ds : List (Nat × Nat)}

theorem length_placed (ls : List Nat) (ds : List (Nat × Nat)) : (placed ls ds).length = ls.length := by
  rw [placed]
  induction ds generalizing ls with
  | nil => rfl
  | cons d ds ih => rw [List.foldl_cons, ih, List.length_set]

theorem placed_le (hds : ∀ d ∈ ds, d.2 ≤ longest) {ls : List Nat} (hls : ∀ l ∈ ls, l ≤ longest) :
    ∀ l ∈ placed ls ds, l ≤ longest := by
  induction ds generalizing ls with
  | nil => exact hls
  | cons d ds ih =>
    have hd := List.forall_mem_cons.mp hds
    refine ih hd.2 fun l hl => ?_
    rcases List.mem_or_eq_of_mem_set hl with hold | hnew
    · exact hls l hold
    · rw [hnew]
      exact hd.1

/-- A length stays positive once it is, and a symbol of the list gets one that is. -/
theorem placed_pos (hds : ∀ d ∈ ds, 0 < d.2) {ls : List Nat} {s : Nat} (hs : s < ls.length)
    (hset : 0 < ls.getD s 0 ∨ s ∈ ds.map Prod.fst) : 0 < (placed ls ds).getD s 0 := by
  induction ds generalizing ls with
  | nil => exact hset.resolve_right List.not_mem_nil
  | cons d ds ih =>
    have hd := List.forall_mem_cons.mp hds
    have hs' : s < (ls.set d.1 d.2).length := by rwa [List.length_set]
    refine ih hd.2 hs' ?_
    by_cases heq : d.1 = s
    · refine .inl ?_
      dsimp only
      rw [List.getD_eq_getElem _ 0 hs', List.getElem_set, if_pos heq]
      exact hd.1
    · have hkept : (ls.set d.1 d.2).getD s 0 = ls.getD s 0 := by
        rw [List.getD_eq_getElem?_getD, List.getD_eq_getElem?_getD, List.getElem?_set_ne heq]
      rw [hkept]
      refine hset.imp_right fun hmem => ?_
      rcases List.mem_cons.mp hmem with hhere | hlater
      · exact absurd hhere.symm heq
      · exact hlater

end

/-- **The lengths of the symbols that get words** are positive and not too long. -/
theorem codeLengths_spec (hlongest : 0 < longest) (counts : List Nat) :
    ∃ ds : List (Nat × Nat), codeLengths longest counts = placed (List.replicate counts.length 0) ds ∧
      (∀ s ∈ (weights counts).map Prod.fst, s ∈ ds.map Prod.fst) ∧ ∀ d ∈ ds, 0 < d.2 ∧ d.2 ≤ longest := by
  obtain ⟨hsymbols, hfork, horder⟩ := grow_parts counts
  obtain ⟨hall, hin⟩ := Tree.lengths_spec hlongest hfork horder
  exact ⟨_, codeLengths_eq longest counts, fun s hs => hall s (hsymbols.mem_iff.mpr hs), hin⟩

theorem length_codeLengths (hlongest : 0 < longest) (counts : List Nat) :
    (codeLengths longest counts).length = counts.length := by
  obtain ⟨ds, heq, -⟩ := codeLengths_spec hlongest counts
  rw [heq, length_placed, List.length_replicate]

/-- **No word is too long.** -/
theorem codeLengths_le (hlongest : 0 < longest) (counts : List Nat) :
    ∀ l ∈ codeLengths longest counts, l ≤ longest := by
  obtain ⟨ds, heq, -, hds⟩ := codeLengths_spec hlongest counts
  rw [heq]
  refine placed_le (fun d hd => (hds d hd).2) fun l hl => ?_
  rw [List.eq_of_mem_replicate hl]
  exact Nat.zero_le longest

theorem codeLengths_pos_of_mem_weights (hlongest : 0 < longest) {counts : List Nat} {s : Nat}
    (hs : s < counts.length) (hmem : s ∈ (weights counts).map Prod.fst) :
    0 < (codeLengths longest counts).getD s 0 := by
  obtain ⟨ds, heq, hall, hds⟩ := codeLengths_spec hlongest counts
  rw [heq]
  exact placed_pos (fun d hd => (hds d hd).1) (by rw [List.length_replicate]; exact hs) (.inr (hall s hmem))

/-- **Every symbol that occurs has a word.** -/
theorem codeLengths_pos (hlongest : 0 < longest) {counts : List Nat} {s : Nat} (hs : counts.getD s 0 ≠ 0) :
    0 < (codeLengths longest counts).getD s 0 :=
  codeLengths_pos_of_mem_weights hlongest (lt_length_of_getD_ne_zero hs) (mem_weights hs)

/-- Some symbol has a word, even if none occurs. -/
theorem exists_codeLengths_pos (hlongest : 0 < longest) {counts : List Nat} (hne : counts ≠ []) :
    ∃ s, 0 < (codeLengths longest counts).getD s 0 := by
  obtain ⟨s, hs, hmem⟩ := exists_mem_weights hne
  exact ⟨s, codeLengths_pos_of_mem_weights hlongest hs hmem⟩

end Landscape.Deflate
