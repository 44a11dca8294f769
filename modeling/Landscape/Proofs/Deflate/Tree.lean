import Landscape.Deflate.Code
import Mathlib.Data.List.Perm.Basic

/-!
# Growing the tree of a code

A heap keeps its parts, in whatever order: a part that sinks only changes places with others
(`Landscape.Deflate.Heap.perm_sink`). So a step of growing takes two parts from the heap and puts their join in
(`Landscape.Deflate.Heap.exists_perm_join`), and what is left in the end is one tree with all the symbols at its leaves,
each of which was joined once (`Landscape.Deflate.Heap.grow_spec`).
-/

namespace Landscape.Deflate

/-! ### Trees -/

namespace Tree

/-- The symbols at the leaves. -/
def symbols : Tree → List Nat
  | .leaf symbol => [symbol]
  | .fork left right => left.symbols ++ right.symbols

/-- The symbol of a tree that has no other. -/
def single? : Tree → Option Nat
  | .leaf symbol => some symbol
  | .fork .. => none

theorem map_fst_depths (t : Tree) (depth : Nat) : (t.depths depth).map Prod.fst = t.symbols := by
  induction t generalizing depth with
  | leaf symbol => rfl
  | fork left right ihl ihr => rw [depths, List.map_append, ihl, ihr, symbols]

theorem length_depths (t : Tree) (depth : Nat) : (t.depths depth).length = t.symbols.length := by
  rw [← map_fst_depths t depth, List.length_map]

theorem le_depths (t : Tree) (depth : Nat) : ∀ d ∈ t.depths depth, depth ≤ d.2 := by
  induction t generalizing depth with
  | leaf symbol =>
    intro d hd
    exact Nat.le_of_eq (congrArg Prod.snd (List.mem_singleton.mp hd)).symm
  | fork left right ihl ihr =>
    intro d hd
    rcases List.mem_append.mp hd with hl | hr
    · exact Nat.le_of_succ_le (ihl (depth + 1) d hl)
    · exact Nat.le_of_succ_le (ihr (depth + 1) d hr)

/-- No leaf is too deep if nothing is. -/
theorem depths_le {t : Tree} {most depth : Nat} (h : t.countBelow most depth = 0) :
    ∀ d ∈ t.depths depth, d.2 ≤ most := by
  induction t generalizing depth with
  | leaf symbol =>
    intro d hd
    rw [List.mem_singleton.mp hd]
    by_contra hdeep
    rw [countBelow, if_pos (Nat.lt_of_not_le hdeep)] at h
    exact absurd h Nat.one_ne_zero
  | fork left right ihl ihr =>
    intro d hd
    rw [countBelow] at h
    rcases List.mem_append.mp hd with hl | hr
    · exact ihl (by omega) d hl
    · exact ihr (by omega) d hr

/-- **Every leaf of a fork lies below its root.** -/
theorem depths_pos {t : Tree} (h : t.single? = none) : ∀ d ∈ t.depths 0, 0 < d.2 := by
  cases t with
  | leaf symbol => exact absurd h (Option.some_ne_none symbol)
  | fork left right =>
    intro d hd
    rcases List.mem_append.mp hd with hl | hr
    · exact left.le_depths 1 d hl
    · exact right.le_depths 1 d hr

theorem single?_eq_none {t : Tree} (h : 2 ≤ t.symbols.length) : t.single? = none := by
  cases t with
  | leaf symbol => exact absurd h (Nat.not_succ_le_self 1)
  | fork left right => rfl

end Tree

/-! ### Heaps -/

namespace Heap

/-- The lighter of the parts below is there if one of them is. -/
theorem lighterBelow_lt {h : Heap} {j : Nat} (hj : j < h.size) : j + (h.lighterBelow j).toNat < h.size := by
  by_cases hlighter : h.lighterBelow j = true
  · have hnext := hlighter
    rw [lighterBelow, Bool.and_eq_true, decide_eq_true_eq] at hnext
    rw [hlighter]
    exact hnext.1
  · rw [Bool.not_eq_true] at hlighter
    rw [hlighter]
    exact hj

theorem getD_default_eq_getElem {h : Heap} {k : Nat} (hk : k < h.toList.length) :
    h.getD k default = h.toList[k] := by
  rw [Array.length_toList] at hk
  rw [Array.getD, dif_pos hk, Array.getInternal_eq_getElem, Array.getElem_toList]

/-- **A part that sinks replaces the one at its place.** -/
theorem perm_sink (h : Heap) (p : Part) (k : Nat) : (h.sink p k).toList.Perm (h.toList.set k p) := by
  fun_induction sink h p k with
  | case1 h k j hj c hlight => rw [Array.toList_setIfInBounds]
  | case2 h k j hj c hnot ih =>
    -- the lighter part below goes up, and the part that sinks goes on from there: the two have changed places
    have hlt : c < h.toList.length := Nat.lt_of_lt_of_eq (lighterBelow_lt hj) Array.length_toList.symm
    have hk : k < c := by omega
    rw [getD_default_eq_getElem hlt, Array.toList_setIfInBounds] at ih
    have hlt' : c < (h.toList.set k p).length := by rwa [List.length_set]
    have hswap := List.set_set_perm (Nat.lt_trans hk hlt') hlt'
    rw [List.getElem_set_ne (by omega), List.getElem_set_self, List.set_set] at hswap
    rw [getD_default_eq_getElem hlt]
    exact ih.trans hswap
  | case3 h k j hj => rw [Array.toList_setIfInBounds]

theorem perm_ofArray (h : Heap) : h.ofArray.toList.Perm h.toList := by
  rw [ofArray]
  generalize (List.range (h.size / 2)).reverse = places
  induction places generalizing h with
  | nil => exact .refl _
  | cons k places ih =>
    refine (ih (h.sink (h.getD k default) k)).trans ((perm_sink h _ k).trans ?_)
    -- the part that sinks is the one that stands there, if there is any
    rcases Nat.lt_or_ge k h.toList.length with hlt | hge
    · rw [getD_default_eq_getElem hlt, List.set_getElem_self]
    · rw [List.set_eq_of_length_le hge]

theorem perm_removeLeast {h : Heap} (hne : 0 < h.size) :
    (h.removeLeast.1 :: h.removeLeast.2.toList).Perm h.toList := by
  obtain ⟨ps⟩ := h
  cases ps with
  | nil => exact absurd hne (Nat.lt_irrefl 0)
  | cons p ps =>
    have hsink := perm_sink (Array.mk (p :: ps)).pop ((Array.mk (p :: ps)).back?.getD default) 0
    refine (List.Perm.cons p hsink).trans (.cons p ?_)
    -- the last part sinks from the place of the first, unless it is the first
    rcases List.eq_nil_or_concat' ps with rfl | ⟨qs, q, rfl⟩
    · exact .refl _
    · have hpush : Array.mk (p :: (qs ++ [q])) = (Array.mk (p :: qs)).push q := by
        rw [List.push_toArray, List.cons_append]
      rw [hpush, Array.pop_push, Array.back?_push]
      exact (List.perm_append_singleton q qs).symm

/-- **A step of growing** takes the two lightest parts from the heap and puts their join in. -/
theorem exists_perm_join {h : Heap} (hsize : 2 ≤ h.size) :
    ∃ parts, h.toList.Perm (h.removeLeast.1 :: h.removeLeast.2.getD 0 default :: parts) ∧
      (h.removeLeast.2.sink (h.removeLeast.1.join (h.removeLeast.2.getD 0 default)) 0).toList.Perm
        (h.removeLeast.1.join (h.removeLeast.2.getD 0 default) :: parts) := by
  have hremove := perm_removeLeast (Nat.lt_of_succ_lt hsize)
  generalize h.removeLeast.1 = p at hremove ⊢
  generalize h.removeLeast.2 = h₁ at hremove ⊢
  obtain ⟨ps⟩ := h₁
  cases ps with
  | nil =>
    have hlength := hremove.length_eq
    have hone : h.size = 1 := hlength.symm
    omega
  | cons q parts => exact ⟨parts, hremove.symm, perm_sink _ _ 0⟩

/-- The symbols at the leaves of the trees of a heap. -/
def symbols (h : Heap) : List Nat :=
  h.toList.flatMap fun p => p.tree.symbols

/-- The symbols whose trees have no others. -/
def singles (h : Heap) : List Nat :=
  h.toList.filterMap fun p => p.tree.single?

theorem grow_succ (n : Nat) (h : Heap) :
    h.grow (n + 1) =
      let q := h.removeLeast.2.getD 0 default
      let grown := (h.removeLeast.2.sink (h.removeLeast.1.join q) 0).grow n
      (grown.1, [h.removeLeast.1.tree, q.tree].filterMap Tree.single? ++ grown.2) :=
  rfl

/-- **What growing makes of a heap**: one part with all the symbols, each of which was joined once unless it is
alone. -/
theorem grow_spec {n : Nat} {h : Heap} (hsize : h.size = n + 1) :
    (h.grow n).1.size = 1 ∧ (h.grow n).1.symbols.Perm h.symbols ∧
      ((h.grow n).2 ++ (h.grow n).1.singles).Perm h.singles := by
  induction n generalizing h with
  | zero => exact ⟨hsize, .refl _, .refl _⟩
  | succ n ih =>
    -- one step leaves a part less, and what the others make of it is known
    obtain ⟨parts, hbefore, hafter⟩ := exists_perm_join (h := h) (by omega)
    rw [grow_succ]
    dsimp only
    generalize h.removeLeast.1 = p at hbefore hafter ⊢
    generalize h.removeLeast.2.getD 0 default = q at hbefore hafter ⊢
    generalize h.removeLeast.2.sink (p.join q) 0 = h₂ at hafter ⊢
    have hsize₂ : h₂.size = n + 1 := by
      have hlength := hbefore.length_eq
      have hlength₂ := hafter.length_eq
      simp only [List.length_cons, Array.length_toList] at hlength hlength₂
      omega
    obtain ⟨hone, hsymbols, hsingles⟩ := ih hsize₂
    refine ⟨hone, hsymbols.trans ?_, ?_⟩
    · -- the join has the symbols of both parts
      refine (hafter.flatMap_right _).trans (.trans ?_ (hbefore.flatMap_right _).symm)
      simp [Part.join, Tree.symbols]
    · -- the symbols of the two parts are no longer alone, and that of the join never was
      rw [List.append_assoc]
      refine (hsingles.append_left _).trans ?_
      refine ((hafter.filterMap _).append_left _).trans (.trans ?_ (hbefore.filterMap _).symm)
      have hjoin : (p.join q :: parts).filterMap (fun p => p.tree.single?) =
          parts.filterMap fun p => p.tree.single? :=
        List.filterMap_cons_none rfl
      have hpair : [p.tree, q.tree].filterMap Tree.single? = [p, q].filterMap fun p => p.tree.single? := by
        simp only [List.filterMap_cons, List.filterMap_nil]
      rw [hjoin, hpair, ← List.filterMap_append]
      exact .refl _

end Heap

end Landscape.Deflate
