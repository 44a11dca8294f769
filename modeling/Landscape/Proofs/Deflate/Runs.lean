import Landscape.Proofs.Deflate.Words

/-!
# Reading lengths in parts

Lengths are written in parts, which are read back one by one: each part stands for the lengths that were drawn together
(`Landscape.Deflate.stands_runs`), has a symbol and fits into the bits after it
(`Landscape.Deflate.isWritable_runs`). A part that repeats the length before it may follow lengths that come from
somewhere else, so only what the writer takes for the length before has to be there.
-/

namespace Landscape.Deflate

/-! ### Parts -/

/-- **Parts that stand for lengths** which follow others. -/
inductive Stands : List Nat → List Run → List Nat → Prop
  | none (before : List Nat) : Stands before [] []
  | part {before : List Nat} {r : Run} {l : Nat} {ls ls' : List Nat} {rs : List Run}
    (hr : r.expand before = some (l :: ls)) (hrest : Stands (before ++ l :: ls) rs ls') :
    Stands before (r :: rs) (l :: ls ++ ls')

/-- A part with a symbol and a number that fits into its bits. -/
def Run.IsWritable : Run → Prop
  | .length l => l ≤ longestWord
  | .again n => 3 ≤ n ∧ n ≤ 6
  | .zeros n => 3 ≤ n ∧ n ≤ 138

namespace Stands

variable {before ls ls' : List Nat} {rs rs' : List Run}

/-- Parts after parts. -/
theorem append (h : Stands before rs ls) (h' : Stands (before ++ ls) rs' ls') :
    Stands before (rs ++ rs') (ls ++ ls') := by
  induction h with
  | none before => rwa [List.append_nil] at h'
  | part hr hrest ih =>
    rw [← List.append_assoc] at h'
    rw [List.append_assoc]
    exact .part hr (ih h')

theorem length (before : List Nat) (l n : Nat) : Stands before (List.replicate n (.length l)) (List.replicate n l) := by
  induction n generalizing before with
  | zero => exact .none before
  | succ n ih =>
    have hone : (Run.length l).expand before = some [l] := rfl
    exact .part hone (ih _)

theorem zeros (before : List Nat) (n : Nat) : Stands before [.zeros (n + 1)] (List.replicate (n + 1) 0) := by
  have hexpand : (Run.zeros (n + 1)).expand before = some (0 :: List.replicate n 0) := rfl
  have hone := Stands.part hexpand (.none _)
  rwa [List.append_nil] at hone

theorem again {l : Nat} (hbefore : before.getLast? = some l) (n : Nat) :
    Stands before [.again (n + 1)] (List.replicate (n + 1) l) := by
  have hexpand : (Run.again (n + 1)).expand before = some (l :: List.replicate n l) := by
    rw [Run.expand, hbefore]
    rfl
  have hone := Stands.part hexpand (.none _)
  rwa [List.append_nil] at hone

end Stands

/-! ### Writing lengths in parts -/

/-- What is drawn together is what comes next. -/
theorem cons_eq_replicate_append {l n : Nat} {ls : List Nat} (hpos : 0 < n)
    (hn : n ≤ (ls.takeWhile (· == l)).length + 1) : l :: ls = List.replicate n l ++ ls.drop (n - 1) := by
  obtain ⟨m, rfl⟩ : ∃ m, n = m + 1 := ⟨n - 1, by omega⟩
  have hm : m ≤ (ls.takeWhile (· == l)).length := Nat.le_of_succ_le_succ hn
  have hsame : ls.take m = List.replicate m l := by
    have hbegins := List.prefix_iff_eq_take.mp (List.takeWhile_prefix (l := ls) (· == l))
    have htake : ls.take m = (ls.takeWhile (· == l)).take m := by
      rw [hbegins, List.take_take, Nat.min_eq_left hm]
    rw [htake]
    refine List.eq_replicate_iff.mpr ⟨by rw [List.length_take, Nat.min_eq_left hm], fun k hk => ?_⟩
    have hzero := List.mem_takeWhile_imp (List.mem_of_mem_take hk)
    exact eq_of_beq hzero
  rw [List.replicate_succ, List.cons_append, ← hsame, Nat.add_sub_cancel, List.take_append_drop]

theorem stands_runsOf {before : List Nat} {last : Option Nat} (l : Nat) {n : Nat}
    (hlast : ∀ k, last = some k → before.getLast? = some k) (hpos : 0 < n) :
    Stands before (runsOf last l n) (List.replicate n l) := by
  obtain ⟨m, rfl⟩ : ∃ m, n = m + 1 := ⟨n - 1, by omega⟩
  rw [runsOf]
  split
  · rename_i hzero
    rw [eq_of_beq hzero]
    split
    · exact .length before 0 (m + 1)
    · exact .zeros before m
  · split
    · rename_i hsame
      split
      · exact .length before l (m + 1)
      · exact .again (hlast l (eq_of_beq hsame)) m
    · split
      · exact .length before l (m + 1)
      · -- the length itself, and as often again as is left
        obtain ⟨k, rfl⟩ : ∃ k, m = k + 1 := ⟨m - 1, by omega⟩
        exact (Stands.length before l 1).append (.again List.getLast?_concat k)

/-- **Lengths in parts stand for these lengths**, if the length before them is not taken for another one. -/
theorem stands_runs {before : List Nat} {last : Option Nat} (ls : List Nat)
    (hlast : ∀ k, last = some k → before.getLast? = some k) : Stands before (runs last ls) ls := by
  fun_induction runs last ls generalizing before with
  | case1 last => exact .none before
  | case2 last l ls n =>
    rename_i ih
    have hpos : 0 < n := by
      have hlongest : 0 < longestRun last l := by
        rw [longestRun]
        split
        · decide
        · split <;> decide
      exact Nat.lt_min.mpr ⟨hlongest, Nat.succ_pos _⟩
    rw [cons_eq_replicate_append hpos (Nat.min_le_right _ _)]
    refine (stands_runsOf l hlast hpos).append (ih fun k hk => ?_)
    rw [List.getLast?_append, List.getLast?_replicate, if_neg (Nat.ne_of_gt hpos), ← hk]
    rfl

theorem isWritable_runsOf {last : Option Nat} {l n : Nat} (hl : l ≤ longestWord) (hn : n ≤ longestRun last l) :
    ∀ r ∈ runsOf last l n, r.IsWritable := by
  have hlength {k : Nat} (hk : k ≤ longestWord) (m : Nat) : ∀ r ∈ List.replicate m (Run.length k), r.IsWritable := by
    intro r hr
    rw [List.eq_of_mem_replicate hr]
    exact hk
  rw [longestRun] at hn
  rw [runsOf]
  split at hn
  · rename_i hzero
    rw [if_pos hzero]
    split
    · exact hlength (Nat.zero_le _) n
    · exact List.forall_mem_singleton.mpr ⟨by omega, hn⟩
  · rename_i hzero
    rw [if_neg hzero]
    split at hn
    · rename_i hsame
      rw [if_pos hsame]
      split
      · exact hlength hl n
      · exact List.forall_mem_singleton.mpr ⟨by omega, hn⟩
    · rename_i hsame
      rw [if_neg hsame]
      split
      · exact hlength hl n
      · exact List.forall_mem_cons.mpr ⟨hl, List.forall_mem_singleton.mpr ⟨by omega, by omega⟩⟩

theorem isWritable_runs {last : Option Nat} {ls : List Nat} (hls : ∀ l ∈ ls, l ≤ longestWord) :
    ∀ r ∈ runs last ls, r.IsWritable := by
  fun_induction runs last ls with
  | case1 last => exact fun r hr => absurd hr List.not_mem_nil
  | case2 last l ls n ih =>
    obtain ⟨hl, hrest⟩ := List.forall_mem_cons.mp hls
    intro r hr
    rcases List.mem_append.mp hr with hfirst | hlater
    · exact isWritable_runsOf hl (Nat.min_le_left _ _) r hfirst
    · exact ih (fun k hk => hrest k (List.mem_of_mem_drop hk)) r hlater

/-! ### Reading parts -/

/-- A part has one of the symbols of the third alphabet. -/
theorem Run.symbol_lt {r : Run} (hr : r.IsWritable) : r.spelled.symbol < lengthOrder.length := by
  have hall : lengthOrder.length = 19 := rfl
  rw [hall]
  cases r with
  | length l => exact Nat.lt_of_le_of_lt hr (by decide)
  | again n => exact (by decide : 16 < 19)
  | zeros n =>
    rw [Run.spelled]
    split
    · exact (by decide : 17 < 19)
    · exact (by decide : 18 < 19)

variable {c : Code}

/-- **A part is read from its symbol** and the bits after it. -/
theorem reads_run (hc : c.isPrefixFree = true) {r : Run} (hr : r.IsWritable) (hword : c.word r.spelled.symbol ≠ []) :
    Reads (readRun c) (r.spelled.bitsIn c) r := by
  cases r with
  | length l =>
    have hlength : l ≤ longestWord := hr
    have hread : Reads (readSymbol c) (c.word l) l := reads_symbol hc hword
    refine hread.bind ?_
    rw [if_pos hlength]
    exact reads_pure _
  | again n =>
    obtain ⟨hleast, hmost⟩ := hr
    have hread : Reads (readSymbol c) (c.word 16) 16 := reads_symbol hc hword
    have hnumber : n - 3 < 2 ^ 2 := by omega
    have hback := (reads_number hnumber).map fun k => Run.again (3 + k)
    rw [Nat.add_sub_cancel' hleast] at hback
    refine hread.bind ?_
    rw [if_neg (by decide), if_pos rfl]
    exact hback
  | zeros n =>
    obtain ⟨hleast, hmost⟩ := hr
    by_cases hfew : n ≤ 10
    · have hspelled : (Run.zeros n).spelled = ⟨17, 3, n - 3⟩ := if_pos hfew
      rw [hspelled] at hword ⊢
      have hread : Reads (readSymbol c) (c.word 17) 17 := reads_symbol hc hword
      have hnumber : n - 3 < 2 ^ 3 := by omega
      have hback := (reads_number hnumber).map fun k => Run.zeros (3 + k)
      rw [Nat.add_sub_cancel' hleast] at hback
      refine hread.bind ?_
      rw [if_neg (by decide), if_neg (by decide), if_pos rfl]
      exact hback
    · have hspelled : (Run.zeros n).spelled = ⟨18, 7, n - 11⟩ := if_neg hfew
      rw [hspelled] at hword ⊢
      have hread : Reads (readSymbol c) (c.word 18) 18 := reads_symbol hc hword
      have hnumber : n - 11 < 2 ^ 7 := by omega
      have hback := (reads_number hnumber).map fun k => Run.zeros (11 + k)
      rw [Nat.add_sub_cancel' (by omega)] at hback
      refine hread.bind ?_
      rw [if_neg (by decide), if_neg (by decide), if_neg (by decide)]
      exact hback

/-- **Lengths are read from their parts.** -/
theorem reads_lengths (hc : c.isPrefixFree = true) {before ls : List Nat} {rs : List Run} (h : Stands before rs ls)
    (hrs : ∀ r ∈ rs, r.IsWritable ∧ c.word r.spelled.symbol ≠ []) :
    Reads (readLengths c before ls.length) (rs.flatMap fun r => r.spelled.bitsIn c) (before ++ ls) := by
  induction h with
  | none before =>
    rw [readLengths, List.append_nil]
    exact reads_pure before
  | part hr hrest ih =>
    rename_i before r l ls ls' rs
    obtain ⟨⟨hwritable, hword⟩, hrs⟩ := List.forall_mem_cons.mp hrs
    have hsome : (l :: ls ++ ls').length ≠ 0 := Nat.succ_ne_zero _
    rw [readLengths, if_neg hsome]
    refine (reads_run hc hwritable hword).bind ?_
    have hfew : ls.length < (l :: ls ++ ls').length := by
      rw [List.length_append, List.length_cons]
      omega
    have hmissing : (l :: ls ++ ls').length - (ls.length + 1) = ls'.length := by
      rw [List.length_append, List.length_cons, Nat.add_sub_cancel_left]
    rw [hr]
    dsimp only
    rw [if_pos hfew, hmissing, ← List.append_assoc]
    exact ih hrs

end Landscape.Deflate
