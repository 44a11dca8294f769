import Landscape.Deflate.Search
import Landscape.Proofs.Deflate.Symbol

/-!
# The tokens of some data tell these data

A token is told of a place in the data: a byte is the byte there, and a copy repeats what lies its distance back, which
is never before the beginning of the data (`Landscape.Deflate.Tells`). The search goes back along chains of places,
each earlier than the last (`Landscape.Deflate.IsBack`), and what it answers is either an occurrence that it has
measured or no longer than what was there before (`Landscape.Deflate.find_spec`). The latter is not an occurrence at
this place at all; it does no harm, since something that is no longer is not used. So the tokens tell the whole data
(`Landscape.Deflate.tells_tokens`).
-/

namespace Landscape.Deflate

variable {data : Array UInt8}

/-! ### What tokens tell -/

/-- **Tokens that tell the data** from one place up to another. -/
inductive Tells (data : Array UInt8) : Nat → List Token → Nat → Prop
  | done (i : Nat) : Tells data i [] i
  | byte {i j : Nat} {ts : List Token} (hi : i < data.size) (hrest : Tells data (i + 1) ts j) :
    Tells data i (.byte (data.getD i 0) :: ts) j
  | copy {i j length distance : Nat} {ts : List Token} (hwritable : (Token.copy length distance).IsWritable)
    (hback : distance ≤ i) (hend : i + length ≤ data.size)
    (hsame : ∀ k < length, data.getD (i + k) 0 = data.getD (i + k - distance) 0)
    (hrest : Tells data (i + length) ts j) : Tells data i (.copy length distance :: ts) j

/-! ### Chains -/

/-- Links that lead back. -/
def IsBack (links : Array (Option Nat)) : Prop :=
  ∀ m k, links.getD m none = some k → k < m

theorem isBack_linksFrom {heads links : Array (Option Nat)} {i : Nat} (hsize : links.size = i)
    (hlinks : IsBack links) (hheads : ∀ q k, heads.getD q none = some k → k < i) :
    IsBack (linksFrom data heads links i) := by
  fun_induction linksFrom data heads links i with
  | case1 heads links i hi q links' ih =>
    refine ih (by simp [links', hsize]) ?_ ?_
    · -- the new link leads to the last place with this key, and all these are earlier
      intro m k hk
      rcases Nat.lt_trichotomy m links.size with hlt | heq | hgt
      · refine hlinks m k ?_
        simpa [links', Array.getD_eq_getD_getElem?, Array.getElem?_push, Nat.ne_of_lt hlt] using hk
      · rw [heq, hsize]
        refine hheads q k ?_
        simpa [links', Array.getD_eq_getD_getElem?, heq] using hk
      · simp [links', Array.getD_eq_getD_getElem?, Array.getElem?_push, Nat.ne_of_gt hgt,
          Array.getElem?_eq_none (Nat.le_of_lt hgt)] at hk
    · intro p k hk
      rw [Array.getD_eq_getD_getElem?, Array.getElem?_setIfInBounds] at hk
      split at hk
      · split at hk
        · simp at hk
          omega
        · simp at hk
      · exact Nat.lt_succ_of_lt (hheads p k (by rw [Array.getD_eq_getD_getElem?]; exact hk))
  | case2 heads links i hi => exact hlinks

theorem isBack_links (data : Array UInt8) : IsBack (links data) := by
  refine isBack_linksFrom rfl (fun m k hk => ?_) fun q k hk => ?_
  · simp [Array.getD_eq_getD_getElem?] at hk
  · rw [Array.getD_eq_getD_getElem?, Array.getElem?_replicate] at hk
    split at hk <;> simp at hk

/-! ### Occurrences -/

theorem agreement_le (data : Array UInt8) (i j n : Nat) : agreement data i j n ≤ n := by
  induction n generalizing i j with
  | zero => exact Nat.le_refl 0
  | succ n ih =>
    rw [agreement]
    split
    · exact Nat.succ_le_succ (ih _ _)
    · exact Nat.zero_le _

theorem getD_eq_of_lt_agreement {i j n k : Nat} (hk : k < agreement data i j n) :
    data.getD (i + k) 0 = data.getD (j + k) 0 := by
  induction n generalizing i j k with
  | zero => exact absurd hk (Nat.not_lt_zero k)
  | succ n ih =>
    rw [agreement] at hk
    split at hk
    · rename_i hsame
      cases k with
      | zero => exact eq_of_beq hsame
      | succ k =>
        have hrest := ih (Nat.lt_of_succ_lt_succ hk)
        rwa [Nat.add_right_comm, Nat.add_right_comm j] at hrest
    · exact absurd hk (Nat.not_lt_zero k)

/-- What was found is an earlier occurrence of what comes at a place. -/
structure Found.IsAt (data : Array UInt8) (i : Nat) (f : Found) : Prop where
  earlier : f.place < i
  near : i - f.place ≤ farthestCopy
  short : f.length ≤ longestCopy
  inside : i + f.length ≤ data.size
  same : ∀ k < f.length, data.getD (i + k) 0 = data.getD (f.place + k) 0

/-- **What a search answers**: what was there before, or an occurrence that is longer. -/
theorem search_spec {links : Array (Option Nat)} (hlinks : IsBack links) {i : Nat} (hi : i < data.size)
    (n : Nat) {j : Nat} (hj : j < i) (hnear : i - j ≤ farthestCopy) (best : Found) :
    search data links i (data.size - i) (i - farthestCopy) n j best = best ∨
      (search data links i (data.size - i) (i - farthestCopy) n j best).IsAt data i := by
  induction n generalizing j best with
  | zero => exact .inl rfl
  | succ n ih =>
    rw [search]
    generalize hlength : agreement data i j (min longestCopy (data.size - i)) = length
    have hle := agreement_le data i j (min longestCopy (data.size - i))
    rw [hlength] at hle
    -- whatever was measured here is an occurrence
    have hhere : Found.IsAt data i ⟨length, j⟩ :=
      ⟨hj, hnear, by dsimp only; omega, by dsimp only; omega,
        fun k hk => getD_eq_of_lt_agreement (hlength ▸ hk)⟩
    generalize hbest : (if best.length < length then (⟨length, j⟩ : Found) else best) = best'
    have hbest' : best' = best ∨ best'.IsAt data i := by
      rw [← hbest]
      split
      · exact .inr hhere
      · exact .inl rfl
    split
    · exact hbest'
    · split
      · rename_i k hk
        have hback := hlinks j k hk
        split
        · rcases ih (j := k) (by omega) (by omega) best' with hsame | hat
          · rwa [hsame]
          · exact .inr hat
        · exact hbest'
      · exact hbest'

/-- **What is found at a place** is too short for a copy, or an earlier occurrence, or no longer than what was found at
the place before. -/
theorem find_spec {links : Array (Option Nat)} (hlinks : IsBack links) {i : Nat} (hi : i < data.size)
    (before : Found) : (find data links i before).length < shortestCopy ∨
      (find data links i before).IsAt data i ∨ (find data links i before).length ≤ before.length := by
  have hnothing : nothing.length < shortestCopy := by decide
  rw [find]
  split
  · exact .inl hnothing
  · rename_i j hj
    dsimp only
    split
    · exact .inl hnothing
    · rename_i hnear
      simp only [Bool.or_eq_true, decide_eq_true_eq, not_or, Nat.not_lt] at hnear
      generalize (if goodLength ≤ before.length then chainLength / 4 else chainLength) = n
      rcases search_spec hlinks hi n (hlinks i j hj) hnear.1.2 before with hsame | hat
      · rw [hsame]
        split
        · exact .inl hnothing
        · exact .inr (.inr (Nat.min_le_left _ _))
      · generalize search data links i (data.size - i) (i - farthestCopy) n j before = f at hat
        have hrest : min f.length (data.size - i) = f.length := by
          have hinside := hat.inside
          omega
        rw [hrest]
        split
        · exact .inl hnothing
        · exact .inr (.inl hat)

/-- What is found at a place is an occurrence if it is long enough and what was found before is not used. -/
theorem isAt_find {links : Array (Option Nat)} (hlinks : IsBack links) {i : Nat} (hi : i < data.size)
    {before : Found} (hlong : shortestCopy ≤ (find data links i before).length)
    (hunused : ¬(decide (shortestCopy ≤ before.length) &&
      decide ((find data links i before).length ≤ before.length)) = true) :
    (find data links i before).IsAt data i := by
  rw [Bool.and_eq_true, decide_eq_true_eq, decide_eq_true_eq, not_and_or] at hunused
  rcases find_spec hlinks hi before with hshort | hat | hle
  · omega
  · exact hat
  · omega

/-! ### Tokens -/

/-- **The tokens from a place on tell the data from there**, or from the place before if the byte there has no token
yet. -/
theorem tells_tokensFrom {links : Array (Option Nat)} (hlinks : IsBack links) {i : Nat} {before : Found}
    {pending : Bool} (hpending : pending = true → 0 < i) (hi : i ≤ data.size)
    (hbefore : shortestCopy ≤ before.length → pending = true ∧ before.IsAt data (i - 1)) :
    Tells data (if pending then i - 1 else i) (tokensFrom data links i before pending) data.size := by
  fun_induction tokensFrom data links i before pending with
  | case1 i before pending hlt here hcopy ih =>
    -- what was found at the place before is used, and reaches from there
    rw [Bool.and_eq_true, decide_eq_true_eq] at hcopy
    obtain ⟨rfl, hat⟩ := hbefore hcopy.1
    have hpos := hpending rfl
    have hthree : shortestCopy = 3 := rfl
    have hnext : i + 1 + (before.length - 2) = i - 1 + before.length := by omega
    obtain ⟨hearlier, hnear, hshort, hinside, hsame⟩ := hat
    rw [if_pos rfl, hnext]
    rw [hnext] at ih
    refine .copy ⟨hcopy.1, hshort, by omega, hnear⟩ (by omega) hinside (fun k hk => ?_)
      (ih (fun h => absurd h (by decide)) hinside fun h => absurd h (by decide))
    have hplace : i - 1 + k - (i - 1 - before.place) = before.place + k := by omega
    rw [hplace]
    exact hsame k hk
  | case2 i before byte hlt here hunused ih =>
    have hpos := hpending rfl
    have hbyte : i - 1 + 1 = i := by omega
    rw [if_pos rfl]
    refine .byte (by omega) ?_
    rw [hbyte]
    exact ih (fun _ => Nat.succ_pos i) hlt fun hlong => ⟨rfl, isAt_find hlinks hlt hlong hunused⟩
  | case3 i before pending hlt here hunused hnot ih =>
    rw [if_neg hnot]
    exact ih (fun _ => Nat.succ_pos i) hlt fun hlong => ⟨rfl, isAt_find hlinks hlt hlong hunused⟩
  | case4 i before byte hge =>
    -- the last byte of all
    have hpos := hpending rfl
    have hend : i - 1 + 1 = data.size := by omega
    rw [if_pos rfl]
    refine .byte (by omega) ?_
    rw [hend]
    exact .done _
  | case5 i before pending hge hnot =>
    have hend : i = data.size := by omega
    rw [if_neg hnot, hend]
    exact .done _

/-- **The tokens of some data tell them all.** -/
theorem tells_tokens (data : Array UInt8) : Tells data 0 (tokens data) data.size := by
  have hpending : false = true → 0 < 0 := by decide
  have hbefore : shortestCopy ≤ nothing.length → false = true ∧ nothing.IsAt data (0 - 1) :=
    fun h => absurd h (by decide)
  exact tells_tokensFrom (isBack_links data) hpending (Nat.zero_le _) hbefore

/-! ### Expanding -/

namespace Tells

variable {i j : Nat} {ts ts' : List Token}

/-- Tokens in two parts tell the data up to a place, and from there. -/
theorem split (h : Tells data i (ts ++ ts') j) : ∃ m, Tells data i ts m ∧ Tells data m ts' j := by
  induction ts generalizing i with
  | nil => exact ⟨i, .done i, h⟩
  | cons t ts ih =>
    cases h with
    | byte hi hrest =>
      obtain ⟨m, hfirst, hsecond⟩ := ih hrest
      exact ⟨m, .byte hi hfirst, hsecond⟩
    | copy hwritable hback hend hsame hrest =>
      obtain ⟨m, hfirst, hsecond⟩ := ih hrest
      exact ⟨m, .copy hwritable hback hend hsame hfirst, hsecond⟩

/-- Tokens tell as many bytes as they stand for. -/
theorem end_eq (h : Tells data i ts j) : j = i + (ts.map Token.size).sum := by
  induction h with
  | done i => rfl
  | byte _ _ ih => rw [ih, List.map_cons, List.sum_cons, Token.size, Nat.add_assoc]
  | copy _ _ _ _ _ ih => rw [ih, List.map_cons, List.sum_cons, Token.size, Nat.add_assoc]

theorem end_le (h : Tells data i ts j) (hi : i ≤ data.size) : j ≤ data.size := by
  induction h with
  | done i => exact hi
  | byte hlt _ ih => exact ih hlt
  | copy _ _ hend _ _ ih => exact ih hend

theorem isWritable (h : Tells data i ts j) : ∀ t ∈ ts, t.IsWritable := by
  induction h with
  | done i => exact fun t ht => absurd ht List.not_mem_nil
  | byte _ _ ih => exact List.forall_mem_cons.mpr ⟨trivial, ih⟩
  | copy hwritable _ _ _ _ ih => exact List.forall_mem_cons.mpr ⟨hwritable, ih⟩

end Tells

/-- The next byte of some data after those before it. -/
theorem push_getD_extract {i : Nat} (hi : i < data.size) :
    (data.extract 0 i).push (data.getD i 0) = data.extract 0 (i + 1) := by
  rw [Array.getD, dif_pos hi]
  exact Array.push_extract_getElem hi

/-- A copy repeats byte by byte what lies its distance back. -/
theorem appendCopy_extract {i length distance : Nat} (hpos : 0 < distance) (hback : distance ≤ i)
    (hend : i + length ≤ data.size)
    (hsame : ∀ k < length, data.getD (i + k) 0 = data.getD (i + k - distance) 0) :
    appendCopy (data.extract 0 i) distance length = data.extract 0 (i + length) := by
  induction length generalizing i with
  | zero => rfl
  | succ n ih =>
    have hsize : (data.extract 0 i).size = i := by
      rw [Array.size_extract]
      omega
    have hlook : (data.extract 0 i).getD (i - distance) 0 = data.getD (i - distance) 0 := by
      have hinside : i - distance < (data.extract 0 i).size := by omega
      rw [Array.getD, dif_pos hinside, Array.getD, dif_pos (by omega), Array.getInternal_eq_getElem,
        Array.getInternal_eq_getElem, Array.getElem_extract]
      simp
    have hbyte := hsame 0 (Nat.succ_pos n)
    rw [Nat.add_zero] at hbyte
    rw [appendCopy, hsize, hlook, ← hbyte, push_getD_extract (by omega), ih (by omega) (by omega) fun k hk => ?_]
    · rw [Nat.add_right_comm, Nat.add_assoc]
    · have hnext := hsame (k + 1) (Nat.succ_lt_succ hk)
      rwa [← Nat.add_assoc, Nat.add_right_comm] at hnext

end Landscape.Deflate
