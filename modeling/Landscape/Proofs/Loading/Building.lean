import Landscape.Document
import Landscape.Proofs.Failing
import Mathlib.Data.List.Forall2
import Mathlib.Data.List.Nodup

/-!
# Steps of building, taken apart

A landscape is built by steps that change a draft or find a fault. This file says what it means for such a
step to succeed: a step made of two succeeds if both do, one after the other
(`Landscape.Build.bind_eq_ok`), and what a loop leaves is found by an invariant that speaks of
the items that are done (`Landscape.Build.forIn_invariant`). That it succeeds at all is found item by item
(`Landscape.Build.succeeds_forIn`). What every step does to a draft is passed on to the whole
(`Landscape.Build.Leaves`), and so is that no step fails in some way (`Landscape.Build.Never`).

Building only ever adds rows at the ends of tables, so what it leaves is described by the rows that
are new (`Landscape.Table.extend`), and the things that are new are numbered in a row
(`Landscape.Ref.block`).
-/

namespace Landscape

/-! ### Success of a step -/

namespace Build

variable {α β : Type} {d e : Draft}

/-- **Two steps succeed** if the first does and then the second. -/
theorem bind_eq_ok {act : Build α} {next : α → Build β} {b : β} :
    (act >>= next) d = .ok (b, e) ↔ ∃ a c, act d = .ok (a, c) ∧ next a c = .ok (b, e) := by
  simp only [bind, StateT.bind, Except.bind]
  constructor
  · intro h
    split at h
    · cases h
    · exact ⟨_, _, ‹_›, h⟩
  · rintro ⟨a, c, h, h'⟩
    rw [h]
    exact h'

theorem pure_eq_ok {a b : α} : (pure a : Build α) d = .ok (b, e) ↔ a = b ∧ d = e := by
  constructor
  · rintro ⟨⟩
    exact ⟨rfl, rfl⟩
  · rintro ⟨rfl, rfl⟩
    rfl

/-- A reading that may fail changes nothing. -/
theorem lift_eq_ok {r : Except DocumentFault α} {a : α} :
    (liftM r : Build α) d = .ok (a, e) ↔ r = .ok a ∧ d = e := by
  cases r with
  | error f => exact ⟨fun h => (nomatch h), fun h => nomatch h.1⟩
  | ok b =>
    constructor
    · rintro ⟨⟩
      exact ⟨rfl, rfl⟩
    · rintro ⟨⟨⟩, rfl⟩
      rfl

theorem adding_eq_ok {f : Model → α × Model} {a : α} :
    adding f d = .ok (a, e) ↔ a = (f d.model).1 ∧ e = { d with model := (f d.model).2 } := by
  constructor
  · rintro ⟨⟩
    exact ⟨rfl, rfl⟩
  · rintro ⟨rfl, rfl⟩
    rfl

theorem changing_eq_ok {f : Model → Model} {u : Unit} :
    changing f d = .ok (u, e) ↔ e = { d with model := f d.model } := by
  constructor
  · rintro ⟨⟩
    rfl
  · rintro rfl
    rfl

/-- **What a loop leaves.** An invariant of the items done and the draft so far, kept by each round,
holds of all items at the end. -/
theorem forIn_invariant {xs : List α} {round : α → PUnit → Build (ForInStep PUnit)} {u : PUnit}
    (P : List α → Draft → Prop) (start : P [] d)
    (keep : ∀ done x c y c', P done c → round x ⟨⟩ c = .ok (y, c') →
      y = .yield ⟨⟩ ∧ P (done ++ [x]) c')
    (h : (forIn xs ⟨⟩ round : Build PUnit) d = .ok (u, e)) : P xs e := by
  -- the items done already stand in front of those to come
  have aux : ∀ (todo done : List α) (c : Draft), P done c →
      (forIn todo ⟨⟩ round : Build PUnit) c = .ok (u, e) → P (done ++ todo) e := by
    intro todo
    induction todo with
    | nil =>
      intro done c hc h
      obtain ⟨-, rfl⟩ := pure_eq_ok.mp h
      simpa using hc
    | cons x todo ih =>
      intro done c hc h
      rw [List.forIn_cons, bind_eq_ok] at h
      obtain ⟨y, c', hround, hrest⟩ := h
      obtain ⟨rfl, hc'⟩ := keep done x c y c' hc hround
      simpa using ih (done ++ [x]) c' hc' hrest
  exact aux xs [] d start h

/-- **What building some items leaves**, by an invariant of the items done, what was built of them, and the draft so
far. -/
theorem mapM_invariant {f : α → Build β} {xs : List α} {ys : List β}
    (P : List α → List β → Draft → Prop) (start : P [] [] d)
    (keep : ∀ done built x y c c', P done built c → f x c = .ok (y, c') → P (done ++ [x]) (built ++ [y]) c')
    (h : xs.mapM f d = .ok (ys, e)) : P xs ys e := by
  have aux : ∀ (todo done : List α) (built rest : List β) (c : Draft), P done built c →
      todo.mapM f c = .ok (rest, e) → P (done ++ todo) (built ++ rest) e := by
    intro todo
    induction todo with
    | nil =>
      intro done built rest c hc h
      obtain ⟨rfl, rfl⟩ := pure_eq_ok.mp h
      simpa using hc
    | cons x todo ih =>
      intro done built rest c hc h
      rw [List.mapM_cons, bind_eq_ok] at h
      obtain ⟨y, c', hx, h⟩ := h
      obtain ⟨rest', e', hrest, h⟩ := bind_eq_ok.mp h
      obtain ⟨rfl, rfl⟩ := pure_eq_ok.mp h
      simpa using ih (done ++ [x]) (built ++ [y]) rest' c' (keep done built x y c c' hc hx) hrest
  exact aux xs [] [] ys d start h

end Build

/-! ### Steps that leave something alone -/

namespace Build

variable {τ α β : Type} {f : Draft → τ}

/-- **A step leaves alone** what can be read of a draft, if it succeeds. -/
def Leaves (f : Draft → τ) (act : Build α) : Prop :=
  ∀ d a e, act d = .ok (a, e) → f e = f d

theorem leaves_pure (a : α) : Leaves f (pure a : Build α) := by
  intro d b e h
  rw [(pure_eq_ok.mp h).2]

theorem leaves_lift (r : Except DocumentFault α) : Leaves f (liftM r : Build α) := by
  intro d a e h
  rw [(lift_eq_ok.mp h).2]

theorem leaves_adding {g : Model → α × Model} (hg : ∀ d : Draft, f { d with model := (g d.model).2 } = f d) :
    Leaves f (adding g) := by
  intro d a e h
  rw [(adding_eq_ok.mp h).2]
  exact hg d

theorem leaves_changing {g : Model → Model} (hg : ∀ d : Draft, f { d with model := g d.model } = f d) :
    Leaves f (changing g) := by
  intro d u e h
  rw [changing_eq_ok.mp h]
  exact hg d

theorem Leaves.bind {act : Build α} {next : α → Build β} (h : Leaves f act) (hn : ∀ a, Leaves f (next a)) :
    Leaves f (act >>= next) := by
  intro d b e hb
  obtain ⟨a, c, ha, hc⟩ := bind_eq_ok.mp hb
  exact (hn a c b e hc).trans (h d a c ha)

theorem Leaves.mapM {g : α → Build β} (hg : ∀ a, Leaves f (g a)) (xs : List α) : Leaves f (xs.mapM g) := by
  intro d ys e h
  exact mapM_invariant (fun _ _ c => f c = f d) rfl
    (fun done built x y c c' hc hx => (hg x c y c' hx).trans hc) h

/-- A loop leaves alone what each of its rounds does. -/
theorem Leaves.forIn {round : α → PUnit → Build (ForInStep PUnit)} (hround : ∀ x u, Leaves f (round x u))
    (xs : List α) : Leaves f (forIn xs ⟨⟩ round : Build PUnit) := by
  induction xs with
  | nil => exact leaves_pure _
  | cons x xs ih =>
    rw [List.forIn_cons]
    refine (hround x ⟨⟩).bind fun y => ?_
    cases y with
    | done _ => exact leaves_pure _
    | yield _ => exact ih

end Build

/-! ### Steps that succeed -/

namespace Build

variable {α β : Type} {d : Draft}

/-- A step succeeds on a draft. -/
def Succeeds (act : Build α) (d : Draft) : Prop :=
  ∃ a e, act d = .ok (a, e)

theorem succeeds_bind {act : Build α} {next : α → Build β} :
    (act >>= next).Succeeds d ↔ ∃ a e, act d = .ok (a, e) ∧ (next a).Succeeds e := by
  constructor
  · rintro ⟨b, e, h⟩
    obtain ⟨a, c, ha, hb⟩ := bind_eq_ok.mp h
    exact ⟨a, c, ha, b, e, hb⟩
  · rintro ⟨a, c, ha, b, e, hb⟩
    exact ⟨b, e, bind_eq_ok.mpr ⟨a, c, ha, hb⟩⟩

theorem succeeds_pure (a : α) : (pure a : Build α).Succeeds d :=
  ⟨a, d, rfl⟩

theorem succeeds_adding (f : Model → α × Model) : (adding f).Succeeds d :=
  ⟨_, _, rfl⟩

/-- Whether the rest succeeds may be no matter of what was done first. -/
theorem succeeds_bind_of_iff {act : Build α} {next : α → Build β} {p : Prop}
    (h : ∀ a e, (next a).Succeeds e ↔ p) : (act >>= next).Succeeds d ↔ act.Succeeds d ∧ p := by
  simp only [succeeds_bind, h]
  exact ⟨fun ⟨a, e, ha, hp⟩ => ⟨⟨a, e, ha⟩, hp⟩, fun ⟨⟨a, e, ha⟩, hp⟩ => ⟨a, e, ha, hp⟩⟩

/-- Nothing more can go wrong. -/
theorem succeeds_bind_of_forall {act : Build α} {next : α → Build β} (h : ∀ a e, (next a).Succeeds e) :
    (act >>= next).Succeeds d ↔ act.Succeeds d :=
  (succeeds_bind_of_iff fun a e => iff_true_intro (h a e)).trans (and_iff_left trivial)

theorem succeeds_lift_bind {r : Except DocumentFault α} {next : α → Build β} :
    ((liftM r : Build α) >>= next).Succeeds d ↔ ∃ a, r = .ok a ∧ (next a).Succeeds d := by
  simp only [succeeds_bind, lift_eq_ok]
  exact ⟨fun ⟨a, _, ⟨ha, rfl⟩, h⟩ => ⟨a, ha, h⟩, fun ⟨a, ha, h⟩ => ⟨a, _, ⟨ha, rfl⟩, h⟩⟩

/-- **Building some items succeeds** if it does for each of them, which is no matter of the draft. -/
theorem succeeds_mapM {f : α → Build β} {p : α → Prop} (hf : ∀ x d, (f x).Succeeds d ↔ p x) (xs : List α) :
    (xs.mapM f).Succeeds d ↔ ∀ x ∈ xs, p x := by
  induction xs generalizing d with
  | nil => exact iff_of_true (succeeds_pure []) (by simp)
  | cons x xs ih =>
    rw [List.mapM_cons, List.forall_mem_cons, ← hf x d]
    exact succeeds_bind_of_iff fun y e => (succeeds_bind_of_forall fun ys _ => succeeds_pure (y :: ys)).trans ih

/-- **A loop succeeds** if each round does, which is no matter of the draft as long as an invariant holds. -/
theorem succeeds_forIn {xs : List α} {round : α → PUnit → Build (ForInStep PUnit)} {p : α → Prop}
    (P : Draft → Prop) (start : P d) (hround : ∀ x c, P c → ((round x ⟨⟩).Succeeds c ↔ p x))
    (keep : ∀ x c y c', P c → round x ⟨⟩ c = .ok (y, c') → y = .yield ⟨⟩ ∧ P c') :
    (forIn xs ⟨⟩ round : Build PUnit).Succeeds d ↔ ∀ x ∈ xs, p x := by
  induction xs generalizing d with
  | nil => exact iff_of_true (succeeds_pure _) (by simp)
  | cons x xs ih =>
    rw [List.forIn_cons, succeeds_bind, List.forall_mem_cons, ← hround x d start]
    constructor
    · rintro ⟨y, c, hy, h⟩
      obtain ⟨rfl, hc⟩ := keep x d y c start hy
      exact ⟨⟨_, c, hy⟩, (ih hc).mp h⟩
    · rintro ⟨⟨y, c, hy⟩, h⟩
      obtain ⟨rfl, hc⟩ := keep x d y c start hy
      exact ⟨_, c, hy, (ih hc).mpr h⟩

end Build

/-! ### Steps that fail in some way -/

namespace Build

variable {α β : Type} {p : DocumentFault → Prop} {d : Draft}

theorem fails_bind {act : Build α} {next : α → Build β} : Fails p ((act >>= next) d) ↔
    Fails p (act d) ∨ ∃ a e, act d = .ok (a, e) ∧ Fails p (next a e) := by
  refine Landscape.fails_bind.trans (or_congr_right ?_)
  constructor
  · rintro ⟨⟨a, e⟩, h⟩
    exact ⟨a, e, h⟩
  · rintro ⟨a, e, h⟩
    exact ⟨(a, e), h⟩

theorem fails_lift {r : Except DocumentFault α} : Fails p ((liftM r : Build α) d) ↔ Fails p r := by
  cases r with
  | error f => exact (fails_error f).trans (fails_error f).symm
  | ok a => exact iff_of_false (not_fails_ok _) (not_fails_ok _)

theorem fails_lift_bind {r : Except DocumentFault α} {next : α → Build β} :
    Fails p (((liftM r : Build α) >>= next) d) ↔ Fails p r ∨ ∃ a, r = .ok a ∧ Fails p (next a d) := by
  rw [fails_bind, fails_lift]
  simp only [lift_eq_ok]
  refine or_congr_right ?_
  constructor
  · rintro ⟨a, _, ⟨ha, rfl⟩, h⟩
    exact ⟨a, ha, h⟩
  · rintro ⟨a, ha, h⟩
    exact ⟨a, d, ⟨ha, rfl⟩, h⟩

/-- A step that **never fails in some way**. -/
def Never (p : DocumentFault → Prop) (act : Build α) : Prop :=
  ∀ d, ¬Fails p (act d)

theorem never_pure (a : α) : Never p (pure a : Build α) :=
  fun _ => not_fails_ok _

theorem never_adding (f : Model → α × Model) : Never p (adding f) :=
  fun _ => not_fails_ok _

theorem never_changing (f : Model → Model) : Never p (changing f) :=
  fun _ => not_fails_ok _

theorem never_lift {r : Except DocumentFault α} (h : ¬Fails p r) : Never p (liftM r : Build α) :=
  fun _ hr => h (fails_lift.mp hr)

theorem Never.bind {act : Build α} {next : α → Build β} (h : Never p act) (hn : ∀ a, Never p (next a)) :
    Never p (act >>= next) := by
  intro d hd
  rcases fails_bind.mp hd with ha | ⟨a, e, -, hb⟩
  · exact h d ha
  · exact hn a e hb

/-- A step fails as its first part does if the rest never does. -/
theorem fails_bind_of_never {act : Build α} {next : α → Build β} (h : ∀ a, Never p (next a)) :
    Fails p ((act >>= next) d) ↔ Fails p (act d) := by
  rw [fails_bind]
  exact or_iff_left fun ⟨a, e, _, ha⟩ => h a e ha

theorem Never.mapM {f : α → Build β} (hf : ∀ a, Never p (f a)) (xs : List α) : Never p (xs.mapM f) := by
  induction xs with
  | nil => exact never_pure []
  | cons x xs ih =>
    rw [List.mapM_cons]
    exact (hf x).bind fun y => ih.bind fun ys => never_pure (y :: ys)

theorem Never.forIn {round : α → PUnit → Build (ForInStep PUnit)} (hround : ∀ x u, Never p (round x u))
    (xs : List α) : Never p (forIn xs ⟨⟩ round : Build PUnit) := by
  induction xs with
  | nil => exact never_pure _
  | cons x xs ih =>
    rw [List.forIn_cons]
    refine (hround x ⟨⟩).bind fun y => ?_
    cases y with
    | done _ => exact never_pure _
    | yield _ => exact ih

end Build

/-! ### Tables with new rows -/

namespace Table

variable {α : Type} (t : Table α)

/-- The table with some more rows. -/
def extend (xs : List α) : Table α :=
  ⟨t.rows ++ xs⟩

@[simp] theorem size_extend (xs : List α) : (t.extend xs).size = t.size + xs.length := by
  simp [extend, size]

@[simp] theorem extend_nil : t.extend [] = t := by
  simp [extend]

theorem add_eq_extend (a : α) : t.add a = t.extend [a] :=
  rfl

@[simp] theorem extend_extend (xs ys : List α) : (t.extend xs).extend ys = t.extend (xs ++ ys) := by
  simp [extend]

variable [Inhabited α]

/-- New rows leave the old ones alone. -/
theorem get_extend_of_lt (xs : List α) {i : Nat} (h : i < t.size) : (t.extend xs).get i = t.get i := by
  simp [get, extend, size, List.getD] at h ⊢
  simp [List.getElem?_append_left h]

/-- A number that is new belongs to a row that is new. -/
theorem get_extend_mem {xs : List α} {i : Nat} (h : t.size ≤ i) (h' : i < t.size + xs.length) :
    (t.extend xs).get i ∈ xs := by
  obtain ⟨j, rfl⟩ := Nat.exists_eq_add_of_le h
  have hj : j < xs.length := by omega
  have hget : (t.extend xs).get (t.size + j) = xs[j] := by
    simp [get, extend, size, List.getD, hj]
  rw [hget]
  exact List.getElem_mem hj

/-- A row that is there has the property. -/
def Has (t : Table α) (p : α → Prop) (i : Nat) : Prop :=
  i < t.size ∧ p (t.get i)

theorem Has.extend {t : Table α} {p q : α → Prop} {i : Nat} (h : t.Has p i) (hpq : ∀ a, p a → q a)
    (xs : List α) : (t.extend xs).Has q i := by
  refine ⟨?_, ?_⟩
  · rw [size_extend]
    exact Nat.lt_add_right _ h.1
  · rw [get_extend_of_lt _ _ h.1]
    exact hpq _ h.2

theorem has_add {p : α → Prop} {a : α} (h : p a) : (t.add a).Has p t.size := by
  refine ⟨?_, ?_⟩
  · rw [size_add]
    exact Nat.lt_succ_self _
  · rw [get_add_size]
    exact h

omit [Inhabited α] in
/-- Changing the row that was added last changes what was added. -/
theorem modify_add_size (a : α) (f : α → α) : (t.add a).modify t.size f = t.add (f a) := by
  simp [modify, add, size, List.modify_eq_take_cons_drop]

end Table

/-! ### Numbers in a row -/

namespace Ref

variable {κ : Noun}

/-- The things numbered from `start` on, `count` of them. -/
def block (κ : Noun) (start count : Nat) : List (Ref κ) :=
  (List.range' start count).map Ref.mk

@[simp] theorem block_zero (start : Nat) : block κ start 0 = [] :=
  rfl

/-- The next thing comes at the end. -/
theorem block_succ (start count : Nat) :
    block κ start (count + 1) = block κ start count ++ [⟨start + count⟩] := by
  simp [block, List.range'_1_concat]

/-- Two blocks that meet are one. -/
theorem block_append (start m n : Nat) :
    block κ start m ++ block κ (start + m) n = block κ start (m + n) := by
  rw [block, block, ← List.map_append, List.range'_append_1]
  rfl

@[simp] theorem mem_block {start count : Nat} {r : Ref κ} :
    r ∈ block κ start count ↔ start ≤ r.index ∧ r.index < start + count := by
  cases r
  simp [block]

theorem nodup_block (start count : Nat) : (block κ start count).Nodup := by
  refine (List.nodup_range').map fun i j h => ?_
  cases h
  rfl

variable {α β : Type} [Inhabited α]

/-- **The rows of a block** that numbers new rows are these. -/
theorem map_get_block (t : Table α) (xs : List α) :
    (block κ t.size xs.length).map (fun r => (t.extend xs).get r.index) = xs := by
  refine List.ext_getElem (by simp [block]) fun i hi hi' => ?_
  simp [block, Table.get, Table.extend, Table.size, List.getD, hi']

/-- What holds of new rows, one by one, holds of their numbers. -/
theorem forall₂_block {R : α → β → Prop} (t : Table α) {xs : List α} {ys : List β} (h : List.Forall₂ R xs ys) :
    List.Forall₂ (fun r y => (t.extend xs).Has (R · y) r.index) (block κ t.size xs.length) ys := by
  have hrows : List.Forall₂ (fun (r : Ref κ) y => R ((t.extend xs).get r.index) y) (block κ t.size xs.length) ys := by
    rw [← List.forall₂_map_left_iff, map_get_block]
    exact h
  refine (List.forall₂_and_left _ _).mpr ⟨fun r hr => ?_, hrows⟩
  rw [Table.size_extend]
  exact (mem_block.mp hr).2

end Ref

end Landscape
