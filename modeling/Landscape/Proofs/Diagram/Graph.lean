import Landscape.Diagram.Simple
import Mathlib.Data.List.Nodup

/-!
# What the graph of a system holds

A graph takes vertices and edges one by one and keeps each once. So its edges are those that its contracts
join (`Landscape.Model.mem_edges_of_graph`), whatever their order, and its vertices are the
microservices of the system as long as no contract leads outside
(`Landscape.Model.vertices_of_graph`). There is a graph if every contract's interface has a
provider (`Landscape.Model.exists_graph`).

Whatever was added to it, a graph holds nothing twice and its edges join vertices (`Landscape.Graph.Sound`). So listing
the edges by their tails loses none and repeats none (`Landscape.Graph.Sound.edgesByTail_perm`).
-/

namespace Landscape

section AppendNew

variable {α : Type} [DecidableEq α]

theorem mem_appendNew {xs : List α} {x y : α} : x ∈ appendNew xs y ↔ x ∈ xs ∨ x = y := by
  rw [appendNew]
  split
  · rename_i h
    exact ⟨Or.inl, fun hx => hx.elim id fun he => he ▸ h⟩
  · simp

theorem appendNew_of_mem {xs : List α} {x : α} (h : x ∈ xs) : appendNew xs x = xs :=
  if_pos h

theorem appendNew_of_notMem {xs : List α} {x : α} (h : x ∉ xs) : appendNew xs x = xs ++ [x] :=
  if_neg h

theorem nodup_appendNew {xs : List α} (h : xs.Nodup) (x : α) : (appendNew xs x).Nodup := by
  rw [appendNew]
  split
  · exact h
  · rename_i hx
    exact h.append (List.nodup_singleton x) (by simpa using hx)

end AppendNew

namespace Graph

variable {α : Type} [DecidableEq α] {g : Graph α}

theorem mem_edges_addEdge {tail head : α} {e : α × α} :
    e ∈ (g.addEdge tail head).edges ↔ e ∈ g.edges ∨ e = (tail, head) :=
  mem_appendNew

/-- An edge between vertices brings no vertex along. -/
theorem vertices_addEdge_of_mem {tail head : α} (ht : tail ∈ g.vertices) (hh : head ∈ g.vertices) :
    (g.addEdge tail head).vertices = g.vertices := by
  have htail : appendNew g.vertices tail = g.vertices := appendNew_of_mem ht
  have hhead : appendNew g.vertices head = g.vertices := appendNew_of_mem hh
  show appendNew (appendNew g.vertices tail) head = g.vertices
  rw [htail, hhead]

/-- Different vertices are all added, in order. -/
theorem vertices_foldl_addVertex {xs : List α} (h : (g.vertices ++ xs).Nodup) :
    (xs.foldl addVertex g).vertices = g.vertices ++ xs := by
  induction xs generalizing g with
  | nil => simp
  | cons x xs ih =>
    have hx : x ∉ g.vertices := fun hmem => by
      have := (List.nodup_append.mp h).2.2 x hmem x (by simp)
      exact this rfl
    have hv : (g.addVertex x).vertices = g.vertices ++ [x] := appendNew_of_notMem hx
    rw [List.foldl_cons, ih (by rw [hv]; simpa using h), hv]
    simp

/-- Vertices bring no edges along. -/
theorem edges_foldl_addVertex (xs : List α) : (xs.foldl addVertex g).edges = g.edges := by
  induction xs generalizing g with
  | nil => rfl
  | cons x xs ih => exact ih

/-! ### Sound graphs -/

/-- **A sound graph** holds everything once, and its edges join vertices. -/
structure Sound (g : Graph α) : Prop where
  vertices_nodup : g.vertices.Nodup
  edges_nodup : g.edges.Nodup
  ends : ∀ e ∈ g.edges, e.1 ∈ g.vertices ∧ e.2 ∈ g.vertices

omit [DecidableEq α] in
theorem sound_empty : ({} : Graph α).Sound :=
  ⟨List.nodup_nil, List.nodup_nil, nofun⟩

theorem Sound.addVertex (h : g.Sound) (v : α) : (g.addVertex v).Sound where
  vertices_nodup := nodup_appendNew h.vertices_nodup v
  edges_nodup := h.edges_nodup
  ends e he := ⟨mem_appendNew.mpr (.inl (h.ends e he).1), mem_appendNew.mpr (.inl (h.ends e he).2)⟩

theorem Sound.addEdge (h : g.Sound) (tail head : α) : (g.addEdge tail head).Sound where
  vertices_nodup := ((h.addVertex tail).addVertex head).vertices_nodup
  edges_nodup := nodup_appendNew h.edges_nodup _
  ends e he := by
    obtain he | rfl := mem_edges_addEdge.mp he
    · exact ((h.addVertex tail).addVertex head).ends e he
    · exact ⟨mem_appendNew.mpr (.inl (mem_appendNew.mpr (.inr rfl))), mem_appendNew.mpr (.inr rfl)⟩

theorem Sound.foldl_addVertex (h : g.Sound) (xs : List α) : (xs.foldl Graph.addVertex g).Sound := by
  induction xs generalizing g with
  | nil => exact h
  | cons x xs ih => exact ih (h.addVertex x)

/-- **The edges by their tails** are the edges, each once. -/
theorem Sound.edgesByTail_perm (h : g.Sound) : g.edgesByTail.Perm g.edges := by
  have hnodup : g.edgesByTail.Nodup := by
    refine List.nodup_flatMap.mpr ⟨fun v _ => h.edges_nodup.filter _, ?_⟩
    -- an edge has one tail, so edges of different tails differ
    refine h.vertices_nodup.imp fun hne e hv hw => hne ?_
    simp only [List.mem_filter, decide_eq_true_eq] at hv hw
    exact hv.2.symm.trans hw.2
  refine (List.perm_ext_iff_of_nodup hnodup h.edges_nodup).mpr fun e => ?_
  simp only [edgesByTail, List.mem_flatMap, List.mem_filter, decide_eq_true_eq]
  exact ⟨fun ⟨_, _, he, _⟩ => he, fun he => ⟨e.1, (h.ends e he).1, he, rfl⟩⟩

end Graph

namespace Model

variable {m : Model} {s : Ref .system}

/-! ### Adding the contracts -/

/-- **A contract joins** its consumer to the provider of its owner. -/
def Joins (m : Model) (c : Ref .contract) (e : Ref .microservice × Ref .microservice) : Prop :=
  e.1 = (m.contract c).consumer ∧ (m.interface (m.contract c).owner).provider = some e.2

theorem addContracts_cons_of_joins {g : Graph (Ref .microservice)} {c : Ref .contract}
    {cs : List (Ref .contract)} {tail head : Ref .microservice} (h : m.Joins c (tail, head)) :
    m.addContracts g (c :: cs) = m.addContracts (g.addEdge tail head) cs := by
  obtain ⟨rfl, hp⟩ := h
  simp only [addContracts, hp]

/-- If contracts have been added, then each of them has joined something. -/
theorem joins_of_addContracts {g g' : Graph (Ref .microservice)} {c : Ref .contract}
    {cs : List (Ref .contract)} (h : m.addContracts g (c :: cs) = .ok g') :
    ∃ head, m.Joins c ((m.contract c).consumer, head) := by
  cases hp : (m.interface (m.contract c).owner).provider with
  | none => simp only [addContracts, hp] at h; cases h
  | some p => exact ⟨p, rfl, hp⟩

theorem exists_addContracts (g : Graph (Ref .microservice)) {cs : List (Ref .contract)}
    (h : ∀ c ∈ cs, ∃ e, m.Joins c e) : ∃ g', m.addContracts g cs = .ok g' := by
  induction cs generalizing g with
  | nil => exact ⟨g, rfl⟩
  | cons c cs ih =>
    obtain ⟨e, he⟩ := h c (by simp)
    rw [addContracts_cons_of_joins he]
    exact ih _ fun c hc => h c (by simp [hc])

/-- Only contracts that join something are added. -/
theorem exists_joins_of_addContracts {g g' : Graph (Ref .microservice)} {cs : List (Ref .contract)}
    (h : m.addContracts g cs = .ok g') : ∀ c ∈ cs, ∃ e, m.Joins c e := by
  induction cs generalizing g with
  | nil => simp
  | cons c cs ih =>
    obtain ⟨head, hj⟩ := joins_of_addContracts h
    rw [addContracts_cons_of_joins hj] at h
    exact List.forall_mem_cons.mpr ⟨⟨_, hj⟩, ih h⟩

theorem mem_edges_addContracts {g g' : Graph (Ref .microservice)} {cs : List (Ref .contract)}
    (h : m.addContracts g cs = .ok g') (e : Ref .microservice × Ref .microservice) :
    e ∈ g'.edges ↔ e ∈ g.edges ∨ ∃ c ∈ cs, m.Joins c e := by
  induction cs generalizing g with
  | nil =>
    cases h
    simp
  | cons c cs ih =>
    obtain ⟨head, hj⟩ := joins_of_addContracts h
    rw [addContracts_cons_of_joins hj] at h
    have hc : e = ((m.contract c).consumer, head) ↔ m.Joins c e := by
      obtain ⟨e₁, e₂⟩ := e
      rw [Joins, hj.2]
      simp [eq_comm]
    rw [ih h, Graph.mem_edges_addEdge, or_assoc, hc]
    simp

theorem vertices_addContracts {g g' : Graph (Ref .microservice)} {cs : List (Ref .contract)}
    (h : m.addContracts g cs = .ok g')
    (hin : ∀ c ∈ cs, ∀ e, m.Joins c e → e.1 ∈ g.vertices ∧ e.2 ∈ g.vertices) :
    g'.vertices = g.vertices := by
  induction cs generalizing g with
  | nil =>
    cases h
    rfl
  | cons c cs ih =>
    obtain ⟨head, hj⟩ := joins_of_addContracts h
    rw [addContracts_cons_of_joins hj] at h
    obtain ⟨htail, hhead⟩ := hin c (by simp) _ hj
    have hv := Graph.vertices_addEdge_of_mem htail hhead
    rw [ih h (by rw [hv]; exact fun c hc => hin c (by simp [hc])), hv]

theorem sound_addContracts {g g' : Graph (Ref .microservice)} {cs : List (Ref .contract)}
    (h : m.addContracts g cs = .ok g') (hg : g.Sound) : g'.Sound := by
  induction cs generalizing g with
  | nil =>
    cases h
    exact hg
  | cons c cs ih =>
    obtain ⟨head, hj⟩ := joins_of_addContracts h
    rw [addContracts_cons_of_joins hj] at h
    exact ih h (hg.addEdge _ _)

/-! ### The graph of a system -/

/-- **There is a graph** if each contract joins something. -/
theorem exists_graph (h : ∀ c ∈ (m.system s).contracts, ∃ e, m.Joins c e) :
    ∃ g, m.graph s = .ok g :=
  exists_addContracts _ h

/-- There is none otherwise. -/
theorem exists_joins_of_graph {g : Graph (Ref .microservice)} (h : m.graph s = .ok g) :
    ∀ c ∈ (m.system s).contracts, ∃ e, m.Joins c e :=
  exists_joins_of_addContracts h

/-- **The graph is sound.** -/
theorem sound_of_graph {g : Graph (Ref .microservice)} (h : m.graph s = .ok g) : g.Sound :=
  sound_addContracts h (Graph.sound_empty.foldl_addVertex _)

/-- **The edges** are what the contracts join. -/
theorem mem_edges_of_graph {g : Graph (Ref .microservice)} (h : m.graph s = .ok g)
    (e : Ref .microservice × Ref .microservice) :
    e ∈ g.edges ↔ ∃ c ∈ (m.system s).contracts, m.Joins c e := by
  rw [mem_edges_addContracts h, Graph.edges_foldl_addVertex]
  simp

/-- **The vertices** are the microservices of the system, if these are different and no contract leads outside. -/
theorem vertices_of_graph {g : Graph (Ref .microservice)} (h : m.graph s = .ok g)
    (hnodup : (m.system s).microservices.Nodup)
    (hin : ∀ c ∈ (m.system s).contracts, ∀ e, m.Joins c e →
      e.1 ∈ (m.system s).microservices ∧ e.2 ∈ (m.system s).microservices) :
    g.vertices = (m.system s).microservices := by
  have hv : ((m.system s).microservices.foldl Graph.addVertex
      ({} : Graph (Ref .microservice))).vertices = (m.system s).microservices :=
    Graph.vertices_foldl_addVertex (g := {}) hnodup
  rw [vertices_addContracts h (by rw [hv]; exact hin), hv]

end Model

end Landscape
