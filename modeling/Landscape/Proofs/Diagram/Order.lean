import Landscape.Proofs.Loading.Closed
import Mathlib.Data.List.Induction

/-!
# The order of a graph and of its text

A graph takes what it does not have yet and puts it at the end. So the order in which it lists things is that
of their first mention: a graph to which vertices and edges were added in any order is determined by the list of
what was mentioned, repeats included, and it keeps the first of each (`Landscape.Graph.mentioning`).

Building the graph of a system mentions its microservices first, and then, contract by contract, the consumer, the
provider and the edge between them (`Landscape.Model.graph_eq`). Nothing is asked of the contracts but that
each interface has a provider; their ends may lie anywhere, be one microservice, or repeat an earlier pair. A text
lists the edges by their tails, which does not disturb the order among edges of one tail, since taking some
members of a list and dropping repeats can be done in either order (`Landscape.filter_eraseDups`).
-/

namespace Landscape

section EraseDups

variable {α : Type} [DecidableEq α] [BEq α] [LawfulBEq α]

/-- Adding what is not there yet is adding it and dropping repeats. -/
theorem appendNew_eraseDups (xs : List α) (x : α) : appendNew xs.eraseDups x = (xs ++ [x]).eraseDups := by
  rw [List.eraseDups_append]
  by_cases hx : x ∈ xs
  · rw [appendNew_of_mem (List.mem_eraseDups.mpr hx)]
    simp [List.removeAll, hx]
  · rw [appendNew_of_notMem (mt List.mem_eraseDups.mp hx)]
    simp [List.removeAll, hx, List.eraseDups_cons]

/-- It does not matter whether repeats are dropped before or after some members are chosen. -/
theorem filter_eraseDups (p : α → Bool) (xs : List α) : xs.eraseDups.filter p = (xs.filter p).eraseDups := by
  induction xs using List.reverseRecOn with
  | nil => rfl
  | append_singleton xs x ih =>
    rw [← appendNew_eraseDups]
    cases hp : p x with
    | false =>
      have hlast : (appendNew xs.eraseDups x).filter p = xs.eraseDups.filter p := by
        rw [appendNew]
        split <;> simp [hp]
      rw [hlast, ih]
      simp [hp]
    | true =>
      have hlast : (appendNew xs.eraseDups x).filter p = appendNew (xs.eraseDups.filter p) x := by
        rw [appendNew, appendNew]
        by_cases hx : x ∈ xs <;> simp [hp, hx]
      rw [hlast, ih, appendNew_eraseDups]
      simp [hp]

end EraseDups

namespace Graph

variable {α : Type} [DecidableEq α]

/-- **The graph that is left of what was mentioned**: each vertex and each edge once, where it was mentioned first. -/
def mentioning (vs : List α) (es : List (α × α)) : Graph α where
  vertices := vs.eraseDups
  edges := es.eraseDups

theorem addVertex_mentioning (vs : List α) (es : List (α × α)) (v : α) :
    (mentioning vs es).addVertex v = mentioning (vs ++ [v]) es := by
  simp only [mentioning, addVertex, appendNew_eraseDups]

/-- An edge is mentioned after its ends. -/
theorem addEdge_mentioning (vs : List α) (es : List (α × α)) (tail head : α) :
    (mentioning vs es).addEdge tail head = mentioning (vs ++ [tail, head]) (es ++ [(tail, head)]) := by
  rw [addEdge, addVertex_mentioning, addVertex_mentioning]
  simp [mentioning, appendNew_eraseDups]

theorem foldl_addVertex_mentioning (vs xs : List α) (es : List (α × α)) :
    xs.foldl addVertex (mentioning vs es) = mentioning (vs ++ xs) es := by
  induction xs generalizing vs with
  | nil => simp
  | cons x xs ih => rw [List.foldl_cons, addVertex_mentioning, ih, List.append_assoc, List.singleton_append]

/-- Within a tail, the edges stand in the order of their first mention. -/
theorem edgesByTail_mentioning (vs : List α) (es : List (α × α)) :
    (mentioning vs es).edgesByTail = vs.eraseDups.flatMap fun v => (es.filter (·.1 = v)).eraseDups := by
  simp only [edgesByTail, mentioning, filter_eraseDups]

end Graph

namespace Model

variable {m : Model} {s : Ref .system}

/-! ### What the contracts mention -/

/-- Nobody provides the interface of the contract. -/
def lacksProvider (m : Model) (c : Ref .contract) : Bool :=
  (m.interface (m.contract c).owner).provider.isNone

/-- The consumer of a contract and the provider of its interface. -/
def joined? (m : Model) (c : Ref .contract) : Option (Ref .microservice × Ref .microservice) :=
  (m.interface (m.contract c).owner).provider.map fun p => ((m.contract c).consumer, p)

/-- What the contracts of a system join, contract by contract and repeats included. -/
def joined (m : Model) (s : Ref .system) : List (Ref .microservice × Ref .microservice) :=
  (m.system s).contracts.filterMap m.joined?

/-- The microservices in the order in which building the graph mentions them: those of the system, and then the
consumer and the provider of each contract. -/
def mentioned (m : Model) (s : Ref .system) : List (Ref .microservice) :=
  (m.system s).microservices ++ (m.joined s).flatMap fun e => [e.1, e.2]

theorem lacksProvider_iff {c : Ref .contract} :
    m.lacksProvider c = true ↔ (m.interface (m.contract c).owner).provider = none := by
  rw [lacksProvider, Option.isNone_iff_eq_none]

/-- **Adding contracts** stops at the first that lacks a provider, and otherwise mentions the two ends and the edge
of each. -/
theorem addContracts_mentioning (vs : List (Ref .microservice)) (es : List (Ref .microservice × Ref .microservice))
    (cs : List (Ref .contract)) : m.addContracts (.mentioning vs es) cs =
      match cs.find? m.lacksProvider with
      | some c => .error (.noProvider (m.interface (m.contract c).owner).name)
      | none => .ok (.mentioning (vs ++ (cs.filterMap m.joined?).flatMap fun e => [e.1, e.2])
          (es ++ cs.filterMap m.joined?)) := by
  induction cs generalizing vs es with
  | nil => simp [addContracts]
  | cons c cs ih =>
    cases hp : (m.interface (m.contract c).owner).provider with
    | none =>
      have hlacks : m.lacksProvider c = true := lacksProvider_iff.mpr hp
      rw [List.find?_cons_of_pos hlacks]
      simp only [addContracts, hp]
    | some p =>
      have hhas : ¬ m.lacksProvider c = true := by simp [lacksProvider, hp]
      have hjoined : m.joined? c = some ((m.contract c).consumer, p) := by simp [joined?, hp]
      rw [List.find?_cons_of_neg hhas, List.filterMap_cons_some hjoined]
      simp only [addContracts, hp, Graph.addEdge_mentioning, ih]
      simp

/-- **The graph of a system** is what is left of the vertices and edges that building it mentions. -/
theorem graph_eq (m : Model) (s : Ref .system) : m.graph s =
    match (m.system s).contracts.find? m.lacksProvider with
    | some c => .error (.noProvider (m.interface (m.contract c).owner).name)
    | none => .ok (.mentioning (m.mentioned s) (m.joined s)) := by
  have hempty : ({} : Graph (Ref .microservice)) = .mentioning [] [] := rfl
  have hvertices := Graph.foldl_addVertex_mentioning [] (m.system s).microservices []
  rw [graph, hempty, hvertices, addContracts_mentioning]
  rfl

theorem graph_eq_error_iff {f : ValidationFault} : m.graph s = .error f ↔
    ∃ c, (m.system s).contracts.find? m.lacksProvider = some c ∧
      f = .noProvider (m.interface (m.contract c).owner).name := by
  rw [graph_eq]
  cases (m.system s).contracts.find? m.lacksProvider <;> simp [eq_comm]

/-- There is no graph if and only if some contract's interface has no provider. -/
theorem exists_graph_eq_error_iff : (∃ f, m.graph s = .error f) ↔
    ∃ c ∈ (m.system s).contracts, (m.interface (m.contract c).owner).provider = none := by
  have hsome : ((m.system s).contracts.find? m.lacksProvider).isSome ↔
      ∃ c ∈ (m.system s).contracts, (m.interface (m.contract c).owner).provider = none := by
    rw [List.find?_isSome]
    simp only [lacksProvider_iff]
  rw [← hsome, Option.isSome_iff_exists]
  exact ⟨fun ⟨f, h⟩ => (graph_eq_error_iff.mp h).imp fun c hc => hc.1,
    fun ⟨c, hc⟩ => ⟨_, graph_eq_error_iff.mpr ⟨c, hc, rfl⟩⟩⟩

theorem eq_mentioning_of_graph {g : Graph (Ref .microservice)} (h : m.graph s = .ok g) :
    g = .mentioning (m.mentioned s) (m.joined s) := by
  rw [graph_eq] at h
  split at h
  · cases h
  · exact (Except.ok.inj h).symm

end Model

namespace Diagram

/-- **The graph of a system and its text, in order.** There is no graph, and no text, if and only if the interface of
some contract has no provider, and the first such interface is named. Otherwise the vertices are the microservices of
the system followed by the consumer and the provider of each contract, and the edges are what the contracts join,
each once and where it comes first. The text declares the vertices in their order and then lists the edges, by their
tails in this order and within a tail by the first contract that gives the edge. -/
theorem source_simpleOf_in_order (s : Ref .system) (r : RendererRef) (st : Studio) :
    ((∃ f, ((simpleOf s r).graph.run st).1 = .error f) ↔
      ∃ c ∈ (st.model.system s).contracts,
        (st.model.interface (st.model.contract c).owner).provider = none) ∧
    (∀ f, ((simpleOf s r).graph.run st).1 = .error f ↔
      ∃ c, (st.model.system s).contracts.find? st.model.lacksProvider = some c ∧
        f = .validation (.noProvider (st.model.interface (st.model.contract c).owner).name)) ∧
    (∀ f, ((simpleOf s r).source.run st).1 = .error f ↔ ((simpleOf s r).graph.run st).1 = .error f) ∧
    ∀ g, ((simpleOf s r).graph.run st).1 = .ok g →
      g.vertices = (st.model.mentioned s).eraseDups ∧ g.vertices.Nodup ∧
      (∀ e, e ∈ g.edges ↔ ∃ c ∈ (st.model.system s).contracts, st.model.Joins c e) ∧ g.edges.Nodup ∧
      g.edgesByTail.Perm g.edges ∧
      g.edgesByTail = g.vertices.flatMap (fun v => ((st.model.joined s).filter (·.1 = v)).eraseDups) ∧
      ((simpleOf s r).source.run st).1 = .ok (String.ofList (Dot.text
        (g.vertices.map (fun v => .vertex (st.model.vertexId v) (st.model.vertexLabel v)) ++
          g.edgesByTail.map fun e => .edge (st.model.vertexId e.1) (st.model.vertexId e.2)))) := by
  have hsource : ((simpleOf s r).source.run st).1 = (st.model.dotText s).mapError .validation := rfl
  rw [← Model.exists_graph_eq_error_iff, graph_simpleOf_run, hsource, Model.dotText]
  cases hg : st.model.graph s with
  | error f =>
    obtain ⟨c, hc, rfl⟩ := Model.graph_eq_error_iff.mp hg
    refine ⟨⟨fun _ => ⟨_, rfl⟩, fun _ => ⟨_, rfl⟩⟩, fun f => ?_, fun f => ?_, nofun⟩
    · simp [hc, Except.mapError, eq_comm]
    · exact ⟨fun h => congrArg _ (Except.error.inj h), fun h => congrArg _ (Except.error.inj h)⟩
  | ok g =>
    have hnone : (st.model.system s).contracts.find? st.model.lacksProvider = none := by
      cases hc : (st.model.system s).contracts.find? st.model.lacksProvider with
      | none => rfl
      | some c => cases hg.symm.trans (Model.graph_eq_error_iff.mpr ⟨c, hc, rfl⟩)
    have hsound := Model.sound_of_graph hg
    refine ⟨⟨nofun, nofun⟩, fun f => ?_, fun f => ⟨nofun, nofun⟩, ?_⟩
    · simp [hnone, Except.mapError]
    rintro g' ⟨⟩
    refine ⟨?_, hsound.vertices_nodup, Model.mem_edges_of_graph hg, hsound.edges_nodup, hsound.edgesByTail_perm, ?_,
      rfl⟩
    · rw [Model.eq_mentioning_of_graph hg]
      rfl
    · rw [Model.eq_mentioning_of_graph hg, Graph.edgesByTail_mentioning]
      rfl

/-- Consumers and providers from outside the system come after it, and one pair is one edge. -/
example : Model.graph
    { microservices := ⟨[{ name := "A" }, { name := "B" }, { name := "C" }, { name := "D" }]⟩
      interfaces := ⟨[{ name := "X", provider := some ⟨0⟩ }, { name := "Y", provider := some ⟨3⟩ }]⟩
      contracts := ⟨[⟨⟨0⟩, ⟨2⟩⟩, ⟨⟨0⟩, ⟨0⟩⟩, ⟨⟨1⟩, ⟨1⟩⟩, ⟨⟨0⟩, ⟨2⟩⟩]⟩
      systems := ⟨[{ name := "S", microservices := [⟨1⟩, ⟨0⟩, ⟨1⟩], contracts := [⟨0⟩, ⟨1⟩, ⟨2⟩, ⟨3⟩] }]⟩ } ⟨0⟩ =
    .ok ⟨[⟨1⟩, ⟨0⟩, ⟨2⟩, ⟨3⟩], [(⟨2⟩, ⟨0⟩), (⟨0⟩, ⟨0⟩), (⟨1⟩, ⟨3⟩)]⟩ := by
  rfl

end Diagram

end Landscape
