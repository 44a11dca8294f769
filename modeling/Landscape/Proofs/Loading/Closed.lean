import Landscape.Diagram.Basic
import Landscape.Proofs.Diagram.Graph
import Landscape.Proofs.Loading.Loaded

/-!
# Loaded systems are closed

A system is closed (`Landscape.Model.Closed`) if its interfaces and their providers know each other and its contracts
lead nowhere else: each interface stands once in one list, that of its provider, and a contract's ends are a
microservice of the system and an interface that one of them provides. Things are told apart by their numbers
here, never by their names.

The two diagrams of a system look at different sides of this: the graph follows an interface to its provider, the
component diagram looks for it in the lists. A closed system has both, and no contract brings a vertex into
its graph. Every loaded system is closed (`Landscape.Model.closed_of_load`).
-/

namespace Landscape

/-- **A closed system.** -/
structure Model.Closed (m : Model) (s : Ref .system) : Prop where
  /-- No microservice stands in the system twice. -/
  microservices_nodup : (m.system s).microservices.Nodup
  /-- Over all lists of all microservices, no interface stands there twice. -/
  interfaces_nodup : (m.providedInterfaces s).Nodup
  /-- The provider of an interface is the microservice that lists it. -/
  provider : ∀ r ∈ (m.system s).microservices, ∀ i ∈ (m.microservice r).interfaces,
    (m.interface i).provider = some r
  /-- The consumer of a contract is a microservice of the system. -/
  consumer : ∀ c ∈ (m.system s).contracts, (m.contract c).consumer ∈ (m.system s).microservices
  /-- The owner of a contract is listed by its provider, which is a microservice of the system. -/
  owner : ∀ c ∈ (m.system s).contracts, ∃ r ∈ (m.system s).microservices,
    (m.interface (m.contract c).owner).provider = some r ∧
      (m.contract c).owner ∈ (m.microservice r).interfaces

namespace Model

variable {m m' : Model} {document : Value} {s : Ref .system}

theorem listed_skeleton (m : Model) (s : Ref .system) :
    m.skeleton.listed (m.system s).microservices = m.providedInterfaces s :=
  rfl

theorem Loaded.closed (h : m.Loaded m' document s) : m'.Closed s where
  microservices_nodup := by
    rw [h.houses.microservices]
    exact Ref.nodup_block _ _
  interfaces_nodup := by
    obtain ⟨n, -, hlisted⟩ := h.houses.interfaces
    rw [← listed_skeleton, hlisted]
    exact Ref.nodup_block _ n
  provider := h.houses.provider
  consumer := fun c hc => (h.contracts c hc).1
  owner := fun c hc => by
    obtain ⟨r, hr, hi⟩ := List.mem_flatMap.mp (h.contracts c hc).2
    exact ⟨r, hr, h.houses.provider r hr _ hi, hi⟩

/-- **The interfaces of a loaded system** are the interfaces that loading has added. -/
theorem Loaded.mem_providedInterfaces (h : m.Loaded m' document s) (i : Ref .interface) :
    i ∈ m'.providedInterfaces s ↔ m.interfaces.size ≤ i.index ∧ i.index < m'.interfaces.size := by
  obtain ⟨n, hsize, hlisted⟩ := h.houses.interfaces
  have hsize' : m'.interfaces.size = m.interfaces.size + n := hsize
  rw [hsize', ← listed_skeleton, hlisted]
  exact Ref.mem_block

/-! ### The diagrams of a closed system -/

/-- A contract of a closed system joins two microservices of it. -/
theorem Closed.joins_mem (h : m.Closed s) {c : Ref .contract} (hc : c ∈ (m.system s).contracts)
    {e : Ref .microservice × Ref .microservice} (he : m.Joins c e) :
    e.1 ∈ (m.system s).microservices ∧ e.2 ∈ (m.system s).microservices := by
  obtain ⟨r, hr, hprov, -⟩ := h.owner c hc
  obtain ⟨htail, hhead⟩ := he
  rw [hprov] at hhead
  cases hhead
  exact ⟨htail ▸ h.consumer c hc, hr⟩

/-- **The graph of a closed system** has its microservices as vertices, in order, and edges among them. -/
theorem Closed.exists_graph (h : m.Closed s) : ∃ g, m.graph s = .ok g ∧
    g.vertices = (m.system s).microservices ∧
    ∀ e ∈ g.edges, e.1 ∈ g.vertices ∧ e.2 ∈ g.vertices := by
  obtain ⟨g, hg⟩ := Model.exists_graph (m := m) (s := s) fun c hc => by
    obtain ⟨r, -, hprov, -⟩ := h.owner c hc
    exact ⟨((m.contract c).consumer, r), rfl, hprov⟩
  have hv := vertices_of_graph hg h.microservices_nodup fun c hc e he => h.joins_mem hc he
  refine ⟨g, hg, hv, fun e he => ?_⟩
  obtain ⟨c, hc, hj⟩ := (mem_edges_of_graph hg e).mp he
  rw [hv]
  exact h.joins_mem hc hj

/-- The contracts of a closed system are defined in it. -/
theorem Closed.isDefined (h : m.Closed s) {c : Ref .contract} (hc : c ∈ (m.system s).contracts) :
    m.isDefined s c = true := by
  obtain ⟨r, hr, -, hi⟩ := h.owner c hc
  simp only [Model.isDefined, Bool.and_eq_true, List.any_eq_true, List.contains_iff_mem]
  exact ⟨⟨r, hr, hi⟩, h.consumer c hc⟩

/-- **The component diagram of a closed system** exists. -/
theorem Closed.umlItems_eq (h : m.Closed s) : m.umlItems s =
    .ok ([.start, .allowMixing] ++ (m.system s).microservices.flatMap m.microserviceItems ++
      (m.system s).contracts.map m.contractItem ++ [.finish]) :=
  if_pos (List.all_eq_true.mpr fun _ hc => h.isDefined hc)

theorem Closed.exists_umlText (h : m.Closed s) : ∃ text, m.umlText s = .ok text := by
  rw [umlText, h.umlItems_eq]
  exact ⟨_, rfl⟩

end Model

/-! ### Asking for the diagrams -/

namespace Diagram

/-- The simple diagram of a system, ready to be drawn. -/
def simpleOf (s : Ref .system) (r : RendererRef) : Diagram :=
  .simple { system := some s, format := .svg } r

/-- The component diagram of a system, ready to be drawn. -/
def umlOf (s : Ref .system) (r : RendererRef) : Diagram :=
  .uml { system := some s, type := .component, format := .svg } r

theorem graph_simpleOf_run (s : Ref .system) (r : RendererRef) (st : Studio) :
    ((simpleOf s r).graph.run st).1 = (st.model.graph s).mapError .validation :=
  rfl

theorem source_simpleOf_run (s : Ref .system) (r : RendererRef) (st : Studio) :
    ((simpleOf s r).source.run st).1 = (st.model.dotText s).mapError .validation :=
  rfl

theorem source_umlOf_run (s : Ref .system) (r : RendererRef) (st : Studio) :
    ((umlOf s r).source.run st).1 = textOf st.model s .uml :=
  rfl

end Diagram

/-- **Loading leaves nothing dangling.** A loaded system is closed, and its interfaces are all that loading has
added. So its two diagrams find nothing wrong with its configuration or its contracts: the graph has exactly the
microservices as vertices, named as in the document and in its order, and edges among them; the component diagram
has a text, unless a value in it is too long to be written. -/
theorem Model.closed_of_load {m m' : Model} {document : Value} {s : Ref .system}
    (h : m.load document = .ok (s, m')) :
    m'.Closed s ∧
    (∀ i : Ref .interface, (m'.providedInterfaces s).count i =
      if m.interfaces.size ≤ i.index ∧ i.index < m'.interfaces.size then 1 else 0) ∧
    ∀ (st : Studio) (r : RendererRef), st.model = m' →
      (∃ g, ((Diagram.simpleOf s r).graph.run st).1 = .ok g ∧
        g.vertices = (m'.system s).microservices ∧
        m'.namesOf g.vertices = namesIn (document.field "microservices").items ∧
        ∀ e ∈ g.edges, e.1 ∈ (m'.system s).microservices ∧ e.2 ∈ (m'.system s).microservices) ∧
      ∃ text, m'.umlText s = .ok text ∧ ((Diagram.umlOf s r).source.run st).1 =
        if m'.isWritable s then .ok text else .error .longNumber := by
  have hl := Model.loaded_of_load h
  have hc := hl.closed
  refine ⟨hc, fun i => ?_, ?_⟩
  · rw [List.Nodup.count hc.interfaces_nodup]
    exact if_congr (hl.mem_providedInterfaces i) rfl rfl
  rintro st r rfl
  constructor
  · obtain ⟨g, hg, hv, he⟩ := hc.exists_graph
    refine ⟨g, ?_, hv, ?_, fun e hmem => hv ▸ he e hmem⟩
    · rw [Diagram.graph_simpleOf_run, hg]
      rfl
    · rw [hv]
      exact hl.named
  · obtain ⟨text, htext⟩ := hc.exists_umlText
    refine ⟨text, htext, ?_⟩
    rw [Diagram.source_umlOf_run, Diagram.textOf, htext]
    rfl

/-- A landscape in which two microservices provide an interface of the same name, and a contract means one of
them. -/
def twinsDocument : Value :=
  .mapping [
    (.text "name", .text "Twins"),
    (.text "microservices", .list [
      .mapping [(.text "name", .text "A"),
        (.text "interfaces", .list [.mapping [(.text "name", .text "X")]])],
      .mapping [(.text "name", .text "B"),
        (.text "interfaces", .list [.mapping [(.text "name", .text "X")]])],
      .mapping [(.text "name", .text "C")]]),
    (.text "contracts", .list [.mapping [(.text "owner", .text "A/X"), (.text "consumer", .text "C")]])]

/-- A landscape of one microservice. -/
def loneDocument : Value :=
  .mapping [(.text "name", .text "S"), (.text "microservices", .list [.mapping [(.text "name", .text "A")]])]

/-- A document whose loading passes a test is loaded. -/
theorem Model.exists_load_of_any (m : Model) (document : Value) (p : Ref .system × Model → Bool)
    (h : (m.load document).toOption.any p = true) :
    ∃ s m', m.load document = .ok (s, m') ∧ p (s, m') = true := by
  cases hload : m.load document with
  | error f =>
    rw [hload] at h
    cases h
  | ok r =>
    rw [hload] at h
    exact ⟨r.1, r.2, rfl, h⟩

/-- A document whose loading is known to fail in some way fails in this way. -/
theorem Model.load_eq_error_of_map {m : Model} {document : Value} {f : DocumentFault}
    (h : (m.load document).map (fun _ => ()) = .error f) : m.load document = .error f := by
  cases hload : m.load document with
  | error g =>
    rw [hload] at h
    exact congrArg _ (Except.error.inj h)
  | ok r =>
    rw [hload] at h
    cases h

/-- The landscape with the twins is loaded, and closed. -/
theorem Model.closed_of_load_twins : ∃ s m', Model.load {} twinsDocument = .ok (s, m') ∧
    (m'.system s).contracts.length = 1 ∧ m'.Closed s ∧
    (m'.providedInterfaces s).count ⟨1⟩ = 1 ∧
    ∃ text, m'.umlText s = .ok text := by
  obtain ⟨s, m', h, hp⟩ := Model.exists_load_of_any {} twinsDocument
    (fun r => (r.2.system r.1).contracts.length == 1 && r.2.interfaces.size == 2) (by decide +kernel)
  obtain ⟨hcontracts, hsize⟩ : (m'.system s).contracts.length = 1 ∧ m'.interfaces.size = 2 := by
    simpa using hp
  obtain ⟨hclosed, hcount, hdiagrams⟩ := Model.closed_of_load h
  refine ⟨s, m', h, hcontracts, hclosed, ?_, ?_⟩
  · rw [hcount, hsize]
    rfl
  · obtain ⟨-, text, htext, -⟩ := hdiagrams { model := m' } ⟨0⟩ rfl
    exact ⟨text, htext⟩

end Landscape
