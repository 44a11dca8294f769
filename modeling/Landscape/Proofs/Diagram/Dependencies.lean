import Landscape.Proofs.Loading.Closed
import Mathlib.Data.Set.Basic

/-!
# Who depends on whom, in either diagram

Both diagrams of a system say who depends on whom, by the aliases of the microservices. The graph does so by its
edges (`Landscape.Model.graphDependencies`). The component diagram does so in two steps, by an arrow of use from
the consumer to an interface and an arrow of realization from a microservice to an interface of the same alias
(`Landscape.PlantUml.dependencies`). An interface is known there by the alias of its name and by nothing else.

So the component diagram never loses a dependency of the graph, but it has more of them if two microservices provide
interfaces of one alias: a contract with one of them then reads as a contract with either
(`Landscape.Model.dependencies_ne_twins`). What it has is said exactly by
`Landscape.Model.dependencies_of_load`.
-/

namespace Landscape

/-- **The dependencies in a component diagram**: the pairs of aliases of which the first uses an interface that the
second realizes. -/
def PlantUml.dependencies (items : List PlantUml.Item) : Set (String × String) :=
  {x | ∃ i, .usage x.1 i ∈ items ∧ .realization x.2 i ∈ items}

namespace Model

/-- The alias of a microservice. -/
def microserviceAlias (m : Model) (r : Ref .microservice) : String :=
  aliasOf (m.microservice r).name

/-- The alias of an interface. -/
def interfaceAlias (m : Model) (i : Ref .interface) : String :=
  aliasOf (m.interface i).name

/-- The aliases of the ends of an edge. -/
def edgeAliases (m : Model) (e : Ref .microservice × Ref .microservice) : String × String :=
  (m.microserviceAlias e.1, m.microserviceAlias e.2)

/-- **The dependencies in a graph**: the pairs of aliases that its edges join. -/
def graphDependencies (m : Model) (g : Graph (Ref .microservice)) : Set (String × String) :=
  {x | x ∈ g.edges.map m.edgeAliases}

/-- What a contract may be taken for where interfaces are known by their aliases: the pair of its consumer and any
microservice of the system that lists an interface of the owner's alias. -/
def ReadsAs (m : Model) (s : Ref .system) (c : Ref .contract) (x : String × String) : Prop :=
  x.1 = m.microserviceAlias (m.contract c).consumer ∧
    ∃ r ∈ (m.system s).microservices, x.2 = m.microserviceAlias r ∧
      ∃ i ∈ (m.microservice r).interfaces, m.interfaceAlias i = m.interfaceAlias (m.contract c).owner

variable {m : Model} {s : Ref .system}

/-! ### Arrows among the items -/

/-- If a component diagram has items, they are those of its microservices and then those of its contracts. -/
theorem umlItems_eq_ok {items : List PlantUml.Item} (h : m.umlItems s = .ok items) :
    items = [.start, .allowMixing] ++ (m.system s).microservices.flatMap m.microserviceItems ++
      (m.system s).contracts.map m.contractItem ++ [.finish] := by
  simp only [umlItems] at h
  split at h
  · cases h
    rfl
  · cases h

theorem realization_mem_microserviceItems {r : Ref .microservice} {p i : String} :
    .realization p i ∈ m.microserviceItems r ↔
      p = m.microserviceAlias r ∧ ∃ j ∈ (m.microservice r).interfaces, m.interfaceAlias j = i := by
  simp [microserviceItems, interfaceItem, microserviceAlias, interfaceAlias, eq_comm]
  tauto

theorem usage_notMem_microserviceItems {r : Ref .microservice} {c i : String} :
    .usage c i ∉ m.microserviceItems r := by
  simp [microserviceItems, interfaceItem]

/-- The arrows of realization come from the microservices. -/
theorem realization_mem_umlItems {items : List PlantUml.Item} (h : m.umlItems s = .ok items)
    {p i : String} : .realization p i ∈ items ↔ ∃ r ∈ (m.system s).microservices,
      p = m.microserviceAlias r ∧ ∃ j ∈ (m.microservice r).interfaces, m.interfaceAlias j = i := by
  rw [umlItems_eq_ok h]
  simp [realization_mem_microserviceItems, contractItem]

/-- The arrows of use come from the contracts. -/
theorem usage_mem_umlItems {items : List PlantUml.Item} (h : m.umlItems s = .ok items)
    {c i : String} : .usage c i ∈ items ↔ ∃ k ∈ (m.system s).contracts,
      c = m.microserviceAlias (m.contract k).consumer ∧
        i = m.interfaceAlias (m.contract k).owner := by
  rw [umlItems_eq_ok h]
  simp [usage_notMem_microserviceItems, contractItem, microserviceAlias, interfaceAlias, eq_comm]

/-- **The dependencies in a component diagram** are what its contracts may be taken for. -/
theorem mem_dependencies_of_umlItems {items : List PlantUml.Item} (h : m.umlItems s = .ok items)
    (x : String × String) :
    x ∈ PlantUml.dependencies items ↔ ∃ c ∈ (m.system s).contracts, m.ReadsAs s c x := by
  constructor
  · rintro ⟨i, husage, hreal⟩
    obtain ⟨c, hc, hx, rfl⟩ := (usage_mem_umlItems h).mp husage
    exact ⟨c, hc, hx, (realization_mem_umlItems h).mp hreal⟩
  · rintro ⟨c, hc, hx, hr⟩
    exact ⟨_, (usage_mem_umlItems h).mpr ⟨c, hc, hx, rfl⟩, (realization_mem_umlItems h).mpr hr⟩

/-- **The dependencies in a graph** are what its contracts join. -/
theorem mem_graphDependencies_of_graph {g : Graph (Ref .microservice)} (h : m.graph s = .ok g)
    (x : String × String) : x ∈ m.graphDependencies g ↔
      ∃ c ∈ (m.system s).contracts, ∃ e, m.Joins c e ∧ m.edgeAliases e = x := by
  rw [graphDependencies, Set.mem_ofPred_eq, List.mem_map]
  constructor
  · rintro ⟨e, he, hx⟩
    obtain ⟨c, hc, hj⟩ := (mem_edges_of_graph h e).mp he
    exact ⟨c, hc, e, hj, hx⟩
  · rintro ⟨c, hc, e, hj, hx⟩
    exact ⟨e, (mem_edges_of_graph h e).mpr ⟨c, hc, hj⟩, hx⟩

/-- In a closed system, what a contract joins is one of the things it may be taken for. -/
theorem Closed.readsAs_of_joins (h : m.Closed s) {c : Ref .contract}
    (hc : c ∈ (m.system s).contracts) {e : Ref .microservice × Ref .microservice}
    (he : m.Joins c e) : m.ReadsAs s c (m.edgeAliases e) := by
  obtain ⟨r, hr, hprov, hi⟩ := h.owner c hc
  obtain ⟨htail, hhead⟩ := he
  rw [hprov] at hhead
  cases hhead
  exact ⟨congrArg m.microserviceAlias htail, e.2, hr, rfl, _, hi, rfl⟩

end Model

/-- **The component diagram loses no dependency, and has exactly those that aliases allow.** Both diagrams of a loaded
system exist. Each dependency in the graph is one in the component diagram. A dependency in the component diagram is a
contract's consumer with any microservice that lists an interface of the owner's alias, so it is also in the graph
if and only if some contract joins a pair of these aliases. In particular the two agree if interfaces of one
alias belong to microservices of one alias. -/
theorem Model.dependencies_of_load {m m' : Model} {document : Value} {s : Ref .system}
    (h : m.load document = .ok (s, m')) :
    ∃ items g, m'.umlItems s = .ok items ∧ m'.graph s = .ok g ∧
      m'.graphDependencies g ⊆ PlantUml.dependencies items ∧
      (∀ x, x ∈ PlantUml.dependencies items ↔
        ∃ c ∈ (m'.system s).contracts, m'.ReadsAs s c x) ∧
      (PlantUml.dependencies items = m'.graphDependencies g ↔
        ∀ c ∈ (m'.system s).contracts, ∀ x, m'.ReadsAs s c x →
          ∃ c' ∈ (m'.system s).contracts, ∃ e, m'.Joins c' e ∧ m'.edgeAliases e = x) ∧
      ((∀ r ∈ (m'.system s).microservices, ∀ i ∈ (m'.microservice r).interfaces,
          ∀ r' ∈ (m'.system s).microservices, ∀ i' ∈ (m'.microservice r').interfaces,
          m'.interfaceAlias i = m'.interfaceAlias i' →
            m'.microserviceAlias r = m'.microserviceAlias r') →
        PlantUml.dependencies items = m'.graphDependencies g) := by
  have hc := (Model.loaded_of_load h).closed
  obtain ⟨g, hg, -⟩ := hc.exists_graph
  obtain ⟨items, hitems⟩ : ∃ items, m'.umlItems s = .ok items := ⟨_, hc.umlItems_eq⟩
  have hgraph := mem_graphDependencies_of_graph hg
  have huml := mem_dependencies_of_umlItems hitems
  have hsub : m'.graphDependencies g ⊆ PlantUml.dependencies items := by
    intro x hx
    obtain ⟨c, hmem, e, hj, rfl⟩ := (hgraph x).mp hx
    exact (huml _).mpr ⟨c, hmem, hc.readsAs_of_joins hmem hj⟩
  have hiff : PlantUml.dependencies items = m'.graphDependencies g ↔
      ∀ c ∈ (m'.system s).contracts, ∀ x, m'.ReadsAs s c x →
        ∃ c' ∈ (m'.system s).contracts, ∃ e, m'.Joins c' e ∧ m'.edgeAliases e = x := by
    constructor
    · intro heq c hmem x hx
      exact (hgraph x).mp (heq ▸ (huml x).mpr ⟨c, hmem, hx⟩)
    · intro hall
      refine Set.Subset.antisymm (fun x hx => ?_) hsub
      obtain ⟨c, hmem, hreads⟩ := (huml x).mp hx
      exact (hgraph x).mpr (hall c hmem x hreads)
  refine ⟨items, g, hitems, hg, hsub, huml, hiff, fun hunique => hiff.mpr ?_⟩
  -- the microservice of the pair has the alias of the provider, so the contract itself joins the pair
  rintro c hmem ⟨x₁, x₂⟩ ⟨hx₁, r, hr, hx₂, i, hi, halias⟩
  obtain ⟨p, hp, hprov, howner⟩ := hc.owner c hmem
  refine ⟨c, hmem, ((m'.contract c).consumer, p), ⟨rfl, hprov⟩, ?_⟩
  have hpr := hunique r hr i hi p hp _ howner halias
  exact Prod.ext hx₁.symm (hpr.symm.trans hx₂.symm)

/-- A component diagram can have a dependency that the graph lacks: among the twins, the contract with one of them
reads as a contract with either. -/
theorem Model.dependencies_ne_twins : ∃ s m' items g, Model.load {} twinsDocument = .ok (s, m') ∧
    m'.umlItems s = .ok items ∧ m'.graph s = .ok g ∧
    PlantUml.dependencies items ≠ m'.graphDependencies g := by
  obtain ⟨s, m', h, hp⟩ := Model.exists_load_of_any {} twinsDocument
    (fun r => (r.2.umlItems r.1).toOption.any fun items =>
      .usage "C" "X" ∈ items && .realization "B" "X" ∈ items &&
        (r.2.graph r.1).toOption.any fun g => ("C", "B") ∉ g.edges.map r.2.edgeAliases) (by decide +kernel)
  cases hitems : m'.umlItems s with
  | error f => simp [hitems, Except.toOption] at hp
  | ok items =>
    cases hg : m'.graph s with
    | error f => simp [hitems, hg, Except.toOption] at hp
    | ok g =>
      refine ⟨s, m', items, g, h, hitems, hg, fun heq => ?_⟩
      obtain ⟨⟨husage, hreal⟩, hedges⟩ : (PlantUml.Item.usage "C" "X" ∈ items ∧
          PlantUml.Item.realization "B" "X" ∈ items) ∧ ("C", "B") ∉ g.edges.map m'.edgeAliases := by
        simpa [hitems, hg, Except.toOption] using hp
      have hmem : ("C", "B") ∈ PlantUml.dependencies items := ⟨"X", husage, hreal⟩
      rw [heq] at hmem
      exact hedges hmem

/-- Among the twins, what the graph has is in the component diagram too. -/
theorem Model.dependencies_of_load_twins : ∃ s m' items g, Model.load {} twinsDocument = .ok (s, m') ∧
    m'.umlItems s = .ok items ∧ m'.graph s = .ok g ∧ ("C", "A") ∈ m'.graphDependencies g ∧
    ("C", "A") ∈ PlantUml.dependencies items := by
  obtain ⟨s, m', h, hp⟩ := Model.exists_load_of_any {} twinsDocument
    (fun r => (r.2.graph r.1).toOption.any fun g => ("C", "A") ∈ g.edges.map r.2.edgeAliases)
    (by decide +kernel)
  obtain ⟨items, g, hitems, hg, hsub, -⟩ := Model.dependencies_of_load h
  have hmem : ("C", "A") ∈ g.edges.map m'.edgeAliases := by
    simpa [hg, Except.toOption] using hp
  exact ⟨s, m', items, g, h, hitems, hg, hmem, hsub hmem⟩

end Landscape
