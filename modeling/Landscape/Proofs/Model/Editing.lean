import Landscape.Proofs.Diagram.Edges
import Landscape.Proofs.Diagram.Assembly
import Landscape.Proofs.Model.Providing
import Mathlib.Logic.Relation

/-!
# Diagrams of models that were put together by providing

The two diagrams of a system ask different things of its contracts. The component diagram looks for the interface
of a contract in the lists of the system's microservices, and for its consumer among them. The graph only asks
the interface for its provider, whoever that is. So each can be refused where the other is not.

For a model that was put together in the ordinary way, there is only one direction in which they can differ. A model
is edited (`Landscape.Model.Edit`) if things are made, if systems and contracts come, go and change in any way, and if
interfaces get into a microservice's list by being provided there and not otherwise. Such an edit never leaves an
interface in a list without a provider (`Landscape.Model.Edit.listsProvided`): providing it again gives it
another one, and although the first microservice still lists it, it has one. So if the component diagram
of a system has a text, then the system has a graph (`Landscape.Diagram.source_simpleOf_of_umlOf`), though its
vertices may lie outside the system.
-/

namespace Landscape

namespace Model

variable {m m' : Model} {r s : Ref .microservice} {i : Ref .interface}

/-! ### Edits -/

/-- **One edit of a model**, in which interfaces get into a list only by being provided. -/
inductive Edit : Model → Model → Prop
  /-- An interface is provided, whether or not it has been provided before. -/
  | provide {m : Model} {r : Ref .microservice} {i : Ref .interface} (hr : m.HasMicroservice r)
      (hi : m.HasInterface i) : Edit m (m.provide r i)
  /-- An interface is made. -/
  | addInterface {m : Model} (x : Interface) : Edit m (m.addInterface x).2
  /-- A microservice is made, which lists nothing. -/
  | addMicroservice {m : Model} (x : Microservice) (h : x.interfaces = []) : Edit m (m.addMicroservice x).2
  /-- An interface is changed, but it does not lose its provider. -/
  | changeInterface {m : Model} (i : Ref .interface) (f : Interface → Interface)
      (h : ∀ x, x.provider.isSome → (f x).provider.isSome) : Edit m (m.modifyInterface i f)
  /-- A microservice is changed, but its list gets no new interface. -/
  | changeMicroservice {m : Model} (r : Ref .microservice) (f : Microservice → Microservice)
      (h : ∀ x, (f x).interfaces ⊆ x.interfaces) : Edit m (m.modifyMicroservice r f)
  /-- Everything else is changed in any way: systems may get and lose microservices and contracts. -/
  | changeOthers {m m' : Model} (hmicroservices : m'.microservices = m.microservices)
      (hinterfaces : m'.interfaces = m.interfaces) : Edit m m'

/-! ### What is listed is provided -/

/-- **Every interface in a list has a provider.** -/
def ListsProvided (m : Model) : Prop :=
  ∀ r, ∀ i ∈ (m.microservice r).interfaces, (m.interface i).provider.isSome

theorem Fresh.listsProvided (h : m.Fresh) : m.ListsProvided := by
  intro r i hi
  rw [h.interfaces_eq_nil] at hi
  cases hi

/-- What has a provider is there. -/
theorem hasInterface_of_provider (h : (m.interface i).provider.isSome) : m.HasInterface i := by
  by_contra hnot
  have hrow : m.interface i = default := Table.get_of_size_le _ (Nat.le_of_not_lt hnot)
  rw [hrow] at h
  cases h

/-- Lists that get no new interfaces, whose interfaces keep having providers, list what is provided. -/
theorem ListsProvided.mono (h : m.ListsProvided)
    (hlists : ∀ r, (m'.microservice r).interfaces ⊆ (m.microservice r).interfaces)
    (hproviders : ∀ i, (m.interface i).provider.isSome → (m'.interface i).provider.isSome) :
    m'.ListsProvided :=
  fun r i hi => hproviders i (h r i (hlists r hi))

/-- Providing keeps the providers that are there, though not who they are. -/
theorem isSome_provider_provide (hi : m.HasInterface i) (r : Ref .microservice) {j : Ref .interface}
    (h : j = i ∨ (m.interface j).provider.isSome) : ((m.provide r i).interface j).provider.isSome := by
  rw [provider_provide hi]
  split
  · rfl
  · rename_i hne
    exact h.resolve_left (Ne.symm hne)

/-- An edit leaves no interface in a list without a provider. -/
theorem Edit.listsProvided (h : Edit m m') (hm : m.ListsProvided) : m'.ListsProvided := by
  cases h with
  | @provide r i hr hi =>
    intro s j hj
    rw [interfaces_provide hr, List.mem_append] at hj
    refine isSome_provider_provide hi r ?_
    obtain hold | hnew := hj
    · exact .inr (hm s j hold)
    · split at hnew
      · exact .inl (List.mem_singleton.mp hnew)
      · cases hnew
  | addInterface x =>
    refine hm.mono (fun r => List.Subset.refl _) fun i hi => ?_
    rw [interface, Model.addInterface, Table.get_add_of_lt _ _ (hasInterface_of_provider hi)]
    exact hi
  | addMicroservice x hx =>
    refine hm.mono (fun r => ?_) fun i hi => hi
    rw [microservice, Model.addMicroservice, Table.get_add]
    split
    · rw [hx]
      exact List.nil_subset _
    · exact List.Subset.refl _
  | changeInterface i f hf =>
    refine hm.mono (fun r => List.Subset.refl _) fun j hj => ?_
    rw [interface, modifyInterface, Table.get_modify]
    split
    · exact hf _ hj
    · exact hj
  | changeMicroservice r f hf =>
    refine hm.mono (fun s => ?_) fun i hi => hi
    rw [microservice, modifyMicroservice, Table.get_modify]
    split
    · exact hf _
    · exact List.Subset.refl _
  | changeOthers hmicroservices hinterfaces =>
    refine hm.mono (fun r => ?_) fun i hi => ?_
    · rw [microservice, hmicroservices]
      exact List.Subset.refl _
    · rw [interface, hinterfaces]
      exact hi

/-- **However a fresh model is edited**, every interface in a list has a provider. -/
theorem Fresh.listsProvided_of_edits (hfresh : m.Fresh) (h : Relation.ReflTransGen Edit m m') :
    m'.ListsProvided := by
  induction h with
  | refl => exact hfresh.listsProvided
  | tail _ hedit ih => exact hedit.listsProvided ih

/-! ### From one diagram to the other -/

/-- A contract that is defined in a system joins something, if what is listed is provided. -/
theorem ListsProvided.exists_joins (h : m.ListsProvided) {y : Ref .system} {c : Ref .contract}
    (hc : m.isDefined y c = true) : ∃ e, m.Joins c e := by
  obtain ⟨⟨r, -, howner⟩, -⟩ := isDefined_iff.mp hc
  obtain ⟨p, hp⟩ := Option.isSome_iff_exists.mp (h r _ howner)
  exact ⟨((m.contract c).consumer, p), rfl, hp⟩

/-- A system whose component diagram has items has a graph, if what is listed is provided. -/
theorem ListsProvided.exists_graph (h : m.ListsProvided) {y : Ref .system} {items : List PlantUml.Item}
    (hitems : m.umlItems y = .ok items) : ∃ g, m.graph y = .ok g := by
  refine Model.exists_graph fun c hc => ?_
  have hdefined : m.isDefined y c = true := by
    by_contra hnot
    have herror := umlItems_eq_error_iff.mpr ⟨rfl, c, hc, eq_false_of_ne_true hnot⟩
    rw [hitems] at herror
    cases herror
  exact h.exists_joins hdefined

end Model

namespace Diagram

variable {y : Ref .system} {r : RendererRef} {st : Studio}

/-- A component diagram that has a text has items. -/
theorem exists_umlItems_of_source {text : String} (h : ((umlOf y r).source.run st).1 = .ok text) :
    ∃ items, st.model.umlItems y = .ok items := by
  rw [source_umlOf_run, textOf] at h
  split at h
  · cases hitems : st.model.umlItems y with
    | ok items => exact ⟨items, rfl⟩
    | error f =>
      rw [Model.umlText, hitems] at h
      cases h
  · cases h

/-- **A component diagram vouches for the graph.** However a fresh model is edited while interfaces get into lists only
by being provided, every interface in a list has a provider. So if the component diagram of a system has a text, then
the simple diagram of the system has a graph and a text. -/
theorem source_simpleOf_of_umlOf {m₀ m : Model} (hfresh : m₀.Fresh)
    (hedits : Relation.ReflTransGen Model.Edit m₀ m) :
    (∀ x, ∀ i ∈ (m.microservice x).interfaces, ∃ p, (m.interface i).provider = some p) ∧
    ∀ (st : Studio) (y : Ref .system) (r r' : RendererRef) (text : String), st.model = m →
      ((umlOf y r).source.run st).1 = .ok text →
      (∃ g, ((simpleOf y r').graph.run st).1 = .ok g) ∧
        ∃ dot, ((simpleOf y r').source.run st).1 = .ok dot := by
  have hlists := hfresh.listsProvided_of_edits hedits
  refine ⟨fun x i hi => Option.isSome_iff_exists.mp (hlists x i hi), ?_⟩
  rintro st y r r' text rfl hsource
  obtain ⟨items, hitems⟩ := exists_umlItems_of_source hsource
  obtain ⟨g, hg⟩ := hlists.exists_graph hitems
  obtain ⟨dot, hdot⟩ := Model.exists_dotText hg
  have htext : ((simpleOf y r').source.run st).1 = (st.model.dotText y).mapError .validation := rfl
  refine ⟨⟨g, ?_⟩, dot, ?_⟩
  · rw [graph_simpleOf_run, hg]
    rfl
  · rw [htext, hdot]
    rfl

/-- An interface that was handed on: the first microservice is in the system and lists it, the second provides it. -/
def handedOn : Model :=
  { (Model.unprovided.provide ⟨0⟩ ⟨0⟩).provide ⟨1⟩ ⟨0⟩ with
    contracts := ⟨[⟨⟨0⟩, ⟨0⟩⟩]⟩
    systems := ⟨[{ name := "S", microservices := [⟨0⟩], contracts := [⟨0⟩] }]⟩ }

/-- The system has both diagrams, although the provider is not in it. -/
theorem source_simpleOf_of_umlOf_handedOn :
    (∃ g, ((simpleOf ⟨0⟩ ⟨0⟩).graph.run { model := handedOn }).1 = .ok g) ∧
      ∃ dot, ((simpleOf ⟨0⟩ ⟨0⟩).source.run { model := handedOn }).1 = .ok dot := by
  have hfirst : Model.unprovided.Edit (Model.unprovided.provide ⟨0⟩ ⟨0⟩) := .provide (by decide) (by decide)
  have hsecond : (Model.unprovided.provide ⟨0⟩ ⟨0⟩).Edit ((Model.unprovided.provide ⟨0⟩ ⟨0⟩).provide ⟨1⟩ ⟨0⟩) :=
    .provide (by decide) (by decide)
  have hedits : Relation.ReflTransGen Model.Edit Model.unprovided handedOn :=
    ((Relation.ReflTransGen.single hfirst).tail hsecond).tail (.changeOthers rfl rfl)
  have hsource : ∃ text, ((umlOf ⟨0⟩ ⟨0⟩).source.run { model := handedOn }).1 = .ok text := ⟨_, rfl⟩
  obtain ⟨text, htext⟩ := hsource
  exact (source_simpleOf_of_umlOf Model.fresh_unprovided hedits).2 _ _ _ _ text rfl htext

end Diagram

end Landscape
