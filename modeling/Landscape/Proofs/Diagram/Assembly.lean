import Landscape.Proofs.Diagram.Dependencies

/-!
# How a component diagram is put together

A component diagram has a text if both ends of each contract are in its system, wherever the contract stands, and the
things themselves count there: an interface that some microservice of the system lists, and a microservice of the
system. This holds of every model whose values are texts (`Landscape.Model.WellTyped`), however it was made.

The arrows of a diagram name components and interfaces by their aliases. An arrow stands on the items before it if both
ends are declared among them (`Landscape.PlantUml.Item.StandsOn`), and in every diagram each item does
(`Landscape.Diagram.source_umlOf_of_wellTyped`): the items of a microservice declare its component first and its
interfaces next, so its own arrows stand on them (`Landscape.Model.ordered_microserviceItems`), and an arrow of use
stands on the items of all microservices.
-/

namespace Landscape

/-! ### Declarations -/

namespace PlantUml

/-- Some items declare a component of this identifier. -/
def DeclaresComponent (items : List Item) (id : String) : Prop :=
  ∃ name, .component name id ∈ items

/-- Some items declare an interface of this identifier. -/
def DeclaresInterface (items : List Item) (id : String) : Prop :=
  ∃ endpoint communicationType signatures, .interface id endpoint communicationType signatures ∈ items

/-- An item **stands on** the items before it: if it is an arrow, both ends are declared there. -/
def Item.StandsOn (before : List Item) : Item → Prop
  | .realization c i | .usage c i => DeclaresComponent before c ∧ DeclaresInterface before i
  | _ => True

/-- **Everything is declared before it is used** in some items that come after others. -/
def Ordered (before : List Item) : List Item → Prop
  | [] => True
  | x :: items => x.StandsOn before ∧ Ordered (before ++ [x]) items

variable {before before' items items' : List Item} {x : Item}

theorem DeclaresComponent.mono {id : String} (h : DeclaresComponent before id) (hsub : before ⊆ before') :
    DeclaresComponent before' id := by
  obtain ⟨name, hmem⟩ := h
  exact ⟨name, hsub hmem⟩

theorem DeclaresInterface.mono {id : String} (h : DeclaresInterface before id) (hsub : before ⊆ before') :
    DeclaresInterface before' id := by
  obtain ⟨endpoint, communicationType, signatures, hmem⟩ := h
  exact ⟨endpoint, communicationType, signatures, hsub hmem⟩

theorem Item.StandsOn.mono (h : x.StandsOn before) (hsub : before ⊆ before') : x.StandsOn before' := by
  cases x with
  | realization c i => exact ⟨h.1.mono hsub, h.2.mono hsub⟩
  | usage c i => exact ⟨h.1.mono hsub, h.2.mono hsub⟩
  | _ => trivial

theorem Ordered.mono (h : Ordered before items) (hsub : before ⊆ before') : Ordered before' items := by
  induction items generalizing before before' with
  | nil => trivial
  | cons x items ih => exact ⟨h.1.mono hsub, ih h.2 (List.append_subset.mpr
    ⟨List.subset_append_of_subset_left _ hsub, List.subset_append_right _ _⟩)⟩

theorem ordered_append : Ordered before (items ++ items') ↔
    Ordered before items ∧ Ordered (before ++ items) items' := by
  induction items generalizing before with
  | nil => simp [Ordered]
  | cons x items ih => simp [Ordered, ih, and_assoc]

/-- Items that stand on what comes before all of them. -/
theorem ordered_of_forall (h : ∀ x ∈ items, x.StandsOn before) : Ordered before items := by
  induction items generalizing before with
  | nil => trivial
  | cons x items ih =>
    obtain ⟨hx, hitems⟩ := List.forall_mem_cons.mp h
    exact ⟨hx, ih fun y hy => (hitems y hy).mono (List.subset_append_left before [x])⟩

/-- Groups of items, each of which stands on nothing but itself. -/
theorem ordered_flatMap {α : Type} {f : α → List Item} {xs : List α} (h : ∀ x ∈ xs, Ordered [] (f x)) :
    Ordered before (xs.flatMap f) := by
  induction xs generalizing before with
  | nil => trivial
  | cons x xs ih =>
    obtain ⟨hx, hxs⟩ := List.forall_mem_cons.mp h
    exact ordered_append.mpr ⟨hx.mono (List.nil_subset before), ih hxs⟩

/-- In ordered items, each stands on those before it. -/
theorem Ordered.standsOn {pre post : List Item} (h : Ordered [] (pre ++ x :: post)) : x.StandsOn pre :=
  (ordered_append.mp h).2.1

end PlantUml

namespace Model

open PlantUml

variable {m : Model} {s : Ref .system}

/-! ### The items of a system -/

/-- What a microservice declares: its component, and each interface that it lists. -/
def declarations (m : Model) (r : Ref .microservice) : List Item :=
  .component (m.microservice r).name (aliasOf (m.microservice r).name) ::
    (m.microservice r).interfaces.map m.interfaceItem

/-- The items of a microservice are what it declares, and then an arrow to each interface. -/
theorem microserviceItems_eq (m : Model) (r : Ref .microservice) : m.microserviceItems r =
    m.declarations r ++ (m.microservice r).interfaces.map fun i =>
      .realization (aliasOf (m.microservice r).name) (aliasOf (m.interface i).name) :=
  rfl

theorem declaresComponent_declarations (m : Model) (r : Ref .microservice) :
    DeclaresComponent (m.declarations r) (aliasOf (m.microservice r).name) :=
  ⟨_, List.mem_cons_self⟩

theorem declaresInterface_declarations {r : Ref .microservice} {i : Ref .interface}
    (hi : i ∈ (m.microservice r).interfaces) :
    DeclaresInterface (m.declarations r) (aliasOf (m.interface i).name) :=
  ⟨_, _, _, List.mem_cons_of_mem _ (List.mem_map_of_mem hi)⟩

/-- The items of a microservice stand on nothing but themselves. -/
theorem ordered_microserviceItems (m : Model) (r : Ref .microservice) : Ordered [] (m.microserviceItems r) := by
  rw [microserviceItems_eq, ordered_append]
  refine ⟨ordered_of_forall fun x hx => ?_, ordered_of_forall fun x hx => ?_⟩
  · obtain rfl | hx := List.mem_cons.mp hx
    · trivial
    · obtain ⟨i, -, rfl⟩ := List.mem_map.mp hx
      trivial
  · obtain ⟨i, hi, rfl⟩ := List.mem_map.mp hx
    exact ⟨m.declaresComponent_declarations r, declaresInterface_declarations hi⟩

/-- A contract is defined in a system if its ends are in it. -/
theorem isDefined_iff {c : Ref .contract} : m.isDefined s c = true ↔
    (∃ r ∈ (m.system s).microservices, (m.contract c).owner ∈ (m.microservice r).interfaces) ∧
      (m.contract c).consumer ∈ (m.system s).microservices := by
  simp only [isDefined, Bool.and_eq_true, List.any_eq_true, List.contains_iff_mem]

/-- The arrow of a contract that is defined stands on the items of the microservices. -/
theorem standsOn_contractItem {c : Ref .contract} (h : m.isDefined s c = true) :
    (m.contractItem c).StandsOn ((m.system s).microservices.flatMap m.microserviceItems) := by
  obtain ⟨⟨r, hr, howner⟩, hconsumer⟩ := isDefined_iff.mp h
  have hsub {r : Ref .microservice} (hr : r ∈ (m.system s).microservices) :
      m.declarations r ⊆ (m.system s).microservices.flatMap m.microserviceItems :=
    fun x hx => List.mem_flatMap.mpr ⟨r, hr, List.mem_append_left _ hx⟩
  exact ⟨(m.declaresComponent_declarations _).mono (hsub hconsumer),
    (declaresInterface_declarations howner).mono (hsub hr)⟩

/-- The items of a system of which each contract is defined are ordered. -/
theorem ordered_umlItems {items : List Item} (h : m.umlItems s = .ok items) : Ordered [] items := by
  rw [umlItems] at h
  split at h
  · next hdefined =>
    cases h
    have hcontracts : ∀ x ∈ (m.system s).contracts.map m.contractItem,
        x.StandsOn ((m.system s).microservices.flatMap m.microserviceItems) := by
      intro x hx
      obtain ⟨c, hc, rfl⟩ := List.mem_map.mp hx
      exact standsOn_contractItem (List.all_eq_true.mp hdefined c hc)
    rw [ordered_append, ordered_append, ordered_append]
    refine ⟨⟨⟨by simp [Ordered, Item.StandsOn], ordered_flatMap fun r _ => m.ordered_microserviceItems r⟩,
      ordered_of_forall fun x hx => (hcontracts x hx).mono ?_⟩, by simp [Ordered, Item.StandsOn]⟩
    exact List.subset_append_right _ _
  · cases h

/-- If some contract is not defined, there are no items, and this is the only reason. -/
theorem umlItems_eq_error_iff {f : ValidationFault} : m.umlItems s = .error f ↔
    f = .undefinedContract ∧ ∃ c ∈ (m.system s).contracts, m.isDefined s c = false := by
  rw [umlItems]
  split
  · next hdefined =>
    refine iff_of_false (by rintro ⟨⟩) ?_
    rintro ⟨-, c, hc, hnot⟩
    rw [List.all_eq_true.mp hdefined c hc] at hnot
    cases hnot
  · next hdefined =>
    obtain ⟨c, hc, hnot⟩ := List.all_eq_false.mp (eq_false_of_ne_true hdefined)
    refine ⟨?_, ?_⟩
    · rintro ⟨⟩
      exact ⟨rfl, c, hc, eq_false_of_ne_true hnot⟩
    · rintro ⟨rfl, -⟩
      rfl

/-! ### Well-typed systems -/

/-- A system is **well-typed** if every value that its component diagram shows is a text, or null where it may be left
out. -/
def WellTyped (m : Model) (s : Ref .system) : Prop :=
  ∀ v ∈ m.shownValues s, v = .null ∨ ∃ text, v = .text text

theorem WellTyped.isWritable (h : m.WellTyped s) : m.isWritable s = true := by
  rw [Model.isWritable, Bool.not_eq_true']
  rw [WellTyped] at h
  generalize m.shownValues s = vs at h
  induction vs with
  | nil => rfl
  | cons v vs ih =>
    obtain ⟨hv, hvs⟩ := List.forall_mem_cons.mp h
    rw [Value.anyLongNumber, ih hvs]
    obtain rfl | ⟨text, rfl⟩ := hv <;> rfl

/-- A contract **leads outside** a system: no microservice of it lists the owner, or the consumer is none of them. -/
def LeadsOutside (m : Model) (s : Ref .system) (c : Ref .contract) : Prop :=
  (∀ r ∈ (m.system s).microservices, (m.contract c).owner ∉ (m.microservice r).interfaces) ∨
    (m.contract c).consumer ∉ (m.system s).microservices

theorem leadsOutside_iff {c : Ref .contract} : m.LeadsOutside s c ↔ m.isDefined s c = false := by
  rw [← Bool.not_eq_true, isDefined_iff, LeadsOutside, not_and_or]
  push Not
  rfl

end Model

/-- **The component diagram of a well-typed system.** It is refused for its model if and only if some contract, wherever
it stands, leads outside the system. Otherwise it has a text, which is that of the following items: the start and the
mixing of kinds; for each microservice its component, its interfaces, and an arrow to each of them; an arrow for each
contract; the end. In all of them, both ends of an arrow are declared before it. -/
theorem Diagram.source_umlOf_of_wellTyped {m : Model} {s : Ref .system} (h : m.WellTyped s) (r : RendererRef)
    (st : Studio) :
    ((∃ f, ((umlOf s r).source.run { st with model := m }).1 = .error (.validation f)) ↔
      ∃ c ∈ (m.system s).contracts, m.LeadsOutside s c) ∧
    ((¬∃ c ∈ (m.system s).contracts, m.LeadsOutside s c) →
      ∃ items, ((umlOf s r).source.run { st with model := m }).1 = .ok (PlantUml.text items) ∧
        items = [.start, .allowMixing] ++
          ((m.system s).microservices.flatMap fun x =>
            .component (m.microservice x).name (aliasOf (m.microservice x).name) ::
              ((m.microservice x).interfaces.map m.interfaceItem ++ (m.microservice x).interfaces.map fun i =>
                .realization (aliasOf (m.microservice x).name) (aliasOf (m.interface i).name))) ++
          ((m.system s).contracts.map fun c => .usage (aliasOf (m.microservice (m.contract c).consumer).name)
            (aliasOf (m.interface (m.contract c).owner).name)) ++ [.finish] ∧
        ∀ pre x post, items = pre ++ x :: post → x.StandsOn pre) := by
  have hsource : ((umlOf s r).source.run { st with model := m }).1 = (m.umlText s).mapError .validation := by
    rw [source_umlOf_run, textOf, if_pos h.isWritable]
  have hany : (∃ c ∈ (m.system s).contracts, m.LeadsOutside s c) ↔
      ∃ c ∈ (m.system s).contracts, m.isDefined s c = false := by
    simp only [Model.leadsOutside_iff]
  rw [hsource, hany, Model.umlText]
  cases hitems : m.umlItems s with
  | error f =>
    obtain ⟨-, hcontract⟩ := Model.umlItems_eq_error_iff.mp hitems
    exact ⟨iff_of_true ⟨f, rfl⟩ hcontract, fun hnone => absurd hcontract hnone⟩
  | ok items =>
    have hnone : ¬∃ c ∈ (m.system s).contracts, m.isDefined s c = false := by
      intro hcontract
      have herror := Model.umlItems_eq_error_iff.mpr ⟨rfl, hcontract⟩
      rw [hitems] at herror
      cases herror
    refine ⟨iff_of_false (by rintro ⟨f, ⟨⟩⟩) hnone, fun _ => ⟨items, rfl, Model.umlItems_eq_ok hitems, ?_⟩⟩
    rintro pre x post rfl
    exact (Model.ordered_umlItems hitems).standsOn

/-- Two microservices of one name, of which only the first is in the systems. It lists an interface that names no
provider. In the second system, one of the contracts has the other microservice as its consumer. -/
def namesakes : Model where
  interfaces := ⟨[{ name := "An Api", endpoint := .text "/api" }]⟩
  microservices := ⟨[{ name := "My Service", interfaces := [⟨0⟩] }, { name := "My Service", interfaces := [⟨0⟩] }]⟩
  contracts := ⟨[⟨⟨0⟩, ⟨0⟩⟩, ⟨⟨0⟩, ⟨1⟩⟩]⟩
  systems := ⟨[{ name := "S", microservices := [⟨0⟩], contracts := [⟨0⟩] },
    { name := "S", microservices := [⟨0⟩], contracts := [⟨0⟩, ⟨1⟩] }]⟩

/-- Of the two systems, the first has a text and the second has none: it is not the name that makes a consumer one of the
system. -/
theorem Diagram.source_umlOf_of_wellTyped_namesakes :
    namesakes.WellTyped ⟨0⟩ ∧ namesakes.WellTyped ⟨1⟩ ∧
    ((umlOf ⟨0⟩ ⟨0⟩).source.run { model := namesakes }).1 = .ok (PlantUml.text [.start, .allowMixing,
      .component "My Service" "MyService", .interface "AnApi" (some "/api") none [],
      .realization "MyService" "AnApi", .usage "MyService" "AnApi", .finish]) ∧
    ∃ f, ((umlOf ⟨1⟩ ⟨0⟩).source.run { model := namesakes }).1 = .error (.validation f) := by
  have htyped {s : Ref .system} (h : namesakes.shownValues s = [.text "/api", .null]) : namesakes.WellTyped s := by
    rw [Model.WellTyped, h]
    simp
  have hfirst := htyped (s := ⟨0⟩) rfl
  have hsecond := htyped (s := ⟨1⟩) rfl
  refine ⟨hfirst, hsecond, ?_, (source_umlOf_of_wellTyped hsecond ⟨0⟩ {}).1.mpr ⟨⟨1⟩, by decide, .inr (by decide)⟩⟩
  have hinside : ¬∃ c ∈ (namesakes.system ⟨0⟩).contracts, namesakes.LeadsOutside ⟨0⟩ c := by
    simp only [Model.leadsOutside_iff]
    decide
  obtain ⟨items, hrun, hitems, -⟩ := (source_umlOf_of_wellTyped hfirst ⟨0⟩ {}).2 hinside
  rw [hrun, hitems]
  exact congrArg (Except.ok ∘ PlantUml.text) (by decide +kernel)

end Landscape
