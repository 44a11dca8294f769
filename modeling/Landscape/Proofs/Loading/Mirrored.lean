import Landscape.Proofs.Loading.Closed

/-!
# Loaded systems mirror their documents

A loaded system says what its document says, position by position (`Landscape.Model.Mirrors`): its microservices are
those that are listed, with their interfaces, operations and parameters, and its contracts are those that are listed.
A contract names its ends, and what it names is found by names alone: the consumer is the first microservice of the
name, and the owner the only interface that the reference means.

All these things are new and numbered in a row, so nothing stands in two places, even if the document spells two parts
alike or uses one part twice. That every loading ends so is `Landscape.Model.mirrors_of_load`. The two loops of building
a system are followed once more, now with what the new rows say (`Landscape.Draft.Mirrored`,
`Landscape.Draft.Agreed`); parameters, operations and interfaces were followed where they are built.
-/

namespace Landscape

/-! ### What a system should say -/

/-- A reference means an interface of a system, by its name and the name of the microservice that lists it. -/
def Model.RefersTo (m : Model) (s : Ref .system) (reference : String) (i : Ref .interface) : Prop :=
  ∃ r ∈ (m.system s).microservices, i ∈ (m.microservice r).interfaces ∧
    Refers reference (m.microservice r).name (m.interface i).name

/-- **A contract that mirrors a value**, among the microservices of a system. -/
structure Contract.Mirrors (m : Model) (s : Ref .system) (c : Contract) (v : Value) : Prop where
  /-- The consumer has the name that is written. -/
  consumer : v.field "consumer" = .text (m.microservice c.consumer).name
  /-- It is the first microservice of this name. -/
  first : ∃ before after, (m.system s).microservices = before ++ c.consumer :: after ∧
    ∀ r ∈ before, (m.microservice r).name ≠ (m.microservice c.consumer).name
  /-- The owner, and nothing else, is what the reference means that is written. -/
  owner : ∃ reference, v.field "owner" = .text reference ∧ ∀ i, m.RefersTo s reference i ↔ i = c.owner

/-- **A system that mirrors a document.** -/
structure Model.Mirrors (m : Model) (s : Ref .system) (document : Value) : Prop where
  name : document.field "name" = .text (m.system s).name
  microservices : List.Forall₂ (fun r v => m.microservices.Has (Microservice.Mirrors m · v) r.index)
    (m.system s).microservices (document.field "microservices").items
  contracts : List.Forall₂ (fun c v => m.contracts.Has (Contract.Mirrors m s · v) c.index)
    (m.system s).contracts (document.field "contracts").items
  /-- Nothing stands in two places. -/
  microservices_nodup : (m.system s).microservices.Nodup
  interfaces_nodup : (m.providedInterfaces s).Nodup
  operations_nodup : (m.operationsOf (m.providedInterfaces s)).Nodup
  parameters_nodup : (m.parametersOf (m.operationsOf (m.providedInterfaces s))).Nodup
  contracts_nodup : (m.system s).contracts.Nodup

/-! ### Microservices -/

namespace Draft

/-- What the first loop leaves after some items, told by what the rows say. -/
structure Mirrored (base : Model) (vs : List Value) (rs : List (Ref .microservice)) (d : Draft) : Prop where
  rows : List.Forall₂ (fun r v => d.model.microservices.Has (Microservice.Mirrors d.model · v) r.index) rs vs
  operations : base.AddsOperations d.model (d.model.operationsOf (d.model.skeleton.listed rs))

/-- **A round of the first loop.** -/
theorem Mirrored.add {base : Model} {y : System} {vs : List Value} {rs : List (Ref .microservice)} {d e : Draft}
    {v : Value} {r : Ref .microservice} (h : Mirrored base vs rs d) (hp : Populated base y vs rs d)
    (hr : buildMicroservice v d = .ok (r, e)) (s : Ref .system) (f : System → System) :
    Mirrored base (vs ++ [v]) (rs ++ [r]) { e with model := e.model.modifySystem s f } := by
  obtain ⟨rfl, x, news, hnews, hname, htechnology, -⟩ := buildMicroservice_adds hr
  have hadds : d.model.AddsOperations (e.model.modifySystem s f) (news.flatMap Interface.operations) :=
    hnews.operations.of_eq rfl rfl
  have hmirrors : List.Forall₂ (Interface.Mirrors (e.model.modifySystem s f)) news (v.field "interfaces").items :=
    hnews.mirrors.imp fun i w hi => hi.mono (Model.grows_of_eq rfl rfl)
  have hif : (e.model.modifySystem s f).interfaces = d.model.interfaces.extend news :=
    congrArg Skeleton.interfaces hnews.skeleton
  have hms : (e.model.modifySystem s f).microservices = d.model.microservices.add
      { x with interfaces := Ref.block _ d.model.interfaces.size news.length } :=
    congrArg Skeleton.microservices hnews.skeleton
  have hlisted : (e.model.modifySystem s f).skeleton.listed (rs ++ [⟨d.model.microservices.size⟩]) =
      d.model.skeleton.listed rs ++ Ref.block _ d.model.interfaces.size news.length :=
    (congrArg (Skeleton.listed · _) hnews.skeleton).trans (hp.houses.listed_add x news)
  generalize e.model.modifySystem s f = m' at hadds hmirrors hif hms hlisted ⊢
  refine ⟨List.rel_append (h.rows.imp fun r w hr => ?_) (.cons ?_ .nil), ?_⟩
  · rw [hms]
    exact hr.extend (fun z hz => hz.mono hadds.grows ⟨news, hif⟩) [_]
  · -- the new row lists the new interfaces
    rw [hms]
    refine Table.has_add _ ⟨hname, htechnology, ?_⟩
    rw [hif]
    exact Ref.forall₂_block _ hmirrors
  · rw [hlisted, Model.operationsOf_extend hif fun i hi => hp.houses.listed_lt hi]
    exact h.operations.trans hadds

end Draft

/-! ### Contracts -/

section Contracts

variable {m : Model} {s : Ref .system}

/-- **What fits a reference** among the interfaces of a system is what the reference means there, if interfaces know who
lists them. -/
theorem mem_filter_fits (hprov : ∀ r ∈ (m.system s).microservices, ∀ i ∈ (m.microservice r).interfaces,
      (m.interface i).provider = some r) {reference : String} {i : Ref .interface} :
    i ∈ (m.providedInterfaces s).filter ((OwnerReference.of reference).fits m) ↔ m.RefersTo s reference i := by
  rw [List.mem_filter, Model.providedInterfaces, List.mem_flatMap]
  constructor
  · rintro ⟨⟨r, hr, hi⟩, hfits⟩
    exact ⟨r, hr, hi, (OwnerReference.fits_iff (hprov r hr i hi)).mp hfits⟩
  · rintro ⟨r, hr, hi, hrefers⟩
    exact ⟨⟨r, hr, hi⟩, (OwnerReference.fits_iff (hprov r hr i hi)).mpr hrefers⟩

/-- **A contract that is read mirrors the value**, if interfaces know who lists them. -/
theorem contractOf_mirrors {v : Value} {c : Contract}
    (hprov : ∀ r ∈ (m.system s).microservices, ∀ i ∈ (m.microservice r).interfaces,
      (m.interface i).provider = some r) (h : contractOf m s v = .ok c) : c.Mirrors m s v := by
  obtain ⟨reference, consumer, howner, -, hconsumer, -, hfind, hresolve⟩ := contractOf_eq_ok.mp h
  obtain ⟨hname, before, after, hsplit, hbefore⟩ := List.find?_eq_some_iff_append.mp hfind
  obtain rfl : (m.microservice c.consumer).name = consumer := by simpa using hname
  refine ⟨hconsumer, ⟨before, after, hsplit, fun r hr => by simpa using hbefore r hr⟩, reference, howner,
    fun i => ?_⟩
  rw [← mem_filter_fits hprov, resolveOwner_eq_ok.mp hresolve, List.mem_singleton]

/-- Contracts are read from the microservices and interfaces of the system, and from nothing else. -/
theorem Contract.Mirrors.of_eq {m' : Model} {c : Contract} {v : Value} (h : c.Mirrors m s v)
    (hs : (m'.system s).microservices = (m.system s).microservices) (hms : m'.microservices = m.microservices)
    (hif : m'.interfaces = m.interfaces) : c.Mirrors m' s v := by
  have hm (r : Ref .microservice) : m'.microservice r = m.microservice r := by
    rw [Model.microservice, hms]
    rfl
  have hi (i : Ref .interface) : m'.interface i = m.interface i := by
    rw [Model.interface, hif]
    rfl
  obtain ⟨hconsumer, ⟨before, after, hsplit, hbefore⟩, reference, howner, hrefers⟩ := h
  refine ⟨by rw [hm, hconsumer], ⟨before, after, by rw [hs, hsplit], fun r hr => ?_⟩, reference, howner, fun i => ?_⟩
  · rw [hm, hm]
    exact hbefore r hr
  · rw [← hrefers i, Model.RefersTo, Model.RefersTo, hs]
    simp only [hm, hi]

/-- The model with a new system and its contracts. -/
def Model.withContracts (m : Model) (systems : Table System) (y : System) (cs : List Contract) : Model :=
  { m with
    contracts := m.contracts.extend cs
    systems := systems.add { y with contracts := Ref.block _ m.contracts.size cs.length } }

theorem Model.system_withContracts (m : Model) (systems : Table System) (y : System) (cs : List Contract) :
    (m.withContracts systems y cs).system ⟨systems.size⟩ =
      { y with contracts := Ref.block _ m.contracts.size cs.length } :=
  Table.get_add_size _ _

/-- One more contract. -/
theorem Model.addContract_withContracts (m : Model) (systems : Table System) (y : System) (cs : List Contract)
    (c : Contract) :
    ((m.withContracts systems y cs).addContract c).2.modifySystem ⟨systems.size⟩ (fun y =>
        { y with contracts := y.contracts ++ [⟨(m.withContracts systems y cs).contracts.size⟩] }) =
      m.withContracts systems y (cs ++ [c]) := by
  simp only [withContracts, addContract, modifySystem]
  rw [Table.modify_add_size, Table.add_eq_extend (m.contracts.extend cs), Table.extend_extend, Table.size_extend,
    List.length_append, List.length_singleton, Ref.block_succ]

/-- What the second loop leaves after some items, told by what the rows say. They are read from what the first loop has
left. -/
structure Draft.Agreed (m : Model) (systems : Table System) (y : System) (vs : List Value) (cs : List Contract)
    (d : Draft) : Prop where
  model : d.model = m.withContracts systems y cs
  rows : List.Forall₂ (Contract.Mirrors (m.withContracts systems y []) ⟨systems.size⟩) cs vs

/-- **A round of the second loop.** -/
theorem Draft.Agreed.add {systems : Table System} {y : System} {vs : List Value} {cs : List Contract} {d e : Draft}
    {v : Value} {r : Ref .contract} (h : Agreed m systems y vs cs d)
    (hprov : ∀ r ∈ y.microservices, ∀ i ∈ (m.microservice r).interfaces, (m.interface i).provider = some r)
    (hr : buildContract ⟨systems.size⟩ v d = .ok (r, e)) : ∃ c, Agreed m systems y (vs ++ [v]) (cs ++ [c])
      { e with model := e.model.modifySystem ⟨systems.size⟩ fun y => { y with contracts := y.contracts ++ [r] } } := by
  obtain ⟨rfl, c, hc, hmodel⟩ := buildContract_adds hr
  rw [h.model] at hc hmodel
  have hsystem := m.system_withContracts systems y
  have hmirrors : c.Mirrors (m.withContracts systems y cs) ⟨systems.size⟩ v := by
    refine contractOf_mirrors ?_ hc
    rw [hsystem]
    exact hprov
  refine ⟨c, ?_, List.rel_append h.rows (.cons (hmirrors.of_eq ?_ rfl rfl) .nil)⟩
  · rw [hmodel, h.model]
    exact m.addContract_withContracts systems y cs c
  · rw [hsystem, hsystem]

end Contracts

/-! ### Systems -/

/-- The second loop starts where the first one stops. -/
theorem Draft.Populated.agreed {base : Model} {name : String} {team : Option (Ref .team)} {vs : List Value}
    {rs : List (Ref .microservice)} {d : Draft} (h : Populated base (.blank name team) vs rs d) :
    Agreed d.model base.systems { System.blank name team with microservices := rs } [] [] d := by
  refine ⟨?_, .nil⟩
  rw [Model.withContracts, Table.extend_nil]
  exact congrArg (Model.mk _ _ _ _ _ _) h.systems

/-- **What the first loop leaves**, before the second. -/
theorem Draft.exists_mirrored {c c₁ : Draft} {name : String} {team : Option (Ref .team)} {xs : List Value}
    (h : buildMicroservices ⟨c.model.systems.size⟩ xs { c with model := (c.model.addSystem (.blank name team)).2 } =
      .ok (⟨⟩, c₁)) : ∃ rs, Populated c.model (.blank name team) xs rs c₁ ∧ Mirrored c.model xs rs c₁ ∧
        Agreed c₁.model c.model.systems { System.blank name team with microservices := rs } [] [] c₁ := by
  obtain ⟨rs, hrs, hrows⟩ : ∃ rs, Populated c.model (.blank name team) xs rs c₁ ∧ Mirrored c.model xs rs c₁ := by
    refine buildMicroservices_invariant (fun vs d => ∃ rs, Populated c.model (.blank name team) vs rs d ∧
      Mirrored c.model vs rs d) ?_ (fun done v d r d' ⟨rs, hrs, hrows⟩ hr =>
        ⟨_, hrs.add hr, hrows.add hrs hr _ _⟩) h
    exact ⟨[], ⟨rfl, Skeleton.houses_nil rfl rfl, rfl, rfl⟩, .nil, Model.addsOperations_nil rfl rfl⟩
  exact ⟨rs, hrs, hrows, hrs.agreed⟩

/-- **Building a system** from the entries of a document mirrors it. -/
theorem Model.mirrors_of_buildSystem {m : Model} {es : Entries} {s : Ref .system} {e : Draft}
    (h : buildSystem es { model := m } = .ok (s, e)) : e.model.Mirrors s (.mapping es) := by
  obtain ⟨name, team, d, xs, d₁, zs, hname, -, rfl, hxs, hloop₁, hzs, hloop₂⟩ := buildSystem_eq_ok.mp h
  have hxitems : ((Value.mapping es).field "microservices").items = xs := (itemsOf_eq_ok hxs).symm
  have hzitems : ((Value.mapping es).field "contracts").items = zs := (itemsOf_eq_ok hzs).symm
  obtain ⟨rs, hrs, hrows, hstart⟩ := Draft.exists_mirrored hloop₁
  obtain ⟨cs, hmodel, hcs⟩ : ∃ cs, Draft.Agreed d₁.model d.model.systems
      { System.blank name team with microservices := rs } zs cs e :=
    buildContracts_invariant (fun vs c => ∃ cs, Draft.Agreed d₁.model d.model.systems
      { System.blank name team with microservices := rs } vs cs c) ⟨[], hstart⟩
      (fun done v c r c' ⟨cs, hcs⟩ hr => (hcs.add hrs.houses.provider hr).imp' _ fun _ => id) hloop₂
  obtain ⟨n, -, hlisted⟩ := hrs.houses.interfaces
  have hsystem := d₁.model.system_withContracts d.model.systems { System.blank name team with microservices := rs }
  rw [hmodel]
  refine ⟨?_, ?_, ?_, ?_, ?_, ?_, ?_, ?_⟩
  · rw [hsystem]
    exact get_name_of_nameOf hname
  · rw [hsystem, hxitems]
    exact hrows.rows.imp fun r v hr => ⟨hr.1, hr.2.mono (grows_of_eq rfl rfl) ⟨[], (Table.extend_nil _).symm⟩⟩
  · rw [hsystem, hzitems]
    refine Ref.forall₂_block _ (hcs.imp fun c v hc => hc.of_eq ?_ rfl rfl)
    rw [hsystem, hsystem]
  · rw [hsystem]
    show rs.Nodup
    rw [hrs.houses.microservices]
    exact Ref.nodup_block _ _
  · rw [providedInterfaces, hsystem]
    show (d₁.model.skeleton.listed rs).Nodup
    rw [hlisted]
    exact Ref.nodup_block _ _
  · rw [providedInterfaces, hsystem]
    exact hrows.operations.nodup.1
  · rw [providedInterfaces, hsystem]
    exact hrows.operations.nodup.2
  · rw [hsystem]
    exact Ref.nodup_block _ _

/-- **A loaded system mirrors its document**, position by position. -/
theorem Model.mirrors_of_load {m m' : Model} {document : Value} {s : Ref .system}
    (h : m.load document = .ok (s, m')) : m'.Mirrors s document := by
  obtain ⟨es, e, rfl, hb, rfl⟩ := load_eq_ok.mp h
  exact mirrors_of_buildSystem hb

/-- A landscape in which names repeat, and an operation and an interface are used in several places. -/
def repeatsDocument : Value :=
  let parameter := Value.mapping [(.text "name", .text "id"), (.text "type", .text "int")]
  let operation := Value.mapping [(.text "name", .text "get"), (.text "returns", .text "int"),
    (.text "parameters", .list [parameter, parameter])]
  let interface := Value.mapping [(.text "name", .text "X"), (.text "operations", .list [operation])]
  .mapping [
    (.text "name", .text "Repeats"),
    (.text "microservices", .list [
      .mapping [(.text "name", .text "A"), (.text "technology", .text "Java"),
        (.text "interfaces", .list [interface,
          .mapping [(.text "name", .text "Y"), (.text "communicationType", .null),
            (.text "communication_type", .text "sync"), (.text "operations", .list [operation, operation])]])],
      .mapping [(.text "name", .text "A"), (.text "interfaces", .list [interface])]]),
    (.text "contracts", .list [
      .mapping [(.text "owner", .text "Y"), (.text "consumer", .text "A")],
      .mapping [(.text "owner", .text "A/Y"), (.text "consumer", .text "A")]])]

/-- The landscape with the repetitions is loaded with everything that is in it. -/
theorem Model.mirrors_of_load_repeats : ∃ s m', Model.load {} repeatsDocument = .ok (s, m') ∧
    m'.Mirrors s repeatsDocument ∧
    (m'.system s).microservices.length = 2 ∧ (m'.providedInterfaces s).length = 3 ∧
    (m'.operationsOf (m'.providedInterfaces s)).length = 4 ∧
    (m'.parametersOf (m'.operationsOf (m'.providedInterfaces s))).length = 8 ∧
    (m'.system s).contracts.length = 2 := by
  obtain ⟨s, m', h, hp⟩ := Model.exists_load_of_any {} repeatsDocument (fun r =>
    let operations := r.2.operationsOf (r.2.providedInterfaces r.1)
    (r.2.system r.1).microservices.length = 2 ∧ (r.2.providedInterfaces r.1).length = 3 ∧ operations.length = 4 ∧
      (r.2.parametersOf operations).length = 8 ∧ (r.2.system r.1).contracts.length = 2) (by decide +kernel)
  exact ⟨s, m', h, Model.mirrors_of_load h, of_decide_eq_true hp⟩

end Landscape
