import Landscape.Proofs.Loading.Rows

/-!
# Loaded systems

What a system looks like that comes out of a document. Its microservices are the new rows of their table, in
the order of the document; the interfaces that they list are the new rows of theirs, each listed once and
by its provider (`Landscape.Skeleton.Houses`); and its contracts join only these
(`Landscape.Model.Loaded`). That every loading ends so is `Landscape.Model.loaded_of_load`, and it is so already while
the contracts are read (`Landscape.Model.Reaches`).

Building a system is a loop over the microservices and then one over the contracts (`Landscape.buildSystem_eq_ok`).
Each round adds one microservice or one contract, so whatever is said of a loaded system is an invariant of the one
loop and then of the other (`Landscape.buildMicroservices_invariant`, `Landscape.buildContracts_invariant`).
-/

namespace Landscape

/-! ### Microservices and their interfaces -/

namespace Skeleton

/-- The interfaces that some microservices list, in order. -/
def listed (k : Skeleton) (rs : List (Ref .microservice)) : List (Ref .interface) :=
  rs.flatMap fun r => (k.microservices.get r.index).interfaces

/-- **A skeleton houses some microservices** over another one: they are its new microservices, in order;
what they list are its new interfaces, in order; and each of them provides what it lists. -/
structure Houses (base k : Skeleton) (rs : List (Ref .microservice)) : Prop where
  size : k.microservices.size = base.microservices.size + rs.length
  microservices : rs = Ref.block _ base.microservices.size rs.length
  interfaces : ∃ n, k.interfaces.size = base.interfaces.size + n ∧
    k.listed rs = Ref.block _ base.interfaces.size n
  provider : ∀ r ∈ rs, ∀ i ∈ (k.microservices.get r.index).interfaces,
    (k.interfaces.get i.index).provider = some r

variable {base k : Skeleton} {rs : List (Ref .microservice)}

theorem houses_nil (hm : k.microservices = base.microservices)
    (hi : k.interfaces = base.interfaces) : Houses base k [] where
  size := congrArg Table.size hm
  microservices := rfl
  interfaces := ⟨0, congrArg Table.size hi, rfl⟩
  provider := by simp

theorem Houses.index_lt (h : Houses base k rs) {r : Ref .microservice} (hr : r ∈ rs) :
    r.index < k.microservices.size := by
  rw [h.microservices, Ref.mem_block] at hr
  rw [h.size]
  exact hr.2

theorem Houses.listed_lt (h : Houses base k rs) {i : Ref .interface} (hi : i ∈ k.listed rs) :
    i.index < k.interfaces.size := by
  obtain ⟨n, hsize, hlisted⟩ := h.interfaces
  rw [hlisted, Ref.mem_block] at hi
  rw [hsize]
  exact hi.2

theorem mem_listed {i : Ref .interface} :
    i ∈ k.listed rs ↔ ∃ r ∈ rs, i ∈ (k.microservices.get r.index).interfaces := by
  simp [listed]

/-- A new microservice leaves the others as they are. -/
theorem get_addMicroservice_of_lt (x : Microservice) (news : List Interface) {n : Nat}
    (h : n < k.microservices.size) :
    (k.addMicroservice x news).microservices.get n = k.microservices.get n :=
  Table.get_add_of_lt _ _ h

/-- The new microservice lists the new interfaces. -/
theorem get_addMicroservice_size (x : Microservice) (news : List Interface) :
    (k.addMicroservice x news).microservices.get k.microservices.size =
      { x with interfaces := Ref.block _ k.interfaces.size news.length } :=
  Table.get_add_size _ _

/-- What is listed with one more microservice. -/
theorem Houses.listed_add (h : Houses base k rs) (x : Microservice) (news : List Interface) :
    (k.addMicroservice x news).listed (rs ++ [⟨k.microservices.size⟩]) =
      k.listed rs ++ Ref.block _ k.interfaces.size news.length := by
  have hold : (k.addMicroservice x news).listed rs = k.listed rs :=
    List.flatMap_congr fun r hr =>
      congrArg Microservice.interfaces (get_addMicroservice_of_lt x news (h.index_lt hr))
  have hnew : ((k.addMicroservice x news).microservices.get k.microservices.size).interfaces =
      Ref.block _ k.interfaces.size news.length :=
    congrArg Microservice.interfaces (get_addMicroservice_size x news)
  rw [← hold, listed, List.flatMap_append, List.flatMap_singleton, hnew]
  rfl

/-- **One more microservice.** -/
theorem Houses.add (h : Houses base k rs) (x : Microservice) {news : List Interface}
    (hnews : ∀ i ∈ news, i.provider = some ⟨k.microservices.size⟩) :
    Houses base (k.addMicroservice x news) (rs ++ [⟨k.microservices.size⟩]) := by
  have hold (r : Ref .microservice) (hr : r ∈ rs) :
      (k.addMicroservice x news).microservices.get r.index = k.microservices.get r.index :=
    get_addMicroservice_of_lt x news (h.index_lt hr)
  have hnew : ((k.addMicroservice x news).microservices.get k.microservices.size).interfaces =
      Ref.block _ k.interfaces.size news.length :=
    congrArg Microservice.interfaces (get_addMicroservice_size x news)
  obtain ⟨n, hsize, hlisted⟩ := h.interfaces
  refine ⟨?_, ?_, ⟨n + news.length, ?_, ?_⟩, ?_⟩
  · simp [addMicroservice, h.size, Nat.add_assoc]
  · rw [List.length_append, List.length_singleton, Ref.block_succ, ← h.microservices, ← h.size]
  · rw [addMicroservice, Table.size_extend, hsize, Nat.add_assoc]
  · rw [h.listed_add, hlisted, hsize, Ref.block_append]
  · intro r hr i hi
    rcases List.mem_append.mp hr with hr | hr
    · -- an old microservice: neither its list nor what it lists has changed
      rw [hold r hr] at hi
      have hlt : i.index < k.interfaces.size := h.listed_lt (mem_listed.mpr ⟨r, hr, hi⟩)
      exact (congrArg Interface.provider (Table.get_extend_of_lt _ news hlt)).trans
        (h.provider r hr i hi)
    · -- the new one lists the new interfaces
      obtain rfl := List.mem_singleton.mp hr
      rw [hnew, Ref.mem_block] at hi
      exact hnews _ (Table.get_extend_mem _ hi.1 hi.2)

end Skeleton

/-! ### Contracts -/

/-- The interface that a reference means is the only one that fits. -/
theorem resolveOwner_eq_ok {m : Model} {s : Ref .system} {reference : String} {i : Ref .interface} :
    resolveOwner m s reference = .ok i ↔
      (m.providedInterfaces s).filter ((OwnerReference.of reference).fits m) = [i] := by
  rw [resolveOwner]
  generalize (m.providedInterfaces s).filter ((OwnerReference.of reference).fits m) = fitting
  match fitting with
  | [] => exact ⟨nofun, nofun⟩
  | [j] => simp
  | _ :: _ :: _ => exact ⟨nofun, nofun⟩

/-- It is listed. -/
theorem mem_providedInterfaces_of_resolveOwner {m : Model} {s : Ref .system} {reference : String}
    {i : Ref .interface} (h : resolveOwner m s reference = .ok i) : i ∈ m.providedInterfaces s := by
  have hmem : i ∈ [i] := List.mem_singleton_self i
  rw [← resolveOwner_eq_ok.mp h] at hmem
  exact (List.mem_filter.mp hmem).1

/-- **A contract that is read**: consumer and owner are texts that are not empty, the consumer is the microservice of
that name, and the owner is the interface that the reference means. -/
theorem contractOf_eq_ok {m : Model} {s : Ref .system} {v : Value} {c : Contract} :
    contractOf m s v = .ok c ↔ ∃ owner consumer, v.field "owner" = .text owner ∧ owner ≠ "" ∧
      v.field "consumer" = .text consumer ∧ consumer ≠ "" ∧
      m.findMicroservice? s consumer = some c.consumer ∧ resolveOwner m s owner = .ok c.owner := by
  constructor
  · intro h
    cases v with
    | mapping es =>
      simp only [contractOf] at h
      split at h
      · cases h
      · rename_i hfull
        split at h
        · rename_i owner consumer howner hconsumer
          rw [howner, hconsumer] at hfull
          split at h
          · rename_i x hx
            cases hr : resolveOwner m s owner with
            | error f => rw [hr] at h; cases h
            | ok i =>
              rw [hr] at h
              cases h
              have hne : owner ≠ "" ∧ consumer ≠ "" := by simpa [Value.isFalsy] using hfull
              exact ⟨owner, consumer, howner, hne.1, hconsumer, hne.2, hx, hr⟩
          · cases h
        · cases h
    | _ => cases h
  · rintro ⟨owner, consumer, howner, hne, hconsumer, hne', hfind, hresolve⟩
    cases v with
    | mapping es =>
      have howner' : Entries.get es "owner" = .text owner := howner
      have hconsumer' : Entries.get es "consumer" = .text consumer := hconsumer
      simp [contractOf, howner', hconsumer', Value.isFalsy, hne, hne', hfind, hresolve]
    | _ => cases howner

/-- **Both ends of a contract are in the system**: the consumer is one of its microservices, and one of these
lists the owner. -/
theorem contractOf_mem {m : Model} {s : Ref .system} {v : Value} {c : Contract}
    (h : contractOf m s v = .ok c) :
    c.consumer ∈ (m.system s).microservices ∧ c.owner ∈ m.providedInterfaces s := by
  obtain ⟨_, _, -, -, -, -, hconsumer, howner⟩ := contractOf_eq_ok.mp h
  exact ⟨List.mem_of_find?_eq_some hconsumer, mem_providedInterfaces_of_resolveOwner howner⟩

/-- A contract is one new row. -/
theorem buildContract_adds {s : Ref .system} {v : Value} {d e : Draft} {r : Ref .contract}
    (h : buildContract s v d = .ok (r, e)) :
    r = ⟨d.model.contracts.size⟩ ∧ ∃ c, contractOf d.model s v = .ok c ∧
      e.model = { d.model with contracts := d.model.contracts.add c } := by
  rw [buildContract] at h
  simp only [Build.bind_eq_ok, Build.lift_eq_ok, Build.adding_eq_ok] at h
  obtain ⟨_, _, ⟨⟩, c, _, ⟨hc, rfl⟩, rfl, rfl⟩ := h
  exact ⟨rfl, c, hc, rfl⟩

/-! ### Building a system -/

/-- The first loop of building a system: a microservice for each item. -/
def buildMicroservices (s : Ref .system) (xs : List Value) : Build PUnit :=
  forIn xs ⟨⟩ fun x _ => do
    let r ← buildMicroservice x
    Build.changing fun m => m.modifySystem s fun y => { y with microservices := y.microservices ++ [r] }
    return .yield ⟨⟩

/-- The second loop of building a system: a contract for each item. -/
def buildContracts (s : Ref .system) (xs : List Value) : Build PUnit :=
  forIn xs ⟨⟩ fun x _ => do
    let r ← buildContract s x
    Build.changing fun m => m.modifySystem s fun y => { y with contracts := y.contracts ++ [r] }
    return .yield ⟨⟩

/-- A system before both loops. -/
def System.blank (name : String) (team : Option (Ref .team)) : System where
  name := name
  extent := match team with
    | some t => .fragment (some t)
    | none => .whole

theorem buildSystem_eq (es : Entries) : buildSystem es = (do
    let name ← liftM (nameOf .system es)
    let team ← buildTeam? (es.get "team")
    let s ← Build.adding fun m => m.addSystem (.blank name team)
    let xs ← liftM (itemsOf .microservices .system name es)
    buildMicroservices s xs
    let zs ← liftM (itemsOf .contracts .system name es)
    buildContracts s zs
    return s : Build (Ref .system)) :=
  rfl

/-- **A system is built** by building its team, its microservices and its contracts. -/
theorem buildSystem_eq_ok {es : Entries} {d e : Draft} {s : Ref .system} :
    buildSystem es d = .ok (s, e) ↔ ∃ name team c xs c₁ zs, nameOf .system es = .ok name ∧
      buildTeam? (es.get "team") d = .ok (team, c) ∧ s = ⟨c.model.systems.size⟩ ∧
      itemsOf .microservices .system name es = .ok xs ∧
      buildMicroservices s xs { c with model := (c.model.addSystem (.blank name team)).2 } = .ok (⟨⟩, c₁) ∧
      itemsOf .contracts .system name es = .ok zs ∧ buildContracts s zs c₁ = .ok (⟨⟩, e) := by
  rw [buildSystem_eq]
  simp only [Build.bind_eq_ok, Build.lift_eq_ok, Build.adding_eq_ok, Build.pure_eq_ok]
  constructor
  · rintro ⟨name, _, ⟨hname, rfl⟩, team, c, hteam, _, _, ⟨hs, rfl⟩, xs, _, ⟨hxs, rfl⟩, ⟨⟩, c₁, h₁, zs, _,
      ⟨hzs, rfl⟩, ⟨⟩, _, h₂, rfl, rfl⟩
    exact ⟨name, team, c, xs, c₁, zs, hname, hteam, hs, hxs, h₁, hzs, h₂⟩
  · rintro ⟨name, team, c, xs, c₁, zs, hname, hteam, rfl, hxs, h₁, hzs, h₂⟩
    exact ⟨name, _, ⟨hname, rfl⟩, team, c, hteam, _, _, ⟨rfl, rfl⟩, xs, _, ⟨hxs, rfl⟩, ⟨⟩, c₁, h₁, zs, _,
      ⟨hzs, rfl⟩, ⟨⟩, e, h₂, rfl, rfl⟩

/-- An invariant of the first loop. -/
theorem buildMicroservices_invariant {s : Ref .system} {xs : List Value} {d e : Draft}
    (P : List Value → Draft → Prop) (start : P [] d)
    (keep : ∀ done v c r c', P done c → buildMicroservice v c = .ok (r, c') → P (done ++ [v])
      { c' with model := c'.model.modifySystem s fun y => { y with microservices := y.microservices ++ [r] } })
    (h : buildMicroservices s xs d = .ok (⟨⟩, e)) : P xs e := by
  refine Build.forIn_invariant P start (fun done v c u c' hc hround => ?_) h
  simp only [Build.bind_eq_ok, Build.changing_eq_ok, Build.pure_eq_ok] at hround
  obtain ⟨r, c₁, hr, _, _, rfl, rfl, rfl⟩ := hround
  exact ⟨rfl, keep done v c r c₁ hc hr⟩

/-- An invariant of the second loop. -/
theorem buildContracts_invariant {s : Ref .system} {xs : List Value} {d e : Draft}
    (P : List Value → Draft → Prop) (start : P [] d)
    (keep : ∀ done v c r c', P done c → buildContract s v c = .ok (r, c') → P (done ++ [v])
      { c' with model := c'.model.modifySystem s fun y => { y with contracts := y.contracts ++ [r] } })
    (h : buildContracts s xs d = .ok (⟨⟩, e)) : P xs e := by
  refine Build.forIn_invariant P start (fun done v c u c' hc hround => ?_) h
  simp only [Build.bind_eq_ok, Build.changing_eq_ok, Build.pure_eq_ok] at hround
  obtain ⟨r, c₁, hr, _, _, rfl, rfl, rfl⟩ := hround
  exact ⟨rfl, keep done v c r c₁ hc hr⟩

/-! ### Systems -/

/-- The names of some microservices, as values of a document. -/
def Model.namesOf (m : Model) (rs : List (Ref .microservice)) : List Value :=
  rs.map fun r => .text (m.microservice r).name

/-- The names that the items of a document have. -/
def namesIn (vs : List Value) : List Value :=
  vs.map (Value.field "name")

/-- **What loading makes of a document** in a model: a system over new microservices with new interfaces, which are
named as in the document and in its order, and contracts that stay inside. -/
structure Model.Loaded (m m' : Model) (document : Value) (s : Ref .system) : Prop where
  houses : m.skeleton.Houses m'.skeleton (m'.system s).microservices
  named : m'.namesOf (m'.system s).microservices =
    namesIn (document.field "microservices").items
  contracts : ∀ c ∈ (m'.system s).contracts,
    (m'.contract c).consumer ∈ (m'.system s).microservices ∧
      (m'.contract c).owner ∈ m'.providedInterfaces s

namespace Draft

/-- What the first loop leaves after some items: a system, new in its table, with a microservice for each
item. -/
structure Populated (base : Model) (y : System) (vs : List Value) (rs : List (Ref .microservice))
    (d : Draft) : Prop where
  systems : d.model.systems = base.systems.add { y with microservices := rs }
  houses : base.skeleton.Houses d.model.skeleton rs
  named : d.model.namesOf rs = namesIn vs
  contracts : d.model.contracts = base.contracts

/-- **A round of the first loop.** -/
theorem Populated.add {base : Model} {y : System} {vs : List Value} {rs : List (Ref .microservice)}
    {d e : Draft} {v : Value} {r : Ref .microservice} (h : Populated base y vs rs d)
    (hr : buildMicroservice v d = .ok (r, e)) :
    Populated base y (vs ++ [v]) (rs ++ [r])
      { e with model := e.model.modifySystem ⟨base.systems.size⟩ fun y =>
        { y with microservices := y.microservices ++ [r] } } := by
  obtain ⟨rfl, x, news, ⟨hsk, hnews, -, -⟩, hname, -⟩ := buildMicroservice_adds hr
  have hms : e.model.microservices = (d.model.skeleton.addMicroservice x news).microservices :=
    congrArg Skeleton.microservices hsk
  have hsys : e.model.systems = d.model.systems := congrArg Skeleton.systems hsk
  have hhouses := h.houses.add x hnews
  rw [← hsk] at hhouses
  refine ⟨?_, ⟨hhouses.1, hhouses.2, hhouses.3, hhouses.4⟩, ?_,
    (congrArg Skeleton.contracts hsk).trans h.contracts⟩
  · rw [Model.modifySystem, hsys, h.systems, Table.modify_add_size]
  · have hold : e.model.namesOf rs = d.model.namesOf rs := by
      refine List.map_congr_left fun r hr => ?_
      rw [Model.microservice, hms]
      exact congrArg (fun x => Value.text x.name)
        (Skeleton.get_addMicroservice_of_lt x news (h.houses.index_lt hr))
    have hnew : (e.model.microservice ⟨d.model.microservices.size⟩).name = x.name := by
      have := congrArg Microservice.name
        (Skeleton.get_addMicroservice_size (k := d.model.skeleton) x news)
      rw [← hsk] at this
      exact this
    have happ : e.model.namesOf (rs ++ [⟨d.model.microservices.size⟩]) =
        namesIn vs ++ [v.field "name"] := by
      rw [hname, ← hnew, ← h.named, ← hold]
      exact List.map_append
    rw [namesIn, List.map_append]
    exact happ

/-- What the second loop leaves after some items: new contracts in the system, which stay inside, and the rest as
it was. -/
structure Contracted (k : Skeleton) (systems : Table System) (y : System) (d : Draft) : Prop where
  rows : ∃ cs, d.model.skeleton = { k with
      contracts := k.contracts.extend cs
      systems := systems.add { y with contracts := Ref.block _ k.contracts.size cs.length } } ∧
    ∀ c ∈ cs, c.consumer ∈ y.microservices ∧ c.owner ∈ k.listed y.microservices

/-- **A round of the second loop.** -/
theorem Contracted.add {k : Skeleton} {systems : Table System} {y : System} {d e : Draft} {v : Value}
    {r : Ref .contract} (h : Contracted k systems y d)
    (hr : buildContract ⟨systems.size⟩ v d = .ok (r, e)) :
    Contracted k systems y { e with model := e.model.modifySystem ⟨systems.size⟩ fun y =>
      { y with contracts := y.contracts ++ [r] } } := by
  obtain ⟨cs, hsk, hcs⟩ := h.rows
  obtain ⟨rfl, c, hc, hmodel⟩ := buildContract_adds hr
  have hsk' : e.model.skeleton = { d.model.skeleton with contracts := d.model.contracts.add c } :=
    congrArg Model.skeleton hmodel
  have hcon : d.model.contracts = k.contracts.extend cs := congrArg Skeleton.contracts hsk
  have hsys : e.model.systems = systems.add _ :=
    (congrArg Skeleton.systems hsk').trans (congrArg Skeleton.systems hsk)
  have hy : d.model.system ⟨systems.size⟩ =
      { y with contracts := Ref.block _ k.contracts.size cs.length } := by
    have : d.model.systems = systems.add _ := congrArg Skeleton.systems hsk
    rw [Model.system, this, Table.get_add_size]
  have hmem := contractOf_mem hc
  rw [Model.providedInterfaces, hy] at hmem
  have hlisted : d.model.skeleton.listed y.microservices = k.listed y.microservices := by
    rw [hsk]
    rfl
  refine ⟨cs ++ [c], ?_, fun c' hc' => ?_⟩
  · have hmod : (e.model.modifySystem ⟨systems.size⟩ fun y =>
        { y with contracts := y.contracts ++ [⟨d.model.contracts.size⟩] }).skeleton =
        { e.model.skeleton with systems := e.model.systems.modify systems.size fun y =>
          { y with contracts := y.contracts ++ [⟨d.model.contracts.size⟩] } } := rfl
    rw [hmod, hsys, Table.modify_add_size, hsk', hsk, hcon, Table.add_eq_extend (k.contracts.extend cs),
      Table.extend_extend, Table.size_extend, List.length_append, List.length_singleton,
      Ref.block_succ]
  · rcases List.mem_append.mp hc' with hc' | hc'
    · exact hcs c' hc'
    · rw [List.mem_singleton.mp hc', ← hlisted]
      exact hmem

/-- **What both loops leave** is a loaded system. -/
theorem Populated.loaded {base : Model} {y : System} {vs : List Value}
    {rs : List (Ref .microservice)} {d e : Draft} {document : Value} (h : Populated base y vs rs d)
    (hc : Contracted d.model.skeleton base.systems { y with microservices := rs } e)
    (hvs : (document.field "microservices").items = vs) :
    base.Loaded e.model document ⟨base.systems.size⟩ := by
  obtain ⟨cs, hsk, hcs⟩ := hc.rows
  have hms : e.model.microservices = d.model.microservices := congrArg Skeleton.microservices hsk
  have hrows : e.model.contracts = d.model.contracts.extend cs := congrArg Skeleton.contracts hsk
  have hy : e.model.system ⟨base.systems.size⟩ = { y with
      microservices := rs, contracts := Ref.block _ d.model.contracts.size cs.length } := by
    have hsys : e.model.systems = base.systems.add _ := congrArg Skeleton.systems hsk
    rw [Model.system, hsys, Table.get_add_size]
    rfl
  refine ⟨?_, ?_, ?_⟩
  · rw [hy, hsk]
    exact ⟨h.houses.1, h.houses.2, h.houses.3, h.houses.4⟩
  · have hnames : e.model.namesOf rs = d.model.namesOf rs := by
      simp only [Model.namesOf, Model.microservice, hms]
    rw [hy, hvs, hnames]
    exact h.named
  · intro c hc
    rw [Model.providedInterfaces, hy] at *
    have hmem : e.model.contract c ∈ cs := by
      rw [Ref.mem_block] at hc
      rw [Model.contract, hrows]
      exact Table.get_extend_mem _ hc.1 hc.2
    have hlisted : d.model.skeleton.listed rs = e.model.skeleton.listed rs := by
      rw [hsk]
      rfl
    obtain ⟨hconsumer, howner⟩ := hcs _ hmem
    rw [hlisted] at howner
    exact ⟨hconsumer, howner⟩

end Draft

/-- **What loading reaches** on its way through a document: all microservices are built, and as many contracts from the
first on as it has come to. -/
def Model.Reaches (m m' : Model) (document : Value) (s : Ref .system) : Prop :=
  ∃ (es : Entries) (name : String) (team : Option (Ref .team)) (xs zs : List Value) (d d₁ e : Draft),
    document = .mapping es ∧ nameOf .system es = .ok name ∧
    buildTeam? (es.get "team") { model := m } = .ok (team, d) ∧ s = ⟨d.model.systems.size⟩ ∧
    itemsOf .microservices .system name es = .ok xs ∧
    buildMicroservices s xs { d with model := (d.model.addSystem (.blank name team)).2 } = .ok (⟨⟩, d₁) ∧
    zs <+: (es.get "contracts").items ∧ buildContracts s zs d₁ = .ok (⟨⟩, e) ∧ e.model = m'

/-- **Whatever loading reaches** is a loaded system. -/
theorem Model.Reaches.loaded {m m' : Model} {document : Value} {s : Ref .system} (h : m.Reaches m' document s) :
    m.Loaded m' document s := by
  obtain ⟨es, name, team, xs, zs, d, d₁, e, rfl, -, hteam, rfl, hxs, hloop₁, -, hloop₂, rfl⟩ := h
  have hsk : d.model.skeleton = m.skeleton := keeps_buildTeam? _ _ _ _ hteam
  -- the first loop: a microservice for each item
  obtain ⟨rs, hrs⟩ : ∃ rs, Draft.Populated d.model (.blank name team) xs rs d₁ := by
    refine buildMicroservices_invariant (fun vs c => ∃ rs, Draft.Populated d.model (.blank name team) vs rs c) ?_
      (fun done v c r c' ⟨rs, hrs⟩ hr => ⟨_, hrs.add hr⟩) hloop₁
    exact ⟨[], rfl, Skeleton.houses_nil rfl rfl, rfl, rfl⟩
  -- the second loop: contracts among them
  have hcs : Draft.Contracted d₁.model.skeleton d.model.systems
      { System.blank name team with microservices := rs } e := by
    refine buildContracts_invariant (fun _ c => Draft.Contracted d₁.model.skeleton d.model.systems
      { System.blank name team with microservices := rs } c) ⟨[], ?_, by simp⟩
      (fun done v c r c' hc hr => hc.add hr) hloop₂
    rw [Table.extend_nil, List.length_nil, Ref.block_zero]
    exact congrArg (Skeleton.mk _ _ _) hrs.systems
  have hitems : ((Value.mapping es).field "microservices").items = xs := (itemsOf_eq_ok hxs).symm
  obtain ⟨hhouses, hnamed, hcontracts⟩ := hrs.loaded hcs hitems
  exact ⟨hsk ▸ hhouses, hnamed, hcontracts⟩

/-- A document is loaded by building its system. -/
theorem Model.load_eq_ok {m m' : Model} {document : Value} {s : Ref .system} :
    m.load document = .ok (s, m') ↔ ∃ es e, document = .mapping es ∧
      buildSystem es { model := m } = .ok (s, e) ∧ e.model = m' := by
  cases document with
  | mapping es =>
    rw [Model.load]
    cases hb : (buildSystem es).run { model := m } with
    | error f =>
      constructor
      · rintro ⟨⟩
      · rintro ⟨_, e, ⟨⟩, he, -⟩
        exact nomatch hb.symm.trans he
    | ok p =>
      constructor
      · rintro ⟨⟩
        exact ⟨es, p.2, rfl, hb, rfl⟩
      · rintro ⟨_, e, ⟨⟩, he, rfl⟩
        cases hb.symm.trans he
        rfl
  | _ =>
    constructor
    · rintro ⟨⟩
    · rintro ⟨_, _, ⟨⟩, -⟩

/-- In the end loading has reached all of the document. -/
theorem Model.reaches_of_load {m m' : Model} {document : Value} {s : Ref .system}
    (h : m.load document = .ok (s, m')) : m.Reaches m' document s := by
  obtain ⟨es, e, rfl, hb, rfl⟩ := load_eq_ok.mp h
  obtain ⟨name, team, d, xs, d₁, zs, hname, hteam, hs, hxs, hloop₁, hzs, hloop₂⟩ := buildSystem_eq_ok.mp hb
  exact ⟨es, name, team, xs, zs, d, d₁, e, rfl, hname, hteam, hs, hxs, hloop₁,
    itemsOf_eq_ok hzs ▸ List.prefix_rfl, hloop₂, rfl⟩

/-- **What a document is loaded as.** -/
theorem Model.loaded_of_load {m m' : Model} {document : Value} {s : Ref .system}
    (h : m.load document = .ok (s, m')) : m.Loaded m' document s :=
  (reaches_of_load h).loaded

end Landscape
