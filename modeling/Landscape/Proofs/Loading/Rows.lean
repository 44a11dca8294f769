import Landscape.Proofs.Loading.Mirror

/-!
# What building adds

Loading a document adds rows to the tables of a model and changes no row that was there. This file says which rows
each step of building adds, and that they mirror what the document says at that place
(`Landscape.Microservice.Mirrors` and its likes).

Parameters and operations are new rows of their own tables (`Landscape.buildParameter_adds`,
`Landscape.buildOperation_adds`). The tables that say who provides what to whom are the skeleton of a model
(`Landscape.Model.skeleton`): teams, parameters and operations touch none of them (`Landscape.Build.Keeps`), an
interface is one row (`Landscape.buildInterface_adds`), and a microservice is one row together with the rows of its
interfaces, which all name it as their provider (`Landscape.buildMicroservice_adds`).
-/

namespace Landscape

/-! ### The tables that matter -/

/-- The tables that say who provides what to whom. -/
structure Skeleton where
  interfaces : Table Interface
  microservices : Table Microservice
  contracts : Table Contract
  systems : Table System

/-- The skeleton of a model. -/
def Model.skeleton (m : Model) : Skeleton :=
  ⟨m.interfaces, m.microservices, m.contracts, m.systems⟩

/-- A step of building that changes nothing in the skeleton, if it succeeds. -/
def Build.Keeps {α : Type} (act : Build α) : Prop :=
  ∀ d a e, act d = .ok (a, e) → e.model.skeleton = d.model.skeleton

namespace Build

variable {α β : Type}

theorem keeps_pure (a : α) : Keeps (pure a) :=
  leaves_pure a

theorem keeps_lift (r : Except DocumentFault α) : Keeps (liftM r : Build α) :=
  leaves_lift r

theorem keeps_adding {f : Model → α × Model} (hf : ∀ m, (f m).2.skeleton = m.skeleton) :
    Keeps (adding f) :=
  leaves_adding fun d => hf d.model

theorem Keeps.bind {act : Build α} {next : α → Build β} (h : Keeps act) (hn : ∀ a, Keeps (next a)) :
    Keeps (act >>= next) :=
  Leaves.bind h hn

theorem Keeps.mapM {f : α → Build β} (hf : ∀ a, Keeps (f a)) (xs : List α) : Keeps (xs.mapM f) :=
  Leaves.mapM hf xs

end Build

/-! ### Teams, parameters and operations -/

/-- A team changes nothing but the teams. -/
theorem model_of_buildTeam {key : Value} {d e : Draft} {r : Ref .team} (h : buildTeam key d = .ok (r, e)) :
    ∃ teams, e.model = { d.model with teams } := by
  cases hkey : key.unhashable? with
  | some kind =>
    simp only [buildTeam, hkey] at h
    cases h
  | none =>
    simp only [buildTeam, hkey] at h
    obtain ⟨_, _, ⟨⟩, h⟩ := Build.bind_eq_ok.mp h
    cases hfound : d.teams.find? fun t => t.1.same key with
    | some t =>
      rw [hfound] at h
      obtain ⟨-, rfl⟩ := Build.pure_eq_ok.mp h
      exact ⟨d.model.teams, rfl⟩
    | none =>
      rw [hfound] at h
      simp only [Build.bind_eq_ok, Build.adding_eq_ok, Build.pure_eq_ok] at h
      obtain ⟨_, _, ⟨-, rfl⟩, _, _, ⟨⟩, -, rfl⟩ := h
      exact ⟨_, rfl⟩

theorem model_of_buildTeam? {key : Value} {d e : Draft} {t : Option (Ref .team)}
    (h : buildTeam? key d = .ok (t, e)) : ∃ teams, e.model = { d.model with teams } := by
  rw [buildTeam?] at h
  split at h
  · rw [map_eq_pure_bind] at h
    obtain ⟨r, c, hr, h⟩ := Build.bind_eq_ok.mp h
    obtain ⟨-, rfl⟩ := Build.pure_eq_ok.mp h
    exact model_of_buildTeam hr
  · obtain ⟨-, rfl⟩ := Build.pure_eq_ok.mp h
    exact ⟨d.model.teams, rfl⟩

open Build in
theorem keeps_buildTeam? (key : Value) : Keeps (buildTeam? key) := by
  intro d t e h
  obtain ⟨teams, he⟩ := model_of_buildTeam? h
  rw [he]
  rfl

open Build in
theorem keeps_buildParameter (v : Value) : Keeps (buildParameter v) :=
  (keeps_lift _).bind fun _ => (keeps_lift _).bind fun _ => keeps_adding fun _ => rfl

open Build in
theorem keeps_buildOperation (v : Value) : Keeps (buildOperation v) :=
  (keeps_lift _).bind fun _ => (keeps_lift _).bind fun _ => (keeps_lift _).bind fun xs =>
    (Keeps.mapM keeps_buildParameter xs).bind fun _ => keeps_adding fun _ => rfl

/-! ### The teams of a draft -/

/-- The teams that a document has named so far, with the table that they are rows of. -/
structure Registry where
  entries : List (Value × Ref .team)
  table : Table Team

/-- The registry of a draft. -/
def Draft.registry (d : Draft) : Registry :=
  ⟨d.teams, d.model.teams⟩

section Leaves

open Build

theorem leaves_buildParameter (v : Value) : Leaves Draft.registry (buildParameter v) :=
  (leaves_lift _).bind fun _ => (leaves_lift _).bind fun _ => leaves_adding fun _ => rfl

theorem leaves_buildOperation (v : Value) : Leaves Draft.registry (buildOperation v) :=
  (leaves_lift _).bind fun _ => (leaves_lift _).bind fun _ => (leaves_lift _).bind fun xs =>
    (Leaves.mapM leaves_buildParameter xs).bind fun _ => leaves_adding fun _ => rfl

/-- **Interfaces name no teams.** -/
theorem leaves_buildInterface (v : Value) : Leaves Draft.registry (buildInterface v) :=
  (leaves_lift _).bind fun _ => (leaves_lift _).bind fun _ => (leaves_lift _).bind fun xs =>
    (Leaves.mapM leaves_buildOperation xs).bind fun _ => leaves_adding fun _ => rfl

end Leaves

/-! ### New rows -/

/-- **A parameter is one new row.** -/
theorem buildParameter_adds {v : Value} {d e : Draft} {r : Ref .parameter} (h : buildParameter v d = .ok (r, e)) :
    r = ⟨d.model.parameters.size⟩ ∧ ∃ p, p.Mirrors v ∧
      e.model = { d.model with parameters := d.model.parameters.add p } := by
  rw [buildParameter] at h
  simp only [Build.bind_eq_ok, Build.lift_eq_ok, Build.adding_eq_ok] at h
  obtain ⟨es, _, ⟨hes, rfl⟩, name, _, ⟨hname, rfl⟩, rfl, rfl⟩ := h
  obtain rfl := entriesOf_eq_ok.mp hes
  exact ⟨rfl, { name, type := es.get "type" }, ⟨get_name_of_nameOf hname, rfl⟩, rfl⟩

/-- Parameters are new rows, in order. -/
theorem mapM_buildParameter_adds {xs : List Value} {d e : Draft} {rs : List (Ref .parameter)}
    (h : xs.mapM buildParameter d = .ok (rs, e)) :
    ∃ ps, e.model = { d.model with parameters := d.model.parameters.extend ps } ∧
      rs = Ref.block _ d.model.parameters.size ps.length ∧ List.Forall₂ Parameter.Mirrors ps xs := by
  refine Build.mapM_invariant (fun done built c => ∃ ps,
    c.model = { d.model with parameters := d.model.parameters.extend ps } ∧
      built = Ref.block _ d.model.parameters.size ps.length ∧ List.Forall₂ Parameter.Mirrors ps done) ?_ ?_ h
  · exact ⟨[], by rw [Table.extend_nil], rfl, .nil⟩
  · rintro done built x r c c' ⟨ps, hc, rfl, hps⟩ hx
    obtain ⟨rfl, p, hp, hc'⟩ := buildParameter_adds hx
    refine ⟨ps ++ [p], ?_, ?_, List.rel_append hps (.cons hp .nil)⟩
    · rw [hc', hc, Table.add_eq_extend, Table.extend_extend]
    · rw [hc, Table.size_extend, List.length_append, List.length_singleton, Ref.block_succ]

/-- **An operation is one new row, with the new rows of its parameters.** -/
theorem buildOperation_adds {v : Value} {d e : Draft} {r : Ref .operation} (h : buildOperation v d = .ok (r, e)) :
    d.model.AddsOperations e.model [r] ∧ e.model.operations.Has (Operation.Mirrors e.model · v) r.index := by
  rw [buildOperation] at h
  simp only [Build.bind_eq_ok, Build.lift_eq_ok, Build.adding_eq_ok] at h
  obtain ⟨es, _, ⟨hes, rfl⟩, name, _, ⟨hname, rfl⟩, xs, _, ⟨hxs, rfl⟩, rs, c, hrs, rfl, rfl⟩ := h
  obtain rfl := entriesOf_eq_ok.mp hes
  obtain ⟨ps, hc, rfl, hps⟩ := mapM_buildParameter_adds hrs
  have hp : c.model.parameters = d.model.parameters.extend ps := by rw [hc]
  have ho : c.model.operations = d.model.operations := by rw [hc]
  refine ⟨Model.addsOperations_addOperation hp ho rfl, Table.has_add _ ⟨get_name_of_nameOf hname, rfl, ?_⟩⟩
  have hitems : ((Value.mapping es).field "parameters").items = xs := (itemsOf_eq_ok hxs).symm
  rw [hitems]
  change List.Forall₂ (fun (r : Ref .parameter) w => c.model.parameters.Has (Parameter.Mirrors · w) r.index) _ xs
  rw [hp]
  exact Ref.forall₂_block _ hps

/-- Operations are new rows, in order. -/
theorem mapM_buildOperation_adds {xs : List Value} {d e : Draft} {rs : List (Ref .operation)}
    (h : xs.mapM buildOperation d = .ok (rs, e)) :
    d.model.AddsOperations e.model rs ∧
      List.Forall₂ (fun r w => e.model.operations.Has (Operation.Mirrors e.model · w) r.index) rs xs := by
  refine Build.mapM_invariant (fun done built c => d.model.AddsOperations c.model built ∧
    List.Forall₂ (fun r w => c.model.operations.Has (Operation.Mirrors c.model · w) r.index) built done) ?_ ?_ h
  · exact ⟨Model.addsOperations_nil rfl rfl, .nil⟩
  · rintro done built x r c c' ⟨hadds, hbuilt⟩ hx
    obtain ⟨hadds', hr⟩ := buildOperation_adds hx
    obtain ⟨os, hos⟩ := hadds'.grows.operations
    refine ⟨hadds.trans hadds', List.rel_append (hbuilt.imp fun q w hq => ?_) (.cons hr .nil)⟩
    rw [hos]
    exact hq.extend (fun o ho => ho.mono hadds'.grows) os

/-! ### Interfaces -/

/-- **An interface is one new row.** It mirrors the value, and its operations are new. -/
theorem buildInterface_adds {v : Value} {d e : Draft} {r : Ref .interface}
    (h : buildInterface v d = .ok (r, e)) :
    r = ⟨d.model.interfaces.size⟩ ∧ ∃ x, e.model.skeleton =
      { d.model.skeleton with interfaces := d.model.interfaces.add x } ∧
      d.model.AddsOperations e.model x.operations ∧ x.Mirrors e.model v := by
  rw [buildInterface] at h
  simp only [Build.bind_eq_ok, Build.lift_eq_ok] at h
  obtain ⟨es, _, ⟨hes, rfl⟩, name, _, ⟨hname, rfl⟩, xs, _, ⟨hxs, rfl⟩, operations, c, hc, h⟩ := h
  obtain rfl := entriesOf_eq_ok.mp hes
  have hsk : c.model.skeleton = d.model.skeleton :=
    Build.Keeps.mapM keeps_buildOperation xs _ _ _ hc
  have hif : c.model.interfaces = d.model.interfaces := congrArg Skeleton.interfaces hsk
  obtain ⟨rfl, rfl⟩ := Build.adding_eq_ok.mp h
  obtain ⟨hadds, hoperations⟩ := mapM_buildOperation_adds hc
  have hitems : ((Value.mapping es).field "operations").items = xs := (itemsOf_eq_ok hxs).symm
  let x : Interface := { name, endpoint := es.get "endpoint", communicationType := communicationTypeOf es, operations }
  have hx : x.Mirrors c.model (.mapping es) :=
    ⟨get_name_of_nameOf hname, rfl, communicationTypeOf_eq es, by rw [hitems]; exact hoperations⟩
  refine ⟨congrArg (fun t => Ref.mk (Table.size t)) hif, x, ?_, hadds.of_eq rfl rfl,
    hx.mono (Model.grows_of_eq rfl rfl)⟩
  rw [← hsk, ← hif]
  rfl

/-! ### Microservices -/

/-- The skeleton after providing an interface. -/
def Skeleton.provide (k : Skeleton) (s : Ref .microservice) (i : Ref .interface) : Skeleton :=
  { k with
    interfaces := k.interfaces.modify i.index fun x => { x with provider := some s }
    microservices := k.microservices.modify s.index fun x =>
      { x with interfaces := x.interfaces ++ [i] } }

theorem Model.skeleton_provide (m : Model) (s : Ref .microservice) (i : Ref .interface) :
    (m.provide s i).skeleton = m.skeleton.provide s i :=
  rfl

/-- The skeleton with a new microservice and the new interfaces that it lists. -/
def Skeleton.addMicroservice (k : Skeleton) (x : Microservice) (news : List Interface) : Skeleton :=
  { k with
    interfaces := k.interfaces.extend news
    microservices := k.microservices.add
      { x with interfaces := Ref.block _ k.interfaces.size news.length } }

/-- A new microservice to which one more new interface is provided. -/
theorem Skeleton.provide_addMicroservice (k : Skeleton) (x : Microservice) (news : List Interface)
    (z : Interface) :
    ({ k.addMicroservice x news with interfaces := (k.interfaces.extend news).add z }).provide
        ⟨k.microservices.size⟩ ⟨(k.interfaces.extend news).size⟩ =
      k.addMicroservice x (news ++ [{ z with provider := some ⟨k.microservices.size⟩ }]) := by
  simp only [provide, addMicroservice]
  rw [Table.modify_add_size, Table.modify_add_size, Table.add_eq_extend (k.interfaces.extend news),
    Table.extend_extend, Table.size_extend, List.length_append, List.length_singleton,
    Ref.block_succ]

/-- What the loop over the interfaces of a microservice leaves after some items: a new row for the microservice, and
for each item a new row that mirrors it and names the microservice as the provider. -/
structure Draft.Provided (base : Model) (k : Skeleton) (x : Microservice) (vs : List Value)
    (news : List Interface) (d : Draft) : Prop where
  skeleton : d.model.skeleton = k.addMicroservice x news
  provider : ∀ i ∈ news, i.provider = some ⟨k.microservices.size⟩
  operations : base.AddsOperations d.model (news.flatMap Interface.operations)
  mirrors : List.Forall₂ (Interface.Mirrors d.model) news vs

/-- **A round of this loop.** -/
theorem Draft.Provided.add {base : Model} {k : Skeleton} {x : Microservice} {vs : List Value}
    {news : List Interface} {d e : Draft} {v : Value} {r : Ref .interface} (h : d.Provided base k x vs news)
    (hr : buildInterface v d = .ok (r, e)) : ∃ z,
      Draft.Provided base k x (vs ++ [v]) (news ++ [z])
        { e with model := e.model.provide ⟨k.microservices.size⟩ r } := by
  obtain ⟨rfl, z, hsk, hadds, hmirrors⟩ := buildInterface_adds hr
  have hif : d.model.interfaces = k.interfaces.extend news := congrArg Skeleton.interfaces h.skeleton
  rw [hif, h.skeleton] at hsk
  -- providing the new interface touches neither operations nor parameters
  have hgrows : e.model.Grows (e.model.provide ⟨k.microservices.size⟩ ⟨d.model.interfaces.size⟩) :=
    Model.grows_of_eq rfl rfl
  refine ⟨{ z with provider := some ⟨k.microservices.size⟩ }, ?_, ?_, ?_, ?_⟩
  · rw [Model.skeleton_provide, hsk, hif]
    exact Skeleton.provide_addMicroservice k x news z
  · intro i hi
    rcases List.mem_append.mp hi with hi | hi
    · exact h.provider i hi
    · rw [List.mem_singleton.mp hi]
  · rw [List.flatMap_append, List.flatMap_singleton]
    exact (h.operations.trans hadds).of_eq rfl rfl
  · refine List.rel_append (h.mirrors.imp fun i w hi => ?_) (.cons ?_ .nil)
    · exact (hi.mono hadds.grows).mono hgrows
    · exact (hmirrors.mono hgrows).withProvider _

/-- **A microservice is one new row, with the new rows of its interfaces.** The interfaces are numbered in a row,
and each of them names the microservice as its provider. Row by row they mirror what is listed in the value, and their
operations are new. Its team is the only one that is named. -/
theorem buildMicroservice_adds {v : Value} {d e : Draft} {r : Ref .microservice}
    (h : buildMicroservice v d = .ok (r, e)) :
    r = ⟨d.model.microservices.size⟩ ∧ ∃ x news,
      e.Provided d.model d.model.skeleton x (v.field "interfaces").items news ∧
      v.field "name" = .text x.name ∧ x.technology = v.field "technology" ∧
      ∃ c, buildTeam? (v.field "team") d = .ok (x.team, c) ∧ e.registry = c.registry := by
  rw [buildMicroservice] at h
  simp only [Build.bind_eq_ok, Build.lift_eq_ok, Build.adding_eq_ok, Build.pure_eq_ok] at h
  obtain ⟨es, _, ⟨hes, rfl⟩, name, _, ⟨hname, rfl⟩, team, c, hteam, s, _, ⟨hs, rfl⟩, xs, _,
    ⟨hxs, rfl⟩, _, e, hloop, rfl, rfl⟩ := h
  obtain rfl := entriesOf_eq_ok.mp hes
  obtain ⟨teams, hc⟩ := model_of_buildTeam? hteam
  have hsk : c.model.skeleton = d.model.skeleton := keeps_buildTeam? _ _ _ _ hteam
  obtain rfl : s = ⟨d.model.microservices.size⟩ :=
    hs.trans (congrArg (fun k => Ref.mk (Table.size (Skeleton.microservices k))) hsk)
  have hitems : ((Value.mapping es).field "interfaces").items = xs := (itemsOf_eq_ok hxs).symm
  let x : Microservice := { name, team, technology := es.get "technology" }
  obtain ⟨news, hnews⟩ := Build.forIn_invariant
    (fun done c' => ∃ news, c'.Provided d.model d.model.skeleton x done news)
    (by
      refine ⟨[], ?_, by simp, Model.addsOperations_nil ?_ ?_, .nil⟩
      · rw [← hsk]
        simp [Skeleton.addMicroservice]
        rfl
      · exact (congrArg Model.parameters hc :)
      · exact (congrArg Model.operations hc :))
    (by
      rintro done y c₁ u c₂ ⟨news, hnews⟩ hround
      simp only [Build.bind_eq_ok, Build.changing_eq_ok, Build.pure_eq_ok] at hround
      obtain ⟨i, c₃, hi, _, _, rfl, rfl, rfl⟩ := hround
      obtain ⟨z, hz⟩ := hnews.add hi
      exact ⟨rfl, _, hz⟩) hloop
  have hregistry : e.registry = c.registry := by
    refine (Build.Leaves.forIn (fun y _ => ?_) xs _ _ _ hloop).trans rfl
    exact (leaves_buildInterface y).bind fun i => (Build.leaves_changing fun _ => rfl).bind fun _ => Build.leaves_pure _
  rw [hitems]
  exact ⟨rfl, x, news, hnews, get_name_of_nameOf hname, rfl, c, hteam, hregistry⟩

end Landscape
