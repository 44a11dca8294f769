import Landscape.Proofs.Loading.Closed
import Landscape.Proofs.Loading.Mirrored
import Landscape.Proofs.Value.Sameness
import Mathlib.Data.List.Find

/-!
# Teams are shared by key

A loaded document has one team for each key that it writes. Who has the team of a key is the first place that spells it,
and the places after it only find it again, so a team is named as its key is spelled first
(`Landscape.Model.teams_of_load`). Keys are the same if they stand for the same thing, whatever their kinds: the whole
number one, the double one and the truth value are one key.

The load-bearing fact is `Landscape.Registry.Serves`, of the list of teams that is carried from place to place: what it
finds for a key is what is found in the document as far as it was read, and it has given each place there what it finds
for its key. A place that counts as nothing is given no team. Finding is looking for the first key that is the same, so
that it finds one thing and the same thing for all spellings of a key rests on sameness being symmetric and transitive
among keys (`Landscape.Value.IsKey.same_iff`), and that a new key finds itself on the key equalling itself. What is not
a number does not: it is found again where it was made, but it does not equal what is found.
-/

namespace Landscape

/-! ### What is shared -/

/-- The team of a system, which only a fragment has. -/
def System.team? (y : System) : Option (Ref .team) :=
  match y.extent with
  | .whole => none
  | .fragment t => t

/-- The teams of a system and of its microservices, in order. -/
def Model.teamsOf (m : Model) (s : Ref .system) : List (Option (Ref .team)) :=
  (m.system s).team? :: (m.system s).microservices.map fun r => (m.microservice r).team

/-- The values of a document that say who has which team: that of the system first, then those of its microservices. -/
def Value.teamValues (document : Value) : List Value :=
  document.field "team" :: (document.field "microservices").items.map (Value.field "team")

/-- **Teams that are shared by key**, among holders with the values that say so. -/
structure Model.SharesTeams (m : Model) (holders : List (Option (Ref .team))) (vs : List Value) : Prop where
  /-- Who has a value that counts as nothing has no team, and everyone else has one that is there. -/
  holds : List.Forall₂ (fun t v => t.isSome = v.isTruthy ∧ ∀ r ∈ t, r.index < m.teams.size) holders vs
  /-- Two of them have one team exactly if their values are equal. -/
  one_iff : ∀ r a u b, (some r, a) ∈ holders.zip vs → (some u, b) ∈ holders.zip vs → (r = u ↔ a.Equals b)
  /-- A team is named as the first value is spelled that counts and is equal. -/
  named : ∀ r a, (some r, a) ∈ holders.zip vs → ∃ before key after, vs = before ++ key :: after ∧
    key.isTruthy = true ∧ key.Equals a ∧ (∀ v ∈ before, v.isTruthy = true → ¬ v.Equals a) ∧ (m.team r).name = key

/-! ### Registries -/

namespace Registry

variable {k : Registry} {seen : List Value} {key v w : Value} {x : Value × Ref .team}

/-- The first entry for a key. -/
def find? (k : Registry) (v : Value) : Option (Value × Ref .team) :=
  k.entries.find? fun e => e.1.same v

/-- The registry with a team for one more key. -/
def add (k : Registry) (key : Value) : Registry :=
  ⟨k.entries ++ [(key, ⟨k.table.size⟩)], k.table.add ⟨key⟩⟩

theorem find?_add (k : Registry) (key v : Value) :
    (k.add key).find? v = (k.find? v).or (if key.same v then some (key, ⟨k.table.size⟩) else none) := by
  rw [find?, add, List.find?_append, List.find?_singleton]
  rfl

theorem of_find?_eq_some (h : k.find? v = some x) : x ∈ k.entries ∧ x.1.same v = true := by
  rw [find?, List.find?_eq_some_iff_append] at h
  obtain ⟨hsame, before, after, hentries, -⟩ := h
  rw [hentries]
  exact ⟨by simp, hsame⟩

/-- **A registry of the keys that were seen.** -/
structure Lists (k : Registry) (seen : List Value) : Prop where
  keys : ∀ v ∈ seen, v.IsKey
  entries : ∀ e ∈ k.entries, e.1 ∈ seen ∧ e.2.index < k.table.size ∧ k.table.get e.2.index = ⟨e.1⟩
  /-- It finds what is seen first. -/
  first : ∀ v, (k.find? v).map Prod.fst = seen.find? fun w => w.same v

theorem lists_nil (table : Table Team) : Lists ⟨[], table⟩ [] where
  keys := by simp
  entries := by simp
  first _ := rfl

/-- Seeing a key again changes nothing. -/
theorem Lists.add_known (h : k.Lists seen) (hkey : key.IsKey) (hfind : k.find? key = some x) :
    k.Lists (seen ++ [key]) := by
  obtain ⟨hmem, hx⟩ := of_find?_eq_some hfind
  have hxkey : x.1.IsKey := h.keys _ (h.entries x hmem).1
  refine ⟨?_, ?_, fun v => ?_⟩
  · intro v hv
    rcases List.mem_append.mp hv with hv | hv
    · exact h.keys v hv
    · rw [List.mem_singleton.mp hv]
      exact hkey
  · intro e he
    obtain ⟨hseen, hrow⟩ := h.entries e he
    exact ⟨List.mem_append_left _ hseen, hrow⟩
  · rw [List.find?_append, ← h.first v]
    cases hv : k.find? v with
    | some e => rfl
    | none =>
      -- what is the same as the key would have been found where the key was
      have hne : key.same v = false := by
        rw [Bool.eq_false_iff]
        intro hsame
        exact List.find?_eq_none.mp hv x hmem (hxkey.same_trans hkey hx hsame)
      simp [hne]

/-- A key that is not found gets a team of its own. -/
theorem Lists.add_new (h : k.Lists seen) (hkey : key.IsKey) : (k.add key).Lists (seen ++ [key]) := by
  refine ⟨?_, ?_, fun v => ?_⟩
  · intro v hv
    rcases List.mem_append.mp hv with hv | hv
    · exact h.keys v hv
    · rw [List.mem_singleton.mp hv]
      exact hkey
  · intro e he
    rcases List.mem_append.mp he with he | he
    · obtain ⟨hseen, hlt, hrow⟩ := h.entries e he
      refine ⟨List.mem_append_left _ hseen, ?_, ?_⟩
      · rw [add, Table.size_add]
        exact Nat.lt_succ_of_lt hlt
      · exact (Table.get_add_of_lt _ _ hlt).trans hrow
    · rw [List.mem_singleton.mp he]
      refine ⟨List.mem_append_right _ (List.mem_singleton_self key), ?_, Table.get_add_size _ _⟩
      rw [add, Table.size_add]
      exact Nat.lt_succ_self _
  · rw [List.find?_append, ← h.first v, find?_add]
    cases k.find? v with
    | some e => rfl
    | none => by_cases hsame : key.same v <;> simp [hsame]

/-- The team that a place is given: none if its value counts as nothing, else what the registry finds for it. -/
inductive Gives (k : Registry) : Option (Ref .team) → Value → Prop
  | nothing {v : Value} (h : v.isTruthy = false) : Gives k none v
  | team {v key : Value} {r : Ref .team} (h : v.isTruthy = true) (hfind : k.find? v = some (key, r)) :
    Gives k (some r) v

/-- **A registry that serves some places**: it lists the keys that are written there, and has given each place what it
finds for its key. -/
structure Serves (k : Registry) (ts : List (Option (Ref .team))) (vs : List Value) : Prop where
  lists : k.Lists (vs.filter Value.isTruthy)
  gives : List.Forall₂ k.Gives ts vs

/-- What is found is still found when there is one more team. -/
theorem Gives.add {t : Option (Ref .team)} (h : k.Gives t v) : (k.add key).Gives t v := by
  cases h with
  | nothing h => exact .nothing h
  | @team _ first r h hfind =>
    have hfind' : (k.add key).find? v = some (first, r) := by
      rw [find?_add, hfind]
      rfl
    exact .team h hfind'

end Registry

/-! ### What a registry serves is shared -/

section Sharing

variable {k : Registry} {ts : List (Option (Ref .team))} {vs : List Value} {m : Model}

/-- A place with a team has found it for its key. -/
theorem Registry.Serves.exists_find? (h : k.Serves ts vs) {r : Ref .team} {a : Value} (hr : (some r, a) ∈ ts.zip vs) :
    a ∈ vs ∧ a.isTruthy = true ∧ a.IsKey ∧ ∃ key, key.IsKey ∧ key.same a = true ∧ k.find? a = some (key, r) ∧
      k.table.get r.index = ⟨key⟩ := by
  have hmem : a ∈ vs := (List.of_mem_zip hr).2
  cases (List.forall₂_iff_zip.mp h.gives).2 hr with
  | @team _ key _ htruthy hfind =>
    have hkeys {v : Value} (hv : v ∈ vs) (htruthy : v.isTruthy = true) : v.IsKey :=
      h.lists.keys v (List.mem_filter.mpr ⟨hv, htruthy⟩)
    obtain ⟨hentry, hsame⟩ := Registry.of_find?_eq_some hfind
    obtain ⟨hseen, -, hrow⟩ := h.lists.entries _ hentry
    obtain ⟨hkey, hkeyTruthy⟩ := List.mem_filter.mp hseen
    exact ⟨hmem, htruthy, hkeys hmem htruthy, key, hkeys hkey hkeyTruthy, hsame, hfind, hrow⟩

/-- **What a registry serves is shared by key**, if every key equals itself. -/
theorem Registry.Serves.sharesTeams (h : k.Serves ts vs) (hteams : m.teams = k.table)
    (hself : ∀ v ∈ vs, v.isTruthy = true → v.Equals v) : m.SharesTeams ts vs := by
  refine ⟨h.gives.imp fun t v hv => ?_, ?_, ?_⟩
  · cases hv with
    | nothing htruthy => exact ⟨htruthy.symm, nofun⟩
    | @team _ key r htruthy hfind =>
      refine ⟨htruthy.symm, fun u hu => ?_⟩
      rw [hteams, ← Option.some.inj hu]
      exact (h.lists.entries _ (Registry.of_find?_eq_some hfind).1).2.1
  · intro r a u b hr hu
    obtain ⟨ha, hatruthy, hakey, key, hkey, hsame, hfind, hrow⟩ := h.exists_find? hr
    obtain ⟨hb, hbtruthy, hbkey, key', hkey', hsame', hfind', hrow'⟩ := h.exists_find? hu
    rw [hakey.equals_iff (hself a ha hatruthy)]
    constructor
    · rintro rfl
      obtain rfl : key = key' := congrArg Team.name (hrow.symm.trans hrow')
      exact hakey.same_trans hkey (hkey.same_symm hakey hsame) hsame'
    · -- both find the same, since what is the same as the one is the same as the other
      intro hab
      have hcongr : k.find? a = k.find? b := by
        refine List.find?_congr fun e he => ?_
        have hekey : e.1.IsKey := h.lists.keys _ (h.lists.entries e he).1
        rw [Bool.eq_iff_iff]
        exact ⟨fun hea => hekey.same_trans hakey hea hab,
          fun heb => hekey.same_trans hbkey heb (hakey.same_symm hbkey hab)⟩
      rw [hfind, hfind'] at hcongr
      exact congrArg Prod.snd (Option.some.inj hcongr)
  · intro r a hr
    obtain ⟨ha, hatruthy, hakey, key, hkey, hsame, hfind, hrow⟩ := h.exists_find? hr
    have hfirst := h.lists.first a
    rw [hfind, Option.map_some, List.find?_filter, eq_comm, List.find?_eq_some_iff_append] at hfirst
    obtain ⟨hp, before, after, hvs, hbefore⟩ := hfirst
    obtain ⟨hkeyTruthy, -⟩ := of_decide_eq_true hp
    have hkeyMem : key ∈ vs := by simp [hvs]
    refine ⟨before, key, after, hvs, hkeyTruthy, (hkey.equals_iff (hself key hkeyMem hkeyTruthy)).mpr hsame, ?_, ?_⟩
    · intro v hv htruthy hequals
      have hvkey : v.IsKey := h.lists.keys v (List.mem_filter.mpr ⟨by simp [hvs, hv], htruthy⟩)
      have hvsame : v.same a = true := (hvkey.same_iff a).mpr hequals.2
      simpa [htruthy, hvsame] using hbefore v hv
    · rw [Model.team, hteams, hrow]

end Sharing

/-! ### Building -/

/-- **A team is found or added.** -/
theorem registry_of_buildTeam {key : Value} {d e : Draft} {r : Ref .team} (h : buildTeam key d = .ok (r, e)) :
    key.IsKey ∧ ((∃ first, d.registry.find? key = some (first, r) ∧ e.registry = d.registry) ∨
      d.registry.find? key = none ∧ r = ⟨d.registry.table.size⟩ ∧ e.registry = d.registry.add key) := by
  have hkey : key.IsKey := succeeds_buildTeam.mp ⟨r, e, h⟩
  have hnone : key.unhashable? = none := (Value.isKey_iff key).mp hkey
  simp only [buildTeam, hnone] at h
  obtain ⟨_, _, ⟨⟩, h⟩ := Build.bind_eq_ok.mp h
  refine ⟨hkey, ?_⟩
  cases hfound : d.teams.find? fun t => t.1.same key with
  | some t =>
    rw [hfound] at h
    obtain ⟨rfl, rfl⟩ := Build.pure_eq_ok.mp h
    exact .inl ⟨t.1, hfound, rfl⟩
  | none =>
    rw [hfound] at h
    simp only [Build.bind_eq_ok, Build.adding_eq_ok, Build.pure_eq_ok] at h
    obtain ⟨_, _, ⟨rfl, rfl⟩, _, _, ⟨⟩, rfl, rfl⟩ := h
    exact .inr ⟨hfound, rfl, rfl⟩

/-- **One more place.** -/
theorem Registry.Serves.add {ts : List (Option (Ref .team))} {vs : List Value} {v : Value} {d e : Draft}
    {t : Option (Ref .team)} (h : d.registry.Serves ts vs) (hv : v.isTruthy = true → v.Equals v)
    (hb : buildTeam? v d = .ok (t, e)) : e.registry.Serves (ts ++ [t]) (vs ++ [v]) := by
  rw [buildTeam?] at hb
  cases htruthy : v.isTruthy with
  | false =>
    rw [htruthy, if_neg Bool.false_ne_true] at hb
    obtain ⟨rfl, rfl⟩ := Build.pure_eq_ok.mp hb
    refine ⟨?_, List.rel_append h.gives (.cons (.nothing htruthy) .nil)⟩
    simpa [htruthy] using h.lists
  | true =>
    rw [htruthy, if_pos rfl, map_eq_pure_bind] at hb
    obtain ⟨r, c, hr, hc⟩ := Build.bind_eq_ok.mp hb
    obtain ⟨rfl, rfl⟩ := Build.pure_eq_ok.mp hc
    have hseen : (vs ++ [v]).filter Value.isTruthy = vs.filter Value.isTruthy ++ [v] := by simp [htruthy]
    obtain ⟨hkey, ⟨first, hfind, heq⟩ | ⟨hfind, rfl, heq⟩⟩ := registry_of_buildTeam hr
    · refine ⟨?_, ?_⟩
      · rw [hseen, heq]
        exact h.lists.add_known hkey hfind
      · rw [heq]
        exact List.rel_append h.gives (.cons (.team htruthy hfind) .nil)
    · -- the new entry is the first that the key finds, itself
      have hself : (d.registry.add v).find? v = some (v, ⟨d.registry.table.size⟩) := by
        rw [Registry.find?_add, hfind, (hkey.same_iff v).mpr (hv htruthy).2]
        rfl
      refine ⟨?_, ?_⟩
      · rw [hseen, heq]
        exact h.lists.add_new hkey
      · rw [heq]
        exact List.rel_append (h.gives.imp fun t w hw => hw.add) (.cons (.team htruthy hself) .nil)

/-! ### Loading -/

/-- **A round of the first loop.** -/
theorem Draft.Populated.serves_add {base : Model} {y : System} {done : List Value} {rs : List (Ref .microservice)}
    {d e : Draft} {ts : List (Option (Ref .team))} {vs : List Value} {v : Value} {r : Ref .microservice}
    (h : Populated base y done rs d) (hs : d.registry.Serves (ts ++ rs.map fun r => (d.model.microservice r).team) vs)
    (hv : (v.field "team").isTruthy = true → (v.field "team").Equals (v.field "team"))
    (hr : buildMicroservice v d = .ok (r, e)) :
    e.registry.Serves (ts ++ (rs ++ [r]).map fun r => (e.model.microservice r).team) (vs ++ [v.field "team"]) := by
  obtain ⟨rfl, x, news, hnews, -, -, c, hteam, hregistry⟩ := buildMicroservice_adds hr
  have hms : e.model.microservices = (d.model.skeleton.addMicroservice x news).microservices :=
    congrArg Skeleton.microservices hnews.skeleton
  have hold : rs.map (fun r => (e.model.microservice r).team) = rs.map fun r => (d.model.microservice r).team := by
    refine List.map_congr_left fun r hr => ?_
    rw [Model.microservice, hms]
    exact congrArg Microservice.team (Skeleton.get_addMicroservice_of_lt x news (h.houses.index_lt hr))
  have hnew : (e.model.microservice ⟨d.model.microservices.size⟩).team = x.team := by
    rw [Model.microservice, hms]
    exact (congrArg Microservice.team (Skeleton.get_addMicroservice_size (k := d.model.skeleton) x news) :)
  rw [List.map_append, hold, List.map_singleton, hnew, ← List.append_assoc, hregistry]
  exact hs.add hv hteam

namespace Model

/-- **What building a system leaves** of its teams. -/
theorem sharesTeams_of_buildSystem {m : Model} {es : Entries} {s : Ref .system} {e : Draft}
    (h : buildSystem es { model := m } = .ok (s, e))
    (hself : ∀ v ∈ (Value.mapping es).teamValues, v.isTruthy = true → v.Equals v) :
    e.model.SharesTeams (e.model.teamsOf s) (Value.mapping es).teamValues ∧
      ((∃ t, (e.model.system s).extent = .fragment t) ↔ (es.get "team").isTruthy = true) := by
  obtain ⟨name, team, d, xs, d₁, zs, -, hteam, rfl, hxs, hloop₁, -, hloop₂⟩ := buildSystem_eq_ok.mp h
  have hitems : ((Value.mapping es).field "microservices").items = xs := (itemsOf_eq_ok hxs).symm
  have hvalues : (Value.mapping es).teamValues = es.get "team" :: xs.map (Value.field "team") := by
    rw [Value.teamValues, hitems]
    rfl
  rw [hvalues, List.forall_mem_cons] at hself
  have hstart : d.registry.Serves [team] [es.get "team"] := by
    have hnone : Draft.registry { model := m } |>.Serves [] [] := ⟨Registry.lists_nil _, .nil⟩
    exact hnone.add hself.1 hteam
  -- the first loop: each microservice finds its team after those before it
  obtain ⟨rs, hrs, hserves⟩ : ∃ rs, Draft.Populated d.model (.blank name team) xs rs d₁ ∧
      d₁.registry.Serves ([team] ++ rs.map fun r => (d₁.model.microservice r).team)
        ([es.get "team"] ++ xs.map (Value.field "team")) := by
    refine buildMicroservices_invariant (fun done c =>
      (∀ v ∈ done.map (Value.field "team"), v.isTruthy = true → v.Equals v) →
        ∃ rs, Draft.Populated d.model (.blank name team) done rs c ∧
          c.registry.Serves ([team] ++ rs.map fun r => (c.model.microservice r).team)
            ([es.get "team"] ++ done.map (Value.field "team"))) ?_ ?_ hloop₁ hself.2
    · intro _
      exact ⟨[], ⟨rfl, Skeleton.houses_nil rfl rfl, rfl, rfl⟩, hstart⟩
    · intro done v c r c' ih hr hdone
      rw [List.map_append, List.forall_mem_append] at hdone
      obtain ⟨rs, hrs, hserves⟩ := ih hdone.1
      have hvs : [es.get "team"] ++ (done ++ [v]).map (Value.field "team") =
          [es.get "team"] ++ done.map (Value.field "team") ++ [v.field "team"] := by simp
      have hround := hrs.serves_add hserves (hdone.2 _ (List.mem_singleton_self _)) hr
      rw [← hvs] at hround
      exact ⟨rs ++ [r], hrs.add hr, hround⟩
  -- the second loop adds contracts and nothing else
  obtain ⟨cs, hmodel, -⟩ : ∃ cs, Draft.Agreed d₁.model d.model.systems
      { System.blank name team with microservices := rs } zs cs e :=
    buildContracts_invariant (fun vs c => ∃ cs, Draft.Agreed d₁.model d.model.systems
      { System.blank name team with microservices := rs } vs cs c) ⟨[], hrs.agreed⟩
      (fun done v c r c' ⟨cs, hcs⟩ hr => (hcs.add hrs.houses.provider hr).imp' _ fun _ => id) hloop₂
  have hsystem : e.model.system ⟨d.model.systems.size⟩ = { System.blank name team with
      microservices := rs, contracts := Ref.block _ d₁.model.contracts.size cs.length } := by
    rw [hmodel]
    exact d₁.model.system_withContracts _ _ _
  refine ⟨?_, ?_⟩
  · have hteam? : (e.model.system ⟨d.model.systems.size⟩).team? = team := by
      rw [hsystem]
      cases team <;> rfl
    rw [Model.teamsOf, hteam?, hsystem, hvalues, hmodel]
    exact hserves.sharesTeams rfl (List.forall_mem_cons.mpr hself)
  · rw [hsystem]
    cases (List.forall₂_cons.mp hstart.gives).1 with
    | nothing h => simp [System.blank, h]
    | team h _ => simp [System.blank, h]

/-- **Teams are shared by key**, if every value equals itself that says who has which team: two holders have one team
exactly if their values are equal, a team is named as its key is spelled first, a value that counts as nothing names no
team, and the system is a fragment exactly if it has a team of its own. -/
theorem teams_of_load {m m' : Model} {document : Value} {s : Ref .system} (h : m.load document = .ok (s, m'))
    (hself : ∀ v ∈ document.teamValues, v.isTruthy = true → v.Equals v) :
    m'.SharesTeams (m'.teamsOf s) document.teamValues ∧
      ((∃ t, (m'.system s).extent = .fragment t) ↔ (document.field "team").isTruthy = true) := by
  obtain ⟨es, e, rfl, hb, rfl⟩ := load_eq_ok.mp h
  exact sharesTeams_of_buildSystem hb hself

end Model

/-- A landscape whose teams are spelled in several kinds, and where not everybody has one. -/
def teamsDocument : Value :=
  let microservice (name : String) (team : List (Value × Value)) : Value := .mapping ((.text "name", .text name) :: team)
  .mapping [
    (.text "name", .text "Teams"),
    (.text "team", .int 1),
    (.text "microservices", .list [
      microservice "A" [(.text "team", .text "Core")],
      microservice "B" [(.text "team", .float (.finite false 1 0))],
      microservice "C" [(.text "team", .int 0)],
      microservice "D" [(.text "team", .bool true)],
      microservice "E" [],
      microservice "F" [(.text "team", .text "Core")]])]

/-- One, as a whole number, as a double and as a truth value, is one team, and zero is none. -/
theorem Model.teams_of_load_kinds : ∃ s m', Model.load {} teamsDocument = .ok (s, m') ∧
    m'.SharesTeams (m'.teamsOf s) teamsDocument.teamValues ∧
    m'.teamsOf s = [some ⟨0⟩, some ⟨1⟩, some ⟨0⟩, none, some ⟨0⟩, none, some ⟨1⟩] ∧
    (∃ t, (m'.system s).extent = .fragment t) := by
  obtain ⟨s, m', h, hp⟩ := Model.exists_load_of_any {} teamsDocument
    (fun r => r.2.teamsOf r.1 = [some ⟨0⟩, some ⟨1⟩, some ⟨0⟩, none, some ⟨0⟩, none, some ⟨1⟩]) (by decide +kernel)
  have hself : ∀ v ∈ teamsDocument.teamValues, v.isTruthy = true → v.Equals v := by
    have hvalues : teamsDocument.teamValues =
        [.int 1, .text "Core", .float (.finite false 1 0), .int 0, .bool true, .null, .text "Core"] := rfl
    simp only [hvalues, List.mem_cons, List.not_mem_nil, or_false]
    rintro v (rfl | rfl | rfl | rfl | rfl | rfl | rfl) -
    all_goals exact ⟨nofun, _, rfl, rfl⟩
  obtain ⟨hshares, hfragment⟩ := Model.teams_of_load h hself
  exact ⟨s, m', h, hshares, of_decide_eq_true hp, hfragment.mpr (by decide +kernel)⟩

end Landscape
