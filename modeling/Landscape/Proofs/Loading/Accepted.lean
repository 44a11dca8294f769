import Landscape.Proofs.Loading.Language
import Landscape.Proofs.Loading.Mirrored

/-!
# Loading accepts the language of landscape documents

A document is loaded if and only if it is a landscape document (`Landscape.Model.exists_load_iff`), whatever is in the
model already. For the microservices this is seen item by item. A contract is read among microservices that are built,
but these offer what the document offers, under the same names and in the same order (`Landscape.Model.Offers`), so it
can be read exactly if it is one of the document (`Landscape.Model.Offers.exists_contractOf_iff`).
-/

namespace Landscape

namespace Model

variable {m : Model} {rs : List (Ref .microservice)} {document : Value}

/-! ### What is offered -/

/-- What some microservices offer: for each interface, the name of the microservice and its own. -/
def offers (m : Model) (rs : List (Ref .microservice)) : List (String × String) :=
  rs.flatMap fun r => (m.microservice r).interfaces.map fun i => ((m.microservice r).name, (m.interface i).name)

/-- **Microservices that offer what a document does.** -/
structure Offers (m : Model) (rs : List (Ref .microservice)) (document : Value) : Prop where
  names : m.namesOf rs = namesIn (document.field "microservices").items
  provider : ∀ r ∈ rs, ∀ i ∈ (m.microservice r).interfaces, (m.interface i).provider = some r
  offers : m.offers rs = document.offers

theorem map_eq_map_of_forall₂ {α β γ : Type} {R : α → β → Prop} {xs : List α} {ys : List β} {f : α → γ} {g : β → γ}
    (h : List.Forall₂ R xs ys) (hfg : ∀ x y, R x y → f x = g y) : xs.map f = ys.map g := by
  induction h with
  | nil => rfl
  | cons hxy _ ih => rw [List.map_cons, List.map_cons, ih, hfg _ _ hxy]

/-- What mirrors a document offers what it does. -/
theorem offers_eq_of_forall₂ (h : List.Forall₂ (fun r v => m.microservices.Has (Microservice.Mirrors m · v) r.index)
    rs (document.field "microservices").items) : m.offers rs = document.offers := by
  have hname {v : Value} {s : String} (hv : v.field "name" = .text s) : v.nameText = s := by
    rw [Value.nameText, hv]
    rfl
  rw [offers, Value.offers, List.flatMap_def, List.flatMap_def]
  refine congrArg List.flatten (map_eq_map_of_forall₂ h fun r v hr => ?_)
  refine map_eq_map_of_forall₂ hr.2.interfaces fun i w hi => ?_
  rw [hname hr.2.name, hname hi.2.name]
  rfl

/-- **An owner can be found** if its reference means exactly one of the things that are offered. -/
theorem exists_resolveOwner_iff {s : Ref .system} {reference : String}
    (hprov : ∀ r ∈ (m.system s).microservices, ∀ i ∈ (m.microservice r).interfaces,
      (m.interface i).provider = some r) : (∃ i, resolveOwner m s reference = .ok i) ↔
        (m.offers (m.system s).microservices).countP (fun x => Refers reference x.1 x.2) = 1 := by
  have hcount : (m.offers (m.system s).microservices).countP (fun x => Refers reference x.1 x.2) =
      (m.providedInterfaces s).countP ((OwnerReference.of reference).fits m) := by
    rw [offers, providedInterfaces, List.countP_flatMap, List.countP_flatMap]
    refine congrArg List.sum (List.map_congr_left fun r hr => ?_)
    simp only [Function.comp_apply, List.countP_map]
    refine List.countP_congr fun i hi => ?_
    rw [OwnerReference.fits_iff (hprov r hr i hi)]
    exact decide_eq_true_iff
  rw [hcount, List.countP_eq_length_filter, List.length_eq_one_iff]
  exact exists_congr fun i => resolveOwner_eq_ok

/-- **A consumer can be found** if a microservice has the name. -/
theorem exists_findMicroservice?_iff {s : Ref .system} {name : String} {vs : List Value}
    (hnames : m.namesOf (m.system s).microservices = namesIn vs) :
    (∃ r, m.findMicroservice? s name = some r) ↔ ∃ v ∈ vs, v.field "name" = .text name := by
  have hmem : (∃ v ∈ vs, v.field "name" = .text name) ↔
      Value.text name ∈ m.namesOf (m.system s).microservices := by
    rw [hnames, namesIn, List.mem_map]
  rw [hmem, ← Option.isSome_iff_exists, findMicroservice?, List.find?_isSome, namesOf, List.mem_map]
  simp

/-- **A contract can be read** exactly if it is one of the document. -/
theorem Offers.exists_contractOf_iff {s : Ref .system} {v : Value}
    (h : m.Offers (m.system s).microservices document) :
    (∃ c, contractOf m s v = .ok c) ↔ document.IsContract v := by
  rw [Value.IsContract]
  simp only [← h.offers, ← exists_resolveOwner_iff h.provider, ← exists_findMicroservice?_iff h.names,
    contractOf_eq_ok]
  constructor
  · rintro ⟨c, owner, consumer, howner, hne, hconsumer, hne', hfind, hresolve⟩
    exact ⟨owner, consumer, howner, hne, hconsumer, hne', ⟨_, hfind⟩, _, hresolve⟩
  · rintro ⟨owner, consumer, howner, hne, hconsumer, hne', ⟨r, hfind⟩, i, hresolve⟩
    exact ⟨⟨i, r⟩, owner, consumer, howner, hne, hconsumer, hne', hfind, hresolve⟩

end Model

/-! ### The loops -/

section Loops

open Build

variable {d : Draft} {s : Ref .system}

/-- **The first loop succeeds** if all items are microservices. -/
theorem succeeds_buildMicroservices {xs : List Value} :
    (buildMicroservices s xs).Succeeds d ↔ ∀ x ∈ xs, x.IsMicroservice := by
  refine succeeds_forIn (fun _ => True) trivial (fun x c _ => ?_) fun x c y c' _ hround => ?_
  · exact (succeeds_bind_of_forall fun r c => ⟨_, _, rfl⟩).trans succeeds_buildMicroservice
  · simp only [bind_eq_ok, changing_eq_ok, pure_eq_ok] at hround
    obtain ⟨_, _, -, _, _, -, rfl, -⟩ := hround
    exact ⟨rfl, trivial⟩

/-- A contract is built if it can be read. -/
theorem succeeds_buildContract {v : Value} :
    (buildContract s v).Succeeds d ↔ ∃ c, contractOf d.model s v = .ok c := by
  rw [buildContract, succeeds_bind]
  constructor
  · rintro ⟨_, _, ⟨⟩, h⟩
    obtain ⟨c, hc, -⟩ := succeeds_lift_bind.mp h
    exact ⟨c, hc⟩
  · rintro ⟨c, hc⟩
    exact ⟨d, d, rfl, succeeds_lift_bind.mpr ⟨c, hc, succeeds_adding _⟩⟩

/-- **The second loop succeeds**, after the first, if all items are contracts of the document. -/
theorem succeeds_buildContracts {document : Value} {c c₁ : Draft} {name : String} {team : Option (Ref .team)}
    (h : buildMicroservices ⟨c.model.systems.size⟩ (document.field "microservices").items
      { c with model := (c.model.addSystem (.blank name team)).2 } = .ok (⟨⟩, c₁)) (zs : List Value) :
    (buildContracts ⟨c.model.systems.size⟩ zs).Succeeds c₁ ↔ ∀ z ∈ zs, document.IsContract z := by
  obtain ⟨rs, hrs, hrows, hstart⟩ := Draft.exists_mirrored h
  have hoffers : c₁.model.Offers rs document :=
    ⟨hrs.named, hrs.houses.provider, Model.offers_eq_of_forall₂ hrows.rows⟩
  refine succeeds_forIn (fun d => ∃ vs cs, Draft.Agreed c₁.model c.model.systems
    { System.blank name team with microservices := rs } vs cs d) ⟨[], [], hstart⟩ ?_ ?_
  · rintro z d ⟨vs, cs, hd⟩
    refine (succeeds_bind_of_forall fun r d => ⟨_, _, rfl⟩).trans (succeeds_buildContract.trans ?_)
    -- the contracts that are there already do not matter
    refine Model.Offers.exists_contractOf_iff ?_
    rw [hd.model, Model.system_withContracts]
    exact ⟨hoffers.names, hoffers.provider, hoffers.offers⟩
  · rintro z d u d' ⟨vs, cs, hd⟩ hround
    simp only [bind_eq_ok, changing_eq_ok, pure_eq_ok] at hround
    obtain ⟨r, d₁, hr, _, _, rfl, rfl, rfl⟩ := hround
    obtain ⟨x, hx⟩ := hd.add hrs.houses.provider hr
    exact ⟨rfl, _, _, hx⟩

end Loops

/-! ### Documents -/

/-- **Exactly the landscape documents are loaded.** -/
theorem Model.exists_load_iff (m : Model) (document : Value) :
    (∃ s m', m.load document = .ok (s, m')) ↔ document.IsLandscape := by
  constructor
  · rintro ⟨s, m', h⟩
    obtain ⟨es, e, rfl, hb, rfl⟩ := load_eq_ok.mp h
    obtain ⟨name, team, c, xs, c₁, zs, hname, hteam, rfl, hxs, hloop₁, hzs, hloop₂⟩ := buildSystem_eq_ok.mp hb
    obtain rfl := itemsOf_eq_ok hxs
    refine ⟨⟨⟨es, rfl⟩, (exists_nameOf_iff _).mp ⟨name, hname⟩⟩, succeeds_buildTeam?.mp ⟨team, c, hteam⟩,
      (exists_itemsOf_iff _ _ _).mp ⟨_, hxs, succeeds_buildMicroservices.mp ⟨_, _, hloop₁⟩⟩,
      (exists_itemsOf_iff _ _ _).mp ⟨zs, hzs, (succeeds_buildContracts hloop₁ zs).mp ⟨_, _, hloop₂⟩⟩⟩
  · rintro ⟨⟨⟨es, rfl⟩, hname⟩, hteam, hmicroservices, hcontracts⟩
    obtain ⟨name, hname⟩ := (exists_nameOf_iff .system).mpr hname
    obtain ⟨team, c, hteam⟩ := succeeds_buildTeam?.mpr hteam
    obtain ⟨xs, hxs, hx⟩ := (exists_itemsOf_iff .microservices .system name).mpr hmicroservices
    obtain ⟨zs, hzs, hz⟩ := (exists_itemsOf_iff .contracts .system name).mpr hcontracts
    obtain rfl := itemsOf_eq_ok hxs
    obtain ⟨⟨⟩, c₁, hloop₁⟩ := succeeds_buildMicroservices.mpr hx
    obtain ⟨⟨⟩, e, hloop₂⟩ := (succeeds_buildContracts hloop₁ zs).mpr hz
    exact ⟨_, _, load_eq_ok.mpr ⟨es, e, rfl, buildSystem_eq_ok.mpr
      ⟨name, team, c, _, c₁, zs, hname, hteam, rfl, hxs, hloop₁, hzs, hloop₂⟩, rfl⟩⟩

end Landscape
