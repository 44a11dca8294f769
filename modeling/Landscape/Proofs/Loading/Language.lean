import Landscape.Proofs.Loading.Building
import Landscape.Proofs.Loading.Parts

/-!
# The language of landscape documents

Which values are landscape documents (`Landscape.Value.IsLandscape`), said without building anything. Each part is a
mapping with a name, which is a text that is not all blank (`Landscape.Value.IsPart`); what it lists is absent, null or
a list of parts (`Landscape.Value.Lists`). A contract looks at the whole document: somebody has to have the name of its
consumer, and exactly one interface has to be meant by its owner (`Landscape.Value.IsContract`).

Up to microservices it can be seen from a value alone whether building it succeeds, whatever was built before
(`Landscape.succeeds_buildMicroservice`).
-/

namespace Landscape

namespace Value

/-! ### Names and lists -/

/-- A name: a text with something in it that is no blank. -/
def IsName (v : Value) : Prop :=
  ∃ s, v = .text s ∧ ∃ c ∈ s.toList, isBlank c = false

/-- A part: a mapping with a name. -/
def IsPart (v : Value) : Prop :=
  (∃ es, v = .mapping es) ∧ (v.field "name").IsName

/-- What stands at a key is null, as if it were absent, or a list of values with the property. -/
def Lists (key : String) (p : Value → Prop) (v : Value) : Prop :=
  v.field key = .null ∨ ∃ xs, v.field key = .list xs ∧ ∀ x ∈ xs, p x

/-! ### Keys -/

/-- A value that may be a key: no list, mapping or set, nor a tuple with one of these in it. -/
inductive IsKey : Value → Prop
  | null : IsKey .null
  | bool (b : Bool) : IsKey (.bool b)
  | int (n : Int) : IsKey (.int n)
  | float (x : Double) : IsKey (.float x)
  | nan (place : Nat) : IsKey (.nan place)
  | text (s : String) : IsKey (.text s)
  | bytes (bs : List UInt8) : IsKey (.bytes bs)
  | date (d : Date) : IsKey (.date d)
  | moment (m : Moment) : IsKey (.moment m)
  | tuple (items : List Value) (h : ∀ x ∈ items, IsKey x) : IsKey (.tuple items)

mutual

theorem isKey_of_unhashable? : ∀ v : Value, v.unhashable? = none → v.IsKey
  | .null, _ => .null
  | .bool b, _ => .bool b
  | .int n, _ => .int n
  | .float x, _ => .float x
  | .nan p, _ => .nan p
  | .text s, _ => .text s
  | .bytes bs, _ => .bytes bs
  | .date d, _ => .date d
  | .moment m, _ => .moment m
  | .tuple xs, h => .tuple xs (isKey_of_unhashableAmong? xs (by rwa [unhashable?] at h))

theorem isKey_of_unhashableAmong? : ∀ xs : List Value, unhashableAmong? xs = none → ∀ x ∈ xs, x.IsKey
  | [], _ => nofun
  | x :: xs, h => by
    rw [unhashableAmong?, Option.or_eq_none_iff] at h
    exact List.forall_mem_cons.mpr ⟨isKey_of_unhashable? x h.1, isKey_of_unhashableAmong? xs h.2⟩

end

/-- **What may be a key** can be looked up. -/
theorem isKey_iff (v : Value) : v.IsKey ↔ v.unhashable? = none := by
  refine ⟨fun h => ?_, isKey_of_unhashable? v⟩
  induction h with
  | tuple items _ ih =>
    rw [unhashable?]
    induction items with
    | nil => rfl
    | cons x xs ihxs =>
      rw [unhashableAmong?, Option.or_eq_none_iff]
      exact ⟨ih x (by simp), ihxs (fun y hy => ‹∀ x ∈ _, IsKey x› y (by simp [hy])) fun y hy => ih y (by simp [hy])⟩
  | _ => rfl

/-! ### Parts -/

/-- The team at a value is one that counts as nothing, or a key. -/
def HasTeam (v : Value) : Prop :=
  (v.field "team").isFalsy = true ∨ (v.field "team").IsKey

/-- A parameter of a document. -/
def IsParameter (v : Value) : Prop :=
  v.IsPart

/-- An operation of a document. -/
def IsOperation (v : Value) : Prop :=
  v.IsPart ∧ v.Lists "parameters" IsParameter

/-- An interface of a document. -/
def IsInterface (v : Value) : Prop :=
  v.IsPart ∧ v.Lists "operations" IsOperation

/-- **A microservice of a document.** -/
structure IsMicroservice (v : Value) : Prop where
  part : v.IsPart
  team : v.HasTeam
  interfaces : v.Lists "interfaces" IsInterface

/-! ### Documents -/

/-- The name that is written, empty if there is none. -/
def nameText (v : Value) : String :=
  (v.field "name").asText?.getD ""

/-- What the microservices of a document offer: for each interface, the name of the microservice and its own. -/
def offers (document : Value) : List (String × String) :=
  (document.field "microservices").items.flatMap fun s =>
    (s.field "interfaces").items.map fun i => (s.nameText, i.nameText)

/-- **A contract of a document**: both ends are texts that are not empty, some microservice has the name of the
consumer, and exactly one interface is meant by the owner. -/
def IsContract (document v : Value) : Prop :=
  ∃ owner consumer, v.field "owner" = .text owner ∧ owner ≠ "" ∧
    v.field "consumer" = .text consumer ∧ consumer ≠ "" ∧
    (∃ s ∈ (document.field "microservices").items, s.field "name" = .text consumer) ∧
    document.offers.countP (fun x => Refers owner x.1 x.2) = 1

/-- **A landscape document.** -/
structure IsLandscape (document : Value) : Prop where
  part : document.IsPart
  team : document.HasTeam
  microservices : document.Lists "microservices" IsMicroservice
  contracts : document.Lists "contracts" document.IsContract

end Value

/-! ### Reading -/

/-- A part has a name exactly if there is one to be read. -/
theorem exists_nameOf_iff (part : Part) {es : Entries} :
    (∃ name, nameOf part es = .ok name) ↔ ((Value.mapping es).field "name").IsName := by
  change _ ↔ (es.get "name").IsName
  rw [nameOf]
  cases es.get "name" with
  | text s =>
    have hblank : allBlank s.toList = false ↔ ∃ c ∈ s.toList, isBlank c = false := by
      rw [allBlank, List.all_eq_false]
      simp
    cases hs : allBlank s.toList with
    | true =>
      refine iff_of_false ?_ ?_
      · rw [nameOf?, if_pos hs]
        rintro ⟨_, ⟨⟩⟩
      · rintro ⟨_, ⟨⟩, hc⟩
        rw [hblank.mpr hc] at hs
        cases hs
    | false =>
      refine iff_of_true ?_ ⟨s, rfl, hblank.mp hs⟩
      rw [nameOf?, if_neg (by simp [hs])]
      exact ⟨s, rfl⟩
  | _ =>
    refine iff_of_false ?_ ?_
    · rintro ⟨_, ⟨⟩⟩
    · rintro ⟨_, ⟨⟩, _⟩

/-- A key lists parts exactly if there are items to be built. -/
theorem exists_itemsOf_iff (listing : Listing) (part : Part) (name : String) {es : Entries} {p : Value → Prop} :
    (∃ xs, itemsOf listing part name es = .ok xs ∧ ∀ x ∈ xs, p x) ↔ (Value.mapping es).Lists listing.key p := by
  change _ ↔ es.get listing.key = .null ∨ ∃ xs, es.get listing.key = .list xs ∧ ∀ x ∈ xs, p x
  rw [itemsOf]
  cases es.get listing.key with
  | null => exact iff_of_true ⟨[], rfl, by simp⟩ (.inl rfl)
  | list xs =>
    constructor
    · rintro ⟨_, ⟨⟩, h⟩
      exact .inr ⟨xs, rfl, h⟩
    · rintro (⟨⟨⟩⟩ | ⟨_, ⟨⟩, h⟩)
      exact ⟨xs, rfl, h⟩
  | _ =>
    refine iff_of_false ?_ ?_
    · rintro ⟨_, ⟨⟩, _⟩
    · rintro (⟨⟨⟩⟩ | ⟨_, ⟨⟩, _⟩)

/-! ### Building -/

section Building

open Build

variable {α : Type} {d : Draft} {v : Value}

/-- **A part is built** if its name can be read and the rest succeeds. -/
theorem succeeds_part {part : Part} {next : Entries → String → Build α} {p : Prop}
    (hnext : ∀ es name, v = .mapping es → ((next es name).Succeeds d ↔ p)) :
    (liftM (entriesOf part v) >>= fun es => liftM (nameOf part es) >>= fun name => next es name : Build α).Succeeds d ↔
      v.IsPart ∧ p := by
  simp only [succeeds_lift_bind]
  constructor
  · rintro ⟨es, hes, name, hname, h⟩
    obtain rfl := entriesOf_eq_ok.mp hes
    exact ⟨⟨⟨es, rfl⟩, (exists_nameOf_iff part).mp ⟨name, hname⟩⟩, (hnext es name rfl).mp h⟩
  · rintro ⟨⟨⟨es, rfl⟩, hname⟩, h⟩
    obtain ⟨name, hname⟩ := (exists_nameOf_iff part).mpr hname
    exact ⟨es, rfl, name, hname, (hnext es name rfl).mpr h⟩

/-- **What a part lists is built** if it is a list of parts that are built. -/
theorem succeeds_items {listing : Listing} {part : Part} {name : String} {es : Entries}
    {next : List Value → Build α} {p : Value → Prop} (hnext : ∀ xs, (next xs).Succeeds d ↔ ∀ x ∈ xs, p x) :
    (liftM (itemsOf listing part name es) >>= next : Build α).Succeeds d ↔
      (Value.mapping es).Lists listing.key p := by
  rw [succeeds_lift_bind, ← exists_itemsOf_iff listing part name]
  simp only [hnext]

theorem succeeds_buildParameter : (buildParameter v).Succeeds d ↔ v.IsParameter := by
  rw [buildParameter, Value.IsParameter, ← and_true v.IsPart]
  exact succeeds_part fun es name _ => iff_true_intro (succeeds_adding _)

theorem succeeds_buildOperation : (buildOperation v).Succeeds d ↔ v.IsOperation := by
  refine succeeds_part fun es name hv => ?_
  subst hv
  refine succeeds_items fun xs => ?_
  rw [succeeds_bind_of_forall fun _ _ => succeeds_adding _]
  exact succeeds_mapM (fun _ _ => succeeds_buildParameter) xs

theorem succeeds_buildInterface : (buildInterface v).Succeeds d ↔ v.IsInterface := by
  refine succeeds_part fun es name hv => ?_
  subst hv
  refine succeeds_items fun xs => ?_
  rw [succeeds_bind_of_forall fun _ _ => succeeds_adding _]
  exact succeeds_mapM (fun _ _ => succeeds_buildOperation) xs

/-- A team is built from a key. -/
theorem succeeds_buildTeam {key : Value} : (buildTeam key).Succeeds d ↔ key.IsKey := by
  rw [Value.isKey_iff]
  cases hkey : key.unhashable? with
  | some kind =>
    refine iff_of_false ?_ nofun
    simp only [buildTeam, hkey]
    rintro ⟨_, _, ⟨⟩⟩
  | none =>
    refine iff_of_true ?_ rfl
    simp only [buildTeam, hkey]
    refine succeeds_bind.mpr ⟨d, d, rfl, ?_⟩
    split
    · exact succeeds_pure _
    · exact ⟨_, _, rfl⟩

theorem succeeds_buildTeam? {v : Value} :
    (buildTeam? (v.field "team")).Succeeds d ↔ v.HasTeam := by
  rw [buildTeam?, Value.HasTeam, Value.isTruthy]
  cases hfalsy : (v.field "team").isFalsy with
  | true => exact iff_of_true (succeeds_pure none) (.inl rfl)
  | false =>
    rw [Bool.not_false, if_pos rfl, map_eq_pure_bind, succeeds_bind_of_forall fun _ _ => succeeds_pure _,
      succeeds_buildTeam]
    simp

/-- **A microservice is built** exactly if it is one of a document. -/
theorem succeeds_buildMicroservice : (buildMicroservice v).Succeeds d ↔ v.IsMicroservice := by
  have hiff : v.IsMicroservice ↔ v.IsPart ∧ v.HasTeam ∧ v.Lists "interfaces" Value.IsInterface :=
    ⟨fun ⟨hpart, hteam, hlists⟩ => ⟨hpart, hteam, hlists⟩, fun ⟨hpart, hteam, hlists⟩ => ⟨hpart, hteam, hlists⟩⟩
  rw [hiff]
  refine succeeds_part fun es name hv => ?_
  subst hv
  rw [← succeeds_buildTeam? (d := d)]
  -- from here on only the interfaces can go wrong
  refine succeeds_bind_of_iff fun team c => ?_
  refine (succeeds_bind_of_iff fun s c => succeeds_items fun xs => ?_).trans (and_iff_right (succeeds_adding _))
  refine (succeeds_bind_of_forall fun _ _ => succeeds_pure _).trans ?_
  refine succeeds_forIn (fun _ => True) trivial (fun x c _ => ?_) fun x c y c' _ hround => ?_
  · exact (succeeds_bind_of_forall fun i c => ⟨_, _, rfl⟩).trans succeeds_buildInterface
  · simp only [bind_eq_ok, changing_eq_ok, pure_eq_ok] at hround
    obtain ⟨_, _, -, _, _, -, rfl, -⟩ := hround
    exact ⟨rfl, trivial⟩

end Building

end Landscape
