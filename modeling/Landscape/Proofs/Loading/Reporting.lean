import Landscape.Proofs.Failing
import Landscape.Proofs.Host.Storing
import Landscape.Proofs.Loading.Accepted
import Landscape.Proofs.Settings.Reading

/-!
# What loading reports

Loading a landscape is meant to report whatever is wrong with a document or its file as a fault of the landscape
(`Landscape.Fault.isOfLandscape`), so that whoever loads one has to expect one kind of fault. It does, but for four
holes (`Landscape.Studio.reports_unless_stopped`), and each of them ends whatever is going on: a team that cannot be
looked up, a path that is none, bytes that are no text, and a document that is well formed and cannot be read all the
same, since a scalar is not what it says or there is no room for what lies inside one another.

The holes of a file can be seen from the file (`Landscape.Host.StopsLoading`). Where a document has its hole depends on
the order in which it is built (`Landscape.Value.StopsAtTeam`): a part is looked at as far as its name before its team
is looked up, and nothing after the first thing that is wrong is looked at. The load-bearing fact is
`Landscape.fails_buildMicroservices`, that the loop over the microservices stops at a team exactly if all microservices
before it are right; neither interfaces nor contracts ever stop so (`Landscape.Build.Never`).
-/

namespace Landscape

/-! ### Reported faults -/

/-- Whether a fault is reported as one of a landscape document. A team that cannot be looked up is found out in looking
it up, and ends whatever is going on. -/
def DocumentFault.isReported : DocumentFault → Bool
  | .teamNotKey _ => false
  | _ => true

/-- Whether a fault is reported as one of a landscape. -/
def Fault.isOfLandscape : Fault → Bool
  | .document f => f.isReported
  | .landscapeFile .. | .landscapeYaml .. => true
  | _ => false

/-! ### Reading -/

/-- A fault that is not reported. -/
abbrev DocumentFault.IsLoose (f : DocumentFault) : Prop :=
  f.isReported = false

theorem not_loose_entriesOf (part : Part) (v : Value) : ¬Fails DocumentFault.IsLoose (entriesOf part v) := by
  cases v <;> simp [entriesOf, DocumentFault.isReported]

theorem not_loose_nameOf (part : Part) (es : Entries) : ¬Fails DocumentFault.IsLoose (nameOf part es) := by
  rw [nameOf]
  split <;> simp [DocumentFault.isReported]

theorem not_loose_itemsOf (listing : Listing) (part : Part) (name : String) (es : Entries) :
    ¬Fails DocumentFault.IsLoose (itemsOf listing part name es) := by
  rw [itemsOf]
  split <;> simp [DocumentFault.isReported]

theorem not_loose_resolveOwner (m : Model) (s : Ref .system) (reference : String) :
    ¬Fails DocumentFault.IsLoose (resolveOwner m s reference) := by
  rw [resolveOwner]
  split <;> simp [DocumentFault.isReported]

theorem not_loose_contractOf (m : Model) (s : Ref .system) (v : Value) :
    ¬Fails DocumentFault.IsLoose (contractOf m s v) := by
  cases v with
  | mapping es =>
    simp only [contractOf]
    split
    · exact (fails_throw _).not.mpr (by simp [DocumentFault.isReported])
    · split
      · split
        · rw [Landscape.fails_bind]
          rintro (h | ⟨i, -, h⟩)
          · exact not_loose_resolveOwner _ _ _ h
          · exact not_fails_ok _ h
        · simp [DocumentFault.isReported]
      · simp [DocumentFault.isReported]
  | _ => simp [contractOf, DocumentFault.isReported]

/-! ### Teams -/

section Teams

open Build

variable {d : Draft}

theorem fails_buildTeam {key : Value} : Fails DocumentFault.IsLoose (buildTeam key d) ↔ ¬key.IsKey := by
  rw [Value.isKey_iff]
  cases hkey : key.unhashable? with
  | some kind =>
    refine iff_of_true ?_ nofun
    simp only [buildTeam, hkey]
    exact ⟨_, rfl, rfl⟩
  | none =>
    refine iff_of_false ?_ (not_not_intro rfl)
    obtain ⟨r, e, h⟩ := succeeds_buildTeam (d := d) |>.mpr ((Value.isKey_iff key).mpr hkey)
    rw [h]
    exact not_fails_ok _

theorem fails_buildTeam? {v : Value} : Fails DocumentFault.IsLoose (buildTeam? (v.field "team") d) ↔ ¬v.HasTeam := by
  rw [buildTeam?, Value.HasTeam, Value.isTruthy]
  cases hfalsy : (v.field "team").isFalsy with
  | true => exact iff_of_false (not_fails_ok _) (not_not_intro (.inl rfl))
  | false =>
    rw [Bool.not_false, if_pos rfl, map_eq_pure_bind, Build.fails_bind, fails_buildTeam]
    constructor
    · rintro (h | ⟨_, _, -, h⟩)
      · simpa using h
      · exact absurd h (not_fails_ok _)
    · intro h
      exact .inl fun hkey => h (.inr hkey)

end Teams

/-! ### Parts without teams -/

section Parts

open Build

theorem never_loose_buildParameter (v : Value) : Never DocumentFault.IsLoose (buildParameter v) :=
  (never_lift (not_loose_entriesOf _ _)).bind fun _ => (never_lift (not_loose_nameOf _ _)).bind fun _ => never_adding _

theorem never_loose_buildOperation (v : Value) : Never DocumentFault.IsLoose (buildOperation v) :=
  (never_lift (not_loose_entriesOf _ _)).bind fun _ => (never_lift (not_loose_nameOf _ _)).bind fun _ =>
    (never_lift (not_loose_itemsOf _ _ _ _)).bind fun xs =>
      (Never.mapM never_loose_buildParameter xs).bind fun _ => never_adding _

theorem never_loose_buildInterface (v : Value) : Never DocumentFault.IsLoose (buildInterface v) :=
  (never_lift (not_loose_entriesOf _ _)).bind fun _ => (never_lift (not_loose_nameOf _ _)).bind fun _ =>
    (never_lift (not_loose_itemsOf _ _ _ _)).bind fun xs =>
      (Never.mapM never_loose_buildOperation xs).bind fun _ => never_adding _

theorem never_loose_buildContract (s : Ref .system) (v : Value) :
    Never DocumentFault.IsLoose (buildContract s v) := by
  refine Never.bind (fun d => not_fails_ok _) fun d => ?_
  exact (never_lift (not_loose_contractOf _ _ _)).bind fun c => never_adding _

end Parts

/-! ### Where loading stops -/

namespace Value

/-- A part whose team cannot be looked up. -/
def HasLooseTeam (v : Value) : Prop :=
  v.IsPart ∧ ¬v.HasTeam

/-- **Where loading stops at a team**: in the document itself, or in the first of its microservices that cannot be
built. Everything else that is wrong comes later, and nothing that comes earlier is wrong. -/
inductive StopsAtTeam (document : Value) : Prop
  | own (h : document.HasLooseTeam) : StopsAtTeam document
  | microservice (before after : List Value) (v : Value) (hpart : document.IsPart) (hteam : document.HasTeam)
    (hlist : document.field "microservices" = .list (before ++ v :: after)) (hbefore : ∀ x ∈ before, x.IsMicroservice)
    (h : v.HasLooseTeam) : StopsAtTeam document

end Value

section Stops

open Build

variable {d : Draft} {v : Value}

/-- A part fails as what comes after its name does. -/
theorem fails_part {α : Type} {part : Part} {next : Entries → String → Build α} {q : Prop}
    (hnext : ∀ es name, v = .mapping es → (Fails DocumentFault.IsLoose (next es name d) ↔ q)) :
    Fails DocumentFault.IsLoose ((liftM (entriesOf part v) >>= fun es => liftM (nameOf part es) >>= fun name =>
      next es name : Build α) d) ↔ v.IsPart ∧ q := by
  simp only [fails_lift_bind, not_loose_entriesOf, not_loose_nameOf, false_or]
  constructor
  · rintro ⟨es, hes, name, hname, h⟩
    obtain rfl := entriesOf_eq_ok.mp hes
    exact ⟨⟨⟨es, rfl⟩, (exists_nameOf_iff part).mp ⟨name, hname⟩⟩, (hnext es name rfl).mp h⟩
  · rintro ⟨⟨⟨es, rfl⟩, hname⟩, h⟩
    obtain ⟨name, hname⟩ := (exists_nameOf_iff part).mpr hname
    exact ⟨es, rfl, name, hname, (hnext es name rfl).mpr h⟩

/-- **A microservice stops at its team**, and at nothing else. -/
theorem fails_buildMicroservice : Fails DocumentFault.IsLoose (buildMicroservice v d) ↔ v.HasLooseTeam := by
  refine fails_part fun es name hv => ?_
  subst hv
  refine (fails_bind_of_never fun team => ?_).trans (fails_buildTeam? (v := .mapping es))
  refine (never_adding _).bind fun s => (never_lift (not_loose_itemsOf _ _ _ _)).bind fun xs => ?_
  refine Never.bind (Never.forIn (fun x _ => ?_) xs) fun _ => never_pure _
  exact (never_loose_buildInterface x).bind fun i => (never_changing _).bind fun _ => never_pure _

theorem buildMicroservices_cons (s : Ref .system) (x : Value) (xs : List Value) :
    buildMicroservices s (x :: xs) = (do
      let r ← buildMicroservice x
      Build.changing fun m => m.modifySystem s fun y => { y with microservices := y.microservices ++ [r] }
      buildMicroservices s xs) := by
  rw [buildMicroservices, List.forIn_cons]
  simp only [bind_assoc, pure_bind]
  rfl

/-- **The first loop stops** at the first microservice that cannot be built, if that stops at its team. -/
theorem fails_buildMicroservices {s : Ref .system} {xs : List Value} :
    Fails DocumentFault.IsLoose (buildMicroservices s xs d) ↔
      ∃ before v after, xs = before ++ v :: after ∧ (∀ x ∈ before, x.IsMicroservice) ∧ v.HasLooseTeam := by
  induction xs generalizing d with
  | nil =>
    refine iff_of_false (not_fails_ok _) ?_
    rintro ⟨before, v, after, h, -⟩
    exact absurd h.symm (by simp)
  | cons x xs ih =>
    have hrest (r : Ref .microservice) (e : Draft) : Fails DocumentFault.IsLoose ((do
        Build.changing fun m => m.modifySystem s fun y => { y with microservices := y.microservices ++ [r] }
        buildMicroservices s xs : Build PUnit) e) ↔
          ∃ before v after, xs = before ++ v :: after ∧ (∀ x ∈ before, x.IsMicroservice) ∧ v.HasLooseTeam :=
      ih
    rw [buildMicroservices_cons, Build.fails_bind, fails_buildMicroservice]
    simp only [hrest]
    constructor
    · rintro (h | ⟨r, e, hx, before, v, after, rfl, hbefore, h⟩)
      · exact ⟨[], x, xs, rfl, by simp, h⟩
      · have hmicroservice : x.IsMicroservice := succeeds_buildMicroservice.mp ⟨r, e, hx⟩
        exact ⟨x :: before, v, after, rfl, List.forall_mem_cons.mpr ⟨hmicroservice, hbefore⟩, h⟩
    · rintro ⟨_ | ⟨y, before⟩, v, after, heq, hbefore, h⟩
      · obtain ⟨rfl, -⟩ := List.cons.inj heq
        exact .inl h
      · obtain ⟨rfl, rfl⟩ := List.cons.inj heq
        rw [List.forall_mem_cons] at hbefore
        obtain ⟨r, e, hx⟩ := succeeds_buildMicroservice (d := d) |>.mpr hbefore.1
        exact .inr ⟨r, e, hx, before, v, after, rfl, hbefore.2, h⟩

theorem never_loose_buildContracts (s : Ref .system) (zs : List Value) :
    Never DocumentFault.IsLoose (buildContracts s zs) :=
  Never.forIn (fun z _ =>
    (never_loose_buildContract s z).bind fun _ => (never_changing _).bind fun _ => never_pure _) zs

/-- The items that are built are those of the list that is written, if there are any. -/
theorem itemsOf_eq_ok_iff {listing : Listing} {part : Part} {name : String} {es : Entries} {xs : List Value}
    (hxs : xs ≠ []) : itemsOf listing part name es = .ok xs ↔ es.get listing.key = .list xs := by
  rw [itemsOf]
  constructor
  · intro h
    split at h
    · exact absurd (Except.ok.inj h).symm hxs
    · rw [← Except.ok.inj h]
      assumption
    · cases h
  · intro h
    rw [h]

/-- **Building a system stops** at its own team, or in the first loop. -/
theorem fails_buildSystem {es : Entries} :
    Fails DocumentFault.IsLoose (buildSystem es d) ↔ (Value.mapping es).StopsAtTeam := by
  have hloop (s : Ref .system) (name : String) (c : Draft) :
      Fails DocumentFault.IsLoose ((do
        let xs ← liftM (itemsOf .microservices .system name es)
        buildMicroservices s xs
        let zs ← liftM (itemsOf .contracts .system name es)
        buildContracts s zs
        return s : Build (Ref .system)) c) ↔
        ∃ before v after, es.get "microservices" = .list (before ++ v :: after) ∧ (∀ x ∈ before, x.IsMicroservice) ∧
          v.HasLooseTeam := by
    have hrest (xs : List Value) (c : Draft) : Fails DocumentFault.IsLoose ((do
        buildMicroservices s xs
        let zs ← liftM (itemsOf .contracts .system name es)
        buildContracts s zs
        return s : Build (Ref .system)) c) ↔ Fails DocumentFault.IsLoose (buildMicroservices s xs c) :=
      fails_bind_of_never fun _ => (never_lift (not_loose_itemsOf _ _ _ _)).bind fun zs =>
        (never_loose_buildContracts s zs).bind fun _ => never_pure _
    rw [fails_lift_bind, or_iff_right (not_loose_itemsOf _ _ _ _)]
    constructor
    · rintro ⟨xs, hxs, h⟩
      obtain ⟨before, v, after, rfl, hbefore, hv⟩ := fails_buildMicroservices.mp ((hrest xs c).mp h)
      exact ⟨before, v, after, (itemsOf_eq_ok_iff (by simp)).mp hxs, hbefore, hv⟩
    · rintro ⟨before, v, after, hlist, hbefore, hv⟩
      refine ⟨_, (itemsOf_eq_ok_iff (by simp)).mpr hlist, (hrest _ c).mpr ?_⟩
      exact fails_buildMicroservices.mpr ⟨before, v, after, rfl, hbefore, hv⟩
  rw [buildSystem_eq, fails_lift_bind, or_iff_right (not_loose_nameOf _ _)]
  constructor
  · rintro ⟨name, hname, h⟩
    have hpart : (Value.mapping es).IsPart := ⟨⟨es, rfl⟩, (exists_nameOf_iff .system).mp ⟨name, hname⟩⟩
    rcases Build.fails_bind.mp h with h | ⟨team, c, hteam, h⟩
    · exact .own ⟨hpart, (fails_buildTeam? (v := .mapping es)).mp h⟩
    · -- the team is there, so the first loop stops
      obtain ⟨before, v, after, hlist, hbefore, hv⟩ := (hloop _ name _).mp h
      exact .microservice before after v hpart (succeeds_buildTeam?.mp ⟨team, c, hteam⟩) hlist hbefore hv
  · rintro (⟨⟨-, hname⟩, hteam⟩ | ⟨before, after, v, ⟨-, hname⟩, hteam, hlist, hbefore, hv⟩)
    · obtain ⟨name, hname⟩ := (exists_nameOf_iff .system).mpr hname
      exact ⟨name, hname, Build.fails_bind.mpr (.inl ((fails_buildTeam? (v := .mapping es)).mpr hteam))⟩
    · obtain ⟨name, hname⟩ := (exists_nameOf_iff .system).mpr hname
      obtain ⟨team, c, hteam⟩ := (succeeds_buildTeam? (d := d)).mpr hteam
      exact ⟨name, hname, Build.fails_bind.mpr (.inr ⟨team, c, hteam,
        (hloop _ name _).mpr ⟨before, v, after, hlist, hbefore, hv⟩⟩)⟩

end Stops

/-- **Loading stops at a team exactly where it cannot be looked up**, and reports whatever else is wrong. -/
theorem Model.fails_load_iff (m : Model) (document : Value) :
    Fails DocumentFault.IsLoose (m.load document) ↔ document.StopsAtTeam := by
  cases document with
  | mapping es =>
    rw [← fails_buildSystem (d := { model := m })]
    refine fails_bind.trans (or_iff_left ?_)
    rintro ⟨⟨s, e⟩, -, h⟩
    exact not_fails_ok _ h
  | _ =>
    refine iff_of_false ?_ ?_
    · exact (fails_error _).not.mpr nofun
    · rintro (⟨⟨⟨_, ⟨⟩⟩, -⟩, -⟩ | ⟨_, _, _, ⟨⟨_, ⟨⟩⟩, -⟩, -⟩)

/-! ### Files -/

/-- A file that gives no document, and is not reported as one of a landscape. -/
def DocumentFileFault.IsLoose : DocumentFileFault → Prop
  | .access (.file _) => False
  | .access _ | .undecodable _ => True
  | .yaml f => f.isSyntax = false

/-- **Where loading a landscape from a file stops** without a report. -/
inductive Host.StopsLoading (w : Host) (p : FilePath) : Prop
  /-- The path is none. -/
  | path {f : AccessFault} (h : unusable? p = some f) : StopsLoading w p
  /-- The file holds bytes that are no text. -/
  | bytes {bytes : List UInt8} {f : Utf8.Fault} (hread : w.contents p = .ok bytes)
    (h : documentOfBytes w.deepest documentShape bytes = .error (.undecodable f)) : StopsLoading w p
  /-- A scalar is not what it says, or the collections lie deeper inside one another than there is room for. -/
  | scalar {bytes : List UInt8} {f : Yaml.Fault} (hread : w.contents p = .ok bytes)
    (h : documentOfBytes w.deepest documentShape bytes = .error (.yaml f)) (hf : f.isSyntax = false) : StopsLoading w p
  /-- A team cannot be looked up. -/
  | team {bytes : List UInt8} {document : Value} (hread : w.contents p = .ok bytes)
    (h : documentOfBytes w.deepest documentShape bytes = .ok document) (hteam : document.StopsAtTeam) : StopsLoading w p

/-- A path that is none is no matter of the file system. -/
theorem Host.isLoose_of_unusable? {p : FilePath} {f : AccessFault} (h : unusable? p = some f) :
    DocumentFileFault.IsLoose (.access f) := by
  cases f with
  | file f => exact absurd rfl (ne_file_of_unusable? h f)
  | _ => trivial

/-- Why a file gives no document, if that is not reported. -/
theorem Host.fails_documentIn {w : Host} {p : FilePath} :
    Fails DocumentFileFault.IsLoose (w.documentIn documentShape p) ↔ (∃ f, unusable? p = some f) ∨
      ∃ bytes, w.contents p = .ok bytes ∧
        Fails DocumentFileFault.IsLoose (documentOfBytes w.deepest documentShape bytes) := by
  rw [documentIn, fails_bind]
  refine or_congr ?_ (exists_congr fun bytes => and_congr_left' mapError_eq_ok_iff)
  rw [fails_mapError, contents]
  cases hp : unusable? p with
  | some f =>
    exact iff_of_true ((fails_error f).mpr (isLoose_of_unusable? hp)) ⟨f, rfl⟩
  | none =>
    rw [fails_mapError]
    refine iff_of_false ?_ (by simp)
    rintro ⟨f, -, ⟨⟩⟩

theorem Host.documentIn_eq_ok_iff {w : Host} {shape : Shape} {p : FilePath} {document : Value} :
    w.documentIn shape p = .ok document ↔
      ∃ bytes, w.contents p = .ok bytes ∧ documentOfBytes w.deepest shape bytes = .ok document := by
  rw [documentIn]
  cases w.contents p with
  | error f => simp [Except.mapError]
  | ok bytes => simp [Except.mapError]

namespace Studio

/-- A landscape file is reported if it is not found, or holds no YAML. -/
theorem isOfLandscape_fileFault (p : FilePath) (f : DocumentFileFault) :
    (fileFault p f).isOfLandscape = false ↔ f.IsLoose := by
  rcases f with (_ | _ | f) | f | f
  · exact iff_of_true rfl trivial
  · exact iff_of_true rfl trivial
  · exact iff_of_false (by simp [fileFault, Fault.isOfLandscape]) id
  · exact iff_of_true rfl trivial
  · rw [fileFault, DocumentFileFault.IsLoose]
    cases f.isSyntax with
    | true => simp [Fault.isOfLandscape]
    | false => simp [Fault.isOfLandscape]

/-- Loading a landscape from its document fails as building it does. -/
theorem fails_load {q : Fault → Prop} {document : Value} {s : Studio} :
    Fails q ((load document).run s).1 ↔ Fails (fun f => q (.document f)) (s.model.load document) := by
  rw [load, Step.run_bind_of_ok (Step.run_get s)]
  dsimp only
  rcases s.model.load document with f | ⟨y, m⟩
  · rw [fails_error]
    exact fails_error _
  · exact iff_of_false (not_fails_ok _) (not_fails_ok _)

/-- Loading a landscape from a file fails as reading the file does, or building what it holds. -/
theorem fails_loadFile {q : Fault → Prop} {p : FilePath} {s : Studio} : Fails q ((loadFile p).run s).1 ↔
    Fails (fun f => q (fileFault p f)) (s.host.documentIn documentShape p) ∨
      ∃ document, s.host.documentIn documentShape p = .ok document ∧
        Fails (fun f => q (.document f)) (s.model.load document) := by
  have hreads := (Host.reads_readDocument (w := s.host) documentShape p).run_eq
  have hread : ((onHost ((Host.readDocument documentShape p).blame (fileFault p))).run s).1 =
      (s.host.documentIn documentShape p).mapError (fileFault p) := by
    rw [← hreads]
    rfl
  rw [loadFile, Step.fails_run_bind, hread, fails_mapError]
  refine or_congr_right ?_
  -- reading leaves the model, and telling of it does too
  have hrest (document : Value) (t : Studio) (ht : t.model = s.model) : Fails q ((do
      onHost (Host.note .debug .document s!"Loaded landscape document from {p}")
      load document : Work (Ref .system)).run t).1 ↔ Fails (fun f => q (.document f)) (s.model.load document) := by
    rw [← ht]
    exact fails_load
  constructor
  · rintro ⟨document, t, hrun, h⟩
    have hok : (s.host.documentIn documentShape p).mapError (fileFault p) = .ok document := by rw [← hread, hrun]
    have ht : t.model = s.model := by
      rw [show t = _ from (congrArg Prod.snd hrun).symm]
      rfl
    exact ⟨document, mapError_eq_ok_iff.mp hok, (hrest document t ht).mp h⟩
  · rintro ⟨document, hdocument, h⟩
    have hok : ((onHost ((Host.readDocument documentShape p).blame (fileFault p))).run s).1 = .ok document := by
      rw [hread, hdocument]
      rfl
    exact ⟨document, _, Prod.ext hok rfl, (hrest document _ (by rfl)).mpr h⟩

/-- **Loading a file stops** without a report as it is said, and in no other way. -/
theorem fails_loadFile_iff {p : FilePath} {s : Studio} :
    Fails (·.isOfLandscape = false) ((loadFile p).run s).1 ↔ s.host.StopsLoading p := by
  have hteam (document : Value) : Fails (fun f => (Fault.document f).isOfLandscape = false) (s.model.load document) ↔
      document.StopsAtTeam := s.model.fails_load_iff document
  simp only [fails_loadFile, isOfLandscape_fileFault, hteam, Host.documentIn_eq_ok_iff]
  change Fails DocumentFileFault.IsLoose _ ∨ _ ↔ _
  rw [Host.fails_documentIn]
  constructor
  · rintro ((⟨f, hp⟩ | ⟨bytes, hread, f, h, hloose⟩) | ⟨document, ⟨bytes, hread, h⟩, hteam⟩)
    · exact .path hp
    · cases f with
      | access f => exact absurd h (documentOfBytes_ne_access _ _ _ f)
      | undecodable f => exact .bytes hread h
      | yaml f => exact .scalar hread h hloose
    · exact .team hread h hteam
  · rintro (hp | ⟨hread, h⟩ | ⟨hread, h, hloose⟩ | ⟨hread, h, hteam⟩)
    · exact .inl (.inl ⟨_, hp⟩)
    · exact .inl (.inr ⟨_, hread, _, h, trivial⟩)
    · exact .inl (.inr ⟨_, hread, _, h, hloose⟩)
    · exact .inr ⟨_, ⟨_, hread, h⟩, hteam⟩

/-- A landscape of a team that is written as a list. -/
def listedTeamDocument : Value :=
  .mapping [(.text "name", .text "S"), (.text "team", .list [.text "A"])]

/-- A studio with a landscape file that is no text. -/
def unreadableStudio : Studio where
  host := { files := ⟨[(["landscape.yaml"], .file [0xff])]⟩ }

/-- Whether a file gives no document because its bytes are no text. -/
def isUndecodable : Except DocumentFileFault Value → Bool
  | .error (.undecodable _) => true
  | _ => false

end Studio

end Landscape
