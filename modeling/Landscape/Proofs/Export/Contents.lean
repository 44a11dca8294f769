import Landscape.Proofs.Export.Files
import Landscape.Proofs.Export.Records
import Landscape.Proofs.Host.Folder

/-!
# What becomes of a diagram

If a renderer goes by the texts alone (`Landscape.Studio.DrawsByText`), what becomes of a diagram can be told before
anything is done. It is a matter of what there is to store (`Landscape.ExportPlan.Contents`) and of how the directory of
the files takes it: which files are refused in it, and where the others are. An attempt then answers the result that was
told and leaves the files that were told (`Landscape.ExportPlan.Contents.Leaves`), and it ends a batch only if a name or
a text is one that no file can have (`Landscape.ExportPlan.Contents.Tellable`).
-/

namespace Landscape

open FileSystem

/-! ### Renderers that go by the text -/

/-- **Drawing by text**: whichever files there are, the image that belongs to the text is stored, or there is none. What
else is done is done neither to the models nor to the world. This holds among some studios, which are not left by it. -/
structure Studio.DrawsByText (among : Studio → Prop) (images : DiagramKind → String → Except Fault (List UInt8))
    (draw : DiagramKind → String → FilePath → Work FilePath) : Prop where
  ofHost : ∀ {s h}, among s → h.world = { s.host.world with files := h.files } → among { s with host := h }
  run_draw : ∀ {s} kind text target, among s → ∃ o h t,
    (storeImageOf (images kind text) target).run s.host = (o, h) ∧ (draw kind text target).run s = (o, t) ∧
      among t ∧ t.model = s.model ∧ t.host.world = h.world

variable {files fs : FileSystem} {here : List String} {p : FilePath} {name : String}

/-- The files after a file in a directory was stored or refused, and the outcome. -/
def StoresIn (files : FileSystem) (here : List String) (p : FilePath) (name : String) (bytes : List UInt8)
    (refused : FileFault → RenderFault) (o : Except Fault Unit) (fs : FileSystem) : Prop :=
  After here p files fs ∧ match files.refusal here p name with
    | some f => o = .error (.render (refused f)) ∧ fs.find? = (files.settled here p).find?
    | none => o = .ok () ∧ fs.find? = withFiles (files.settled here p).find?
        [((files.settled here p).placeIn here p name, bytes)]

theorem Host.Stores.storesIn {bytes : List UInt8} {r : Except AccessFault Unit} {refused : FileFault → RenderFault}
    (h : Host.Stores files here (p.inside name) bytes r fs) (hname : name ≠ "..")
    (hr : ¬Aborts (r.mapError (storingFault refused))) :
    StoresIn files here p name bytes refused (r.mapError (storingFault refused)) fs := by
  rw [h.aborts_iff] at hr
  obtain ⟨hafter, houtcome⟩ := h.eq_of_refusal hname hr
  refine ⟨hafter, ?_⟩
  rcases hrefusal : files.refusal here p name with _ | f
  · rw [hrefusal] at houtcome
    obtain ⟨rfl, hfind⟩ := houtcome
    exact ⟨rfl, hfind⟩
  · rw [hrefusal] at houtcome
    obtain ⟨rfl, hfind⟩ := houtcome
    exact ⟨rfl, hfind⟩

/-- Storing a text beside the image ends as the refusals say, unless it ends the batch. -/
theorem SourceStores.storesIn {text : String} {o : Except Fault Unit}
    (h : SourceStores files here (p.inside name) text o fs) (hname : name ≠ "..") (ho : ¬Aborts o) :
    StoresIn files here p name ((Utf8.encode? text.toList).toOption.getD []) (.sourceUnwritable (p.inside name)) o fs := by
  rcases h with ⟨hbytes, hstores⟩ | ⟨hbytes, hstores⟩ | ⟨hbytes, hstores⟩
  · rw [hbytes]
    exact hstores.storesIn hname ho
  · rw [hbytes]
    exact hstores.storesIn hname ho
  · exact absurd ((aborts_error _).mpr rfl) ho

/-- What storing the image of a text leaves, and the outcome. -/
def StoresImageIn (image : Except Fault (List UInt8)) (files : FileSystem) (here : List String) (p : FilePath)
    (name : String) (o : Except Fault Unit) (fs : FileSystem) : Prop :=
  match image with
  | .error f => o = .error f ∧ fs = files
  | .ok bytes => StoresIn files here p name bytes (.unwritable (p.inside name)) o fs

/-- Storing the image of a text ends as the refusals say, unless it ends the batch. -/
theorem storesImageIn_of_run {image : Except Fault (List UInt8)} {h h' : Host} {o : Except Fault FilePath}
    (hrun : (storeImageOf image (p.inside name)).run h = (o, h')) :
    h'.here = h.here ∧ (name ≠ ".." → ¬Aborts o →
      StoresImageIn image h.files h.here p name (o.map fun _ => ()) h'.files) ∧
      (Aborts o → Aborts image ∨ Host.NoPlace h.files h.here (p.inside name)) := by
  rcases image with f | bytes
  · cases hrun
    exact ⟨rfl, fun _ _ => ⟨rfl, rfl⟩, fun ho => .inl ((aborts_error f).mpr ((aborts_error f).mp ho))⟩
  · obtain ⟨r, fs, h₁, hstores, hworld, hstore⟩ := exists_run_storeImage h (p.inside name) bytes
    have hboth : (storeImageOf (.ok bytes) (p.inside name)).run h = (storeImage (p.inside name) bytes).run h := rfl
    rw [hboth, hstore] at hrun
    cases hrun
    have hfiles : h'.files = fs := congrArg Host.files hworld
    have hmap : ((r.mapError (storingFault (.unwritable (p.inside name)))).map fun _ => p.inside name).map
        (fun _ => ()) = r.mapError (storingFault (.unwritable (p.inside name))) := by
      rcases r with f | u <;> rfl
    have hleft : h'.world = ({ h with files := fs } : Host).world := hworld
    have hhere := Host.here_eq_of_world hleft
    refine ⟨hhere, fun hname ho => ?_, fun ho => .inr ?_⟩
    · rw [aborts_map] at ho
      rw [hmap, hfiles]
      exact hstores.storesIn hname ho
    · rw [aborts_map] at ho
      exact (hstores.aborts_iff _).mp ho

/-! ### What becomes of a diagram -/

namespace ExportPlan

/-- **What an export has to store**, told before any of it is stored. -/
structure Contents where
  name : String
  text : DiagramKind → Except Fault String
  image : DiagramKind → String → Except Fault (List UInt8)
  directory : FilePath
  writeSource : Bool

namespace Contents

variable (c : Contents) (refusal : String → Option FileFault) (place : String → List String) (kind : DiagramKind)

/-- The directory that holds the files. -/
def folder : FilePath :=
  ExportPlan.folder c.directory c.name

/-- The name of the file with the image. -/
def imageName : String :=
  fileName c.name kind ".svg"

/-- The name of the file with the text. -/
def sourceName : String :=
  fileName c.name kind kind.sourceExtension

/-- Whether a diagram comes to store something. -/
def comesToStore : Bool :=
  match c.text kind with
  | .error _ => false
  | .ok text => c.writeSource || (c.image kind text).isOk

/-- How storing the text beside the image is refused, if it is to be stored. -/
def sourceRefusal : Option FileFault :=
  if c.writeSource then refusal (c.sourceName kind) else none

/-- The fault of a diagram, where files are refused. -/
def fault : Option DiagramFault :=
  match c.text kind with
  | .error f => Studio.diagramFault? (.error f : Except Fault Unit)
  | .ok text =>
    match c.sourceRefusal refusal kind with
    | some f => some (.render (.sourceUnwritable (sourceTarget c.directory c.name kind) f))
    | none =>
      match c.image kind text with
      | .error f => Studio.diagramFault? (.error f : Except Fault Unit)
      | .ok _ => (refusal (c.imageName kind)).map fun f => .render (.unwritable (target c.directory c.name kind) f)

/-- The record of a diagram without its fault. -/
def blank : ExportResult where
  kind
  target := target c.directory c.name kind
  source := (c.text kind).toOption
  sourceFile := if c.writeSource && (c.text kind).isOk then some (sourceTarget c.directory c.name kind) else none

/-- **The result of a diagram**, where files are refused. -/
def result : ExportResult :=
  { c.blank kind with fault := c.fault refusal kind }

/-- **The files of a diagram**, where files are refused and have their places. -/
def stored : List (List String × List UInt8) :=
  match c.text kind with
  | .error _ => []
  | .ok text =>
    if (c.sourceRefusal refusal kind).isSome then [] else
      (if c.writeSource then [(place (c.sourceName kind), (Utf8.encode? text.toList).toOption.getD [])] else []) ++
        match c.image kind text with
        | .error _ => []
        | .ok image => if (refusal (c.imageName kind)).isSome then [] else [(place (c.imageName kind), image)]

variable {c refusal place kind}

theorem target_eq : target c.directory c.name kind = c.folder.inside (c.imageName kind) :=
  file_eq_inside List.mem_cons_self

theorem sourceTarget_eq : sourceTarget c.directory c.name kind = c.folder.inside (c.sourceName kind) :=
  file_eq_inside (List.mem_cons_of_mem _ List.mem_cons_self)

theorem imageName_ne_up : c.imageName kind ≠ ".." := by
  rw [imageName]
  exact fileName_ne_up List.mem_cons_self

theorem sourceName_ne_up : c.sourceName kind ≠ ".." := by
  rw [sourceName]
  exact fileName_ne_up (List.mem_cons_of_mem _ List.mem_cons_self)

/-- **A diagram can be told**: nothing about its names, its text and its image ends a batch. -/
structure Tellable (c : Contents) (kind : DiagramKind) : Prop where
  folder : Host.unusable? c.folder = none
  image : Host.unusable? (target c.directory c.name kind) = none
  source : c.writeSource = true → Host.unusable? (sourceTarget c.directory c.name kind) = none
  text : ¬Aborts (c.text kind)
  drawn : ∀ text, c.text kind = .ok text → ¬Aborts (c.image kind text)
  bytes : ∀ text, c.text kind = .ok text → c.writeSource = true → holdsHalves text = false

/-- **What an attempt leaves**, if it does not end the batch: its fault and its files are those that can be told from the
files before it. -/
structure Leaves (c : Contents) (files : FileSystem) (here : List String) (kind : DiagramKind) (o : Except Fault Unit)
    (fs : FileSystem) : Prop where
  fault : Studio.diagramFault? o = c.fault (files.refusal here c.folder) kind
  ofStore : c.comesToStore kind = true → After here c.folder files fs ∧ fs.find? = withFiles
    (files.settled here c.folder).find?
      (c.stored (files.refusal here c.folder) ((files.settled here c.folder).placeIn here c.folder) kind)
  ofNothing : c.comesToStore kind = false → fs = files

variable {text : String} {o : Except Fault Unit}

/-- A file in the directory has a place, if the names are usable. -/
theorem Tellable.not_noPlace (h : c.Tellable kind) (hname : Host.unusable? (c.folder.inside name) = none) :
    ¬Host.NoPlace files here (c.folder.inside name) := by
  rw [Host.NoPlace, FilePath.parent_inside, h.folder, hname]
  simp

/-- Without a text nothing is stored. -/
theorem leaves_of_noText {f : Fault} (htext : c.text kind = .error f) : c.Leaves files here kind (.error f) files := by
  refine ⟨?_, fun hcomes => ?_, fun _ => rfl⟩
  · rw [fault, htext]
  · rw [comesToStore, htext] at hcomes
    cases hcomes

/-- **The text is beside the image**, if it is wanted there: the image is then refused as it was before, its place is the
one it had, and nothing but the text was stored. -/
structure HasSource (c : Contents) (files : FileSystem) (here : List String) (kind : DiagramKind) (text : String)
    (fs : FileSystem) : Prop where
  source : c.sourceRefusal (files.refusal here c.folder) kind = none
  image : fs.refusal here c.folder (c.imageName kind) = files.refusal here c.folder (c.imageName kind)
  place : (fs.settled here c.folder).placeIn here c.folder (c.imageName kind) =
    (files.settled here c.folder).placeIn here c.folder (c.imageName kind)
  tree : (fs.settled here c.folder).find? = withFiles (files.settled here c.folder).find?
    (if c.writeSource then [((files.settled here c.folder).placeIn here c.folder (c.sourceName kind),
      (Utf8.encode? text.toList).toOption.getD [])] else [])
  after : After here c.folder files (fs.settled here c.folder)
  eq : fs = if c.writeSource then fs.settled here c.folder else files

/-- Nothing is to be stored if the text is not wanted. -/
theorem hasSource_of_not_write (hwrite : c.writeSource = false) : c.HasSource files here kind text files := by
  refine ⟨?_, rfl, rfl, ?_, .of_settled here c.folder files, ?_⟩
  · rw [sourceRefusal, hwrite]
    rfl
  · rw [hwrite]
    rfl
  · rw [hwrite]
    rfl

/-- A text that was stored is there. -/
theorem hasSource_of_storesIn {refused : FileFault → RenderFault} (hwrite : c.writeSource = true)
    (h : StoresIn files here c.folder (c.sourceName kind) ((Utf8.encode? text.toList).toOption.getD []) refused
      (.ok ()) fs) : c.HasSource files here kind text fs := by
  obtain ⟨hafter, houtcome⟩ := h
  rcases hrefusal : files.refusal here c.folder (c.sourceName kind) with _ | f
  · rw [hrefusal] at houtcome
    obtain ⟨d, hd, hmade⟩ := exists_follow_of_refusal hrefusal
    have hsame : ∀ name, (files.settled here c.folder).refusal here c.folder name = files.refusal here c.folder name :=
      refusal_settled_of_none (by rw [hmade])
    refine ⟨?_, ?_, ?_, ?_, ?_, ?_⟩
    · rw [sourceRefusal, hwrite]
      exact hrefusal
    · rw [hafter.refusal _ imageName_ne_up, hsame]
    · rw [hafter.settled, hafter.placeIn_eq hd]
    · rw [hafter.settled, hwrite]
      exact houtcome.2
    · rw [hafter.settled]
      exact hafter
    · rw [hafter.settled, hwrite]
      rfl
  · rw [hrefusal] at houtcome
    cases houtcome.1

/-- **After the text there is the image.** -/
theorem leaves_of_hasSource {fs₁ : FileSystem} (htext : c.text kind = .ok text)
    (hsource : c.HasSource files here kind text fs₁)
    (h : StoresImageIn (c.image kind text) fs₁ here c.folder (c.imageName kind) o fs) :
    c.Leaves files here kind o fs := by
  rcases himage : c.image kind text with f | bytes
  · rw [himage] at h
    obtain ⟨rfl, rfl⟩ := h
    have hcomes : c.comesToStore kind = c.writeSource := by
      simp [comesToStore, htext, himage, Except.isOk, Except.toBool]
    have heq := hsource.eq
    refine ⟨?_, fun hwrite => ?_, fun hwrite => ?_⟩
    · simp [fault, htext, hsource.source, himage]
    · rw [hcomes] at hwrite
      rw [hwrite, if_pos rfl] at heq
      rw [heq]
      refine ⟨hsource.after, ?_⟩
      rw [hsource.tree]
      simp [stored, htext, hsource.source, himage]
    · rw [hcomes] at hwrite
      rw [hwrite] at heq
      exact heq
  · rw [himage] at h
    obtain ⟨hafter, houtcome⟩ := h
    rw [hsource.image, hsource.place, hsource.tree] at houtcome
    have hcomes : c.comesToStore kind = true := by
      simp [comesToStore, htext, himage, Except.isOk, Except.toBool]
    refine ⟨?_, fun _ => ⟨hsource.after.trans hafter, ?_⟩, fun hnot => ?_⟩
    · rcases hrefusal : files.refusal here c.folder (c.imageName kind) with _ | f
      · rw [hrefusal] at houtcome
        simp [fault, htext, hsource.source, himage, hrefusal, houtcome.1, Studio.diagramFault?]
      · rw [hrefusal] at houtcome
        simp [fault, htext, hsource.source, himage, hrefusal, houtcome.1, Studio.diagramFault?, Fault.render, target_eq]
    · rcases hrefusal : files.refusal here c.folder (c.imageName kind) with _ | f
      · rw [hrefusal] at houtcome
        simp [stored, htext, hsource.source, himage, hrefusal, houtcome.2, withFiles_append]
      · rw [hrefusal] at houtcome
        simp [stored, htext, hsource.source, himage, hrefusal, houtcome.2]
    · rw [hcomes] at hnot
      cases hnot

/-- A text that is refused ends the attempt. -/
theorem leaves_of_source_refused {f : Fault} {bytes : List UInt8} (htext : c.text kind = .ok text)
    (hwrite : c.writeSource = true)
    (h : StoresIn files here c.folder (c.sourceName kind) bytes
      (.sourceUnwritable (sourceTarget c.directory c.name kind)) (.error f) fs) :
    c.Leaves files here kind (.error f) fs := by
  obtain ⟨hafter, houtcome⟩ := h
  rcases hrefusal : files.refusal here c.folder (c.sourceName kind) with _ | f'
  · rw [hrefusal] at houtcome
    cases houtcome.1
  · rw [hrefusal] at houtcome
    obtain ⟨⟨⟩, hfind⟩ := houtcome
    have hsource : c.sourceRefusal (files.refusal here c.folder) kind = some f' := by
      rw [sourceRefusal, if_pos hwrite, hrefusal]
    refine ⟨?_, fun _ => ⟨hafter, ?_⟩, fun hnot => ?_⟩
    · simp [fault, htext, hsource, Studio.diagramFault?, Fault.render]
    · simp [stored, htext, hsource, hfind, withFiles]
    · simp [comesToStore, htext, hwrite] at hnot

variable {refusal' : String → Option FileFault} {place' : String → List String}

/-- A result depends on how files are refused. -/
theorem result_congr (h : ∀ name, name ≠ ".." → refusal name = refusal' name) (kind : DiagramKind) :
    c.result refusal kind = c.result refusal' kind := by
  have hsource : c.sourceRefusal refusal kind = c.sourceRefusal refusal' kind := by
    rw [sourceRefusal, sourceRefusal, h _ sourceName_ne_up]
  simp only [result, fault, hsource, h _ imageName_ne_up]

/-- Where every file is refused for the directory, a result that depends on the refusal quotes it. -/
theorem fault_of_refused {f f' : FileFault} (h : ∀ name, refusal name = some f) (h' : ∀ name, refusal' name = some f')
    (kind : DiagramKind) : c.fault refusal kind = c.fault refusal' kind ∨ c.comesToStore kind = true ∧
      ∃ refused : FileFault → RenderFault, (refused = .unwritable (target c.directory c.name kind) ∨
          refused = .sourceUnwritable (sourceTarget c.directory c.name kind)) ∧
        c.fault refusal kind = some (.render (refused f)) ∧ c.fault refusal' kind = some (.render (refused f')) := by
  rw [fault, fault, comesToStore]
  rcases c.text kind with f₀ | text
  · exact .inl rfl
  · dsimp only
    cases hwrite : c.writeSource with
    | true =>
      rw [sourceRefusal, sourceRefusal, hwrite, if_pos rfl, if_pos rfl, h, h']
      exact .inr ⟨rfl, _, .inr rfl, rfl, rfl⟩
    | false =>
      rw [sourceRefusal, sourceRefusal, hwrite]
      rcases c.image kind text with f₀ | image
      · exact .inl rfl
      · refine .inr ⟨rfl, _, .inl rfl, ?_, ?_⟩
        · show (refusal (c.imageName kind)).map _ = _
          rw [h]
          rfl
        · show (refusal' (c.imageName kind)).map _ = _
          rw [h']
          rfl

/-- The files of a diagram depend on whether files are refused, and on the places of those that are not. -/
theorem stored_congr (h : ∀ name, name ≠ ".." → (refusal name).isSome = (refusal' name).isSome)
    (hplace : ∀ name, name ≠ ".." → refusal name = none → place name = place' name) (kind : DiagramKind) :
    c.stored refusal place kind = c.stored refusal' place' kind := by
  have hsource : (c.sourceRefusal refusal kind).isSome = (c.sourceRefusal refusal' kind).isSome := by
    rw [sourceRefusal, sourceRefusal]
    split
    · exact h _ sourceName_ne_up
    · rfl
  rw [stored, stored, hsource]
  rcases c.text kind with f | text
  · rfl
  · dsimp only
    by_cases hsome : (c.sourceRefusal refusal' kind).isSome = true
    · rw [if_pos hsome, if_pos hsome]
    · rw [if_neg hsome, if_neg hsome]
      have himage : ∀ image : List UInt8,
          (if (refusal (c.imageName kind)).isSome then [] else [(place (c.imageName kind), image)]) =
            if (refusal' (c.imageName kind)).isSome then [] else [(place' (c.imageName kind), image)] := by
        intro image
        rw [← h _ imageName_ne_up]
        split
        · rfl
        · next hnone => rw [hplace _ imageName_ne_up (by simpa using hnone)]
      cases hwrite : c.writeSource with
      | false =>
        simp only [himage]
        rfl
      | true =>
        rw [← hsource, sourceRefusal, hwrite, if_pos rfl, Bool.not_eq_true, Option.isSome_eq_false_iff,
          Option.isNone_iff_eq_none] at hsome
        rw [hplace _ sourceName_ne_up hsome]
        simp only [himage]

/-- A diagram that does not come to store anything has no files. -/
theorem stored_of_not_comesToStore (h : c.comesToStore kind = false) : c.stored refusal place kind = [] := by
  rw [comesToStore] at h
  rw [stored]
  rcases htext : c.text kind with f | text
  · rfl
  · rw [htext] at h
    obtain ⟨hwrite, himage⟩ : c.writeSource = false ∧ (c.image kind text).isOk = false := by simpa using h
    rcases hi : c.image kind text with f | image
    · simp [hwrite, hi]
    · rw [hi] at himage
      cases himage

/-- The bytes of a file of a diagram. -/
def bytes (c : Contents) (kind : DiagramKind) (ending : String) : List UInt8 :=
  match c.text kind with
  | .error _ => []
  | .ok text =>
    ((if ending = ".svg" then (c.image kind text).toOption else (Utf8.encode? text.toList).toOption)).getD []

/-- A file of a diagram is told by its ending. -/
theorem exists_ending_of_mem_stored {x : List String × List UInt8} (h : x ∈ c.stored refusal place kind) :
    ∃ ending ∈ kind.endings, x = (place (fileName c.name kind ending), c.bytes kind ending) := by
  have hother : kind.sourceExtension ≠ ".svg" := by cases kind <;> decide
  rw [stored] at h
  rcases htext : c.text kind with f | text
  · rw [htext] at h
    cases h
  · rw [htext] at h
    dsimp only at h
    split at h
    · cases h
    · rcases List.mem_append.mp h with h | h
      · refine ⟨kind.sourceExtension, List.mem_cons_of_mem _ List.mem_cons_self, ?_⟩
        rw [bytes, htext]
        dsimp only
        rw [if_neg hother]
        split at h
        · exact List.mem_singleton.mp h
        · cases h
      · refine ⟨".svg", List.mem_cons_self, ?_⟩
        rw [bytes, htext]
        dsimp only
        rw [if_pos rfl]
        rcases himage : c.image kind text with f | image
        · rw [himage] at h
          cases h
        · rw [himage] at h
          dsimp only at h
          split at h
          · cases h
          · exact List.mem_singleton.mp h

/-- **No two files of some diagrams are in one place.** -/
theorem eq_of_mem_stored {kinds : List DiagramKind} (hplace : ∀ name name', place name = place name' → name = name')
    {x x' : List String × List UInt8} (hx : x ∈ kinds.flatMap (c.stored refusal place))
    (hx' : x' ∈ kinds.flatMap (c.stored refusal place)) (heq : x.1 = x'.1) : x = x' := by
  obtain ⟨kind, -, hmem⟩ := List.mem_flatMap.mp hx
  obtain ⟨kind', -, hmem'⟩ := List.mem_flatMap.mp hx'
  obtain ⟨ending, hending, rfl⟩ := exists_ending_of_mem_stored hmem
  obtain ⟨ending', hending', rfl⟩ := exists_ending_of_mem_stored hmem'
  by_cases hsame : (kind, ending) = (kind', ending')
  · obtain ⟨rfl, rfl⟩ := Prod.mk.inj hsame
    rfl
  · exact absurd (hplace _ _ heq) (fileName_ne hending hending' hsame)

/-- What is to be stored is that of a system. -/
structure IsOf (c : Contents) (m : Model) (y : Ref .system) : Prop where
  name : c.name = (m.system y).name
  text : c.text = Diagram.textOf m y

theorem blank_of_noText {f : Fault} (htext : c.text kind = .error f) :
    c.blank kind = { kind, target := target c.directory c.name kind } := by
  simp [blank, htext, Except.toOption, Except.isOk, Except.toBool]

theorem blank_of_text (htext : c.text kind = .ok text) : c.blank kind =
    { kind, target := target c.directory c.name kind, source := some text,
      sourceFile := if c.writeSource then some (sourceTarget c.directory c.name kind) else none } := by
  simp [blank, htext, Except.toOption, Except.isOk, Except.toBool]

end Contents

end ExportPlan

/-! ### Attempts -/

namespace Exporter

open Studio ExportPlan

/-- The plan for a system of the studio, with another way to draw. -/
def planBy (e : Exporter) (y : Ref .system) (draw : DiagramKind → String → FilePath → Work FilePath) :
    ExportPlan Studio :=
  { e.plan y with draw }

section Attempts

variable {among : Studio → Prop} {draw : DiagramKind → String → FilePath → Work FilePath} {y : Ref .system}
  {s u : Studio} {c : Contents} {kind : DiagramKind} {text : String}

/-- Drawing by text stores the image of the text. -/
theorem exists_run_drawBy (hd : DrawsByText among c.image draw) (hu : among u) (e : Exporter) (y : Ref .system)
    (kind : DiagramKind) (text : String) (x : ExportResult) :
    ∃ o t, among t ∧ t.model = u.model ∧ t.host.here = u.host.here ∧
      ((planBy e y draw).draw kind text (target c.directory c.name kind) >>= fun _ => pure x).run u =
        (o.map fun _ => x, t) ∧
      (¬Aborts o → StoresImageIn (c.image kind text) u.host.files u.host.here c.folder (c.imageName kind) o
        t.host.files) ∧
      (c.Tellable kind → c.text kind = .ok text → ¬Aborts o) := by
  obtain ⟨o, h, t, hstore, hdraw, ht, hmodel, hworld⟩ := hd.run_draw kind text (target c.directory c.name kind) hu
  rw [Contents.target_eq] at hstore
  obtain ⟨hhere, houtcome, haborts⟩ := storesImageIn_of_run hstore
  have hfiles : t.host.files = h.files := Host.files_eq_of_world hworld
  refine ⟨o.map fun _ => (), t, ht, hmodel, (Host.here_eq_of_world hworld).trans hhere, ?_, fun ho => ?_,
    fun htell htext ho => ?_⟩
  · rcases o with f | place
    · exact Step.run_bind_of_error hdraw _
    · exact Step.run_bind_of_ok hdraw _
  · rw [aborts_map] at ho
    rw [hfiles]
    exact houtcome Contents.imageName_ne_up ho
  · rw [aborts_map] at ho
    rcases haborts ho with himage | hplace
    · exact htell.drawn text htext himage
    · exact htell.not_noPlace (Contents.target_eq ▸ htell.image) hplace

/-- The text that is wanted beside the image is stored as on any host. -/
theorem exists_run_sourceBy (hd : DrawsByText among c.image draw) (hu : among u) (e : Exporter) (y : Ref .system)
    (kind : DiagramKind) (text : String) :
    ∃ o fs, SourceStores u.host.files u.host.here (c.folder.inside (c.sourceName kind)) text o fs ∧
      ((planBy e y draw).onHost (storeSource (sourceTarget c.directory c.name kind) text)).run u =
        (o, { u with host := { u.host with files := fs } }) ∧ among { u with host := { u.host with files := fs } } := by
  obtain ⟨o, fs, hsource, hstore⟩ := exists_sourceStores u.host (sourceTarget c.directory c.name kind) text
  rw [Contents.sourceTarget_eq] at hsource
  refine ⟨o, fs, hsource, ?_, hd.ofHost hu rfl⟩
  show (Studio.onHost _).run u = _
  rw [Studio.onHost, Step.run_within, hstore]

/-- **An attempt that has its text** leaves what can be told beforehand, unless it ends the batch. -/
theorem exists_run_finishBy (hd : DrawsByText among c.image draw) (hu : among u) (e : Exporter) (y : Ref .system)
    (htext : c.text kind = .ok text) :
    ∃ o t, among t ∧ t.model = u.model ∧ t.host.here = u.host.here ∧
      ((planBy e y draw).finish c.name c.directory c.writeSource
        { kind, target := target c.directory c.name kind } text).run u = ((c.blank kind).record o, t) ∧
      (¬Aborts o → c.Leaves u.host.files u.host.here kind o t.host.files) ∧ (c.Tellable kind → ¬Aborts o) := by
  rw [Contents.blank_of_text htext]
  cases hwrite : c.writeSource with
  | false =>
    obtain ⟨o, t, ht, hmodel, hhere, hdraw, hstores, htell⟩ := exists_run_drawBy hd hu e y kind text _
    refine ⟨o, t, ht, hmodel, hhere, run_recording hdraw, fun ho => ?_, fun h => htell h htext⟩
    exact Contents.leaves_of_hasSource htext (Contents.hasSource_of_not_write hwrite) (hstores ho)
  | true =>
    obtain ⟨o, fs, hsource, honHost, hu'⟩ := exists_run_sourceBy hd hu e y kind text
    rcases o with f | _
    · refine ⟨.error f, _, hu', rfl, rfl, run_recording ?_, fun ho => ?_, fun htell ho => ?_⟩
      · show ((planBy e y draw).onHost _ >>= _).run u = _
        exact Step.run_bind_of_error honHost _
      · have hrefused := hsource.storesIn Contents.sourceName_ne_up ho
        rw [← Contents.sourceTarget_eq] at hrefused
        exact Contents.leaves_of_source_refused htext hwrite hrefused
      · rcases hsource.aborts_iff.mp ho with hplace | ⟨hhalves, -⟩
        · exact htell.not_noPlace (Contents.sourceTarget_eq ▸ htell.source hwrite) hplace
        · rw [htell.bytes text htext hwrite] at hhalves
          cases hhalves
    · -- the text is there, and the image is drawn after it
      obtain ⟨o, t, ht, hmodel, hhere, hdraw, hstores, htell⟩ := exists_run_drawBy hd hu' e y kind text _
      refine ⟨o, t, ht, hmodel, hhere, run_recording ((Step.run_bind_of_ok honHost _).trans hdraw), fun ho => ?_,
        fun h => htell h htext⟩
      have hstored := hsource.storesIn Contents.sourceName_ne_up (not_aborts_ok ())
      exact Contents.leaves_of_hasSource htext (Contents.hasSource_of_storesIn hwrite hstored) (hstores ho)

/-- **An attempt by text** leaves what can be told beforehand, unless it ends the batch. -/
theorem exists_run_exportOneBy (hd : DrawsByText among c.image draw) (hc : c.IsOf s.model y) (hs : among s)
    (e : Exporter) (kind : DiagramKind) :
    ∃ o t, among t ∧ t.model = s.model ∧ t.host.here = s.host.here ∧
      ((planBy e y draw).exportOne c.directory c.writeSource kind).run s = ((c.blank kind).record o, t) ∧
      (¬Aborts o → c.Leaves s.host.files s.host.here kind o t.host.files) ∧ (c.Tellable kind → ¬Aborts o) := by
  obtain ⟨h, hworld, hrun⟩ := exists_run_text e y kind s
  have hname : (planBy e y draw).name.run s = (.ok c.name, s) := by
    rw [hc.name]
    rfl
  have hfiles := Host.files_eq_of_world hworld
  have hhere := Host.here_eq_of_world hworld
  have hs' : among { s with host := h } := hd.ofHost hs (by rw [hworld, hfiles]; rfl)
  rw [← hc.text] at hrun
  rcases htext : c.text kind with f | text
  · rw [htext] at hrun
    refine ⟨.error f, { s with host := h }, hs', rfl, hhere, ?_, fun _ => ?_, fun htell ho => ?_⟩
    · rw [Contents.blank_of_noText htext]
      exact ExportPlan.run_exportOne_of_noText (p := planBy e y draw) hname hrun
    · rw [hfiles]
      exact Contents.leaves_of_noText htext
    · exact htell.text (htext ▸ (aborts_error f).mpr ((aborts_error f).mp ho))
  · rw [htext] at hrun
    rw [ExportPlan.run_exportOne_of_text (p := planBy e y draw) hname hrun, ← hfiles, ← hhere]
    exact exists_run_finishBy hd hs' e y htext

end Attempts

end Exporter

end Landscape
