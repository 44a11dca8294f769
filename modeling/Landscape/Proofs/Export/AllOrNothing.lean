import Landscape.Proofs.Export.Attempt
import Landscape.Proofs.Host.Apart
import Landscape.Proofs.Loading.Closed

/-!
# An image is all or nothing

An attempt stores at most two files: the text beside the image, and after everything else the image. The two paths lead
apart (`Landscape.ExportPlan.apart_target_sourceTarget`), so neither of them can spoil what is stored at the other.

Hence a diagram that failed has left what is stored where its path leads (`Landscape.ExportResult.KeepsImage`), and a
diagram that was drawn has its image as a whole, with the text beside it if that was wanted
(`Landscape.ExportResult.HoldsImage`). No other file changes in either case.

What a failed diagram does not keep is where its path leads. A way up behind a directory that is missing leads nowhere,
and storing the text makes that directory. Then the path leads to whatever has been at its end all along, and an image
from another time is found where none could be found before (`Landscape.Exporter.exists_image_found_after_failure`).
-/

namespace Landscape

/-! ### The two paths -/

/-- **The image and its text are never in one place**, whatever the name of the system. -/
theorem ExportPlan.apart_target_sourceTarget (directory : FilePath) (name : String) (kind : DiagramKind) :
    (ExportPlan.target directory name kind).Apart (ExportPlan.sourceTarget directory name kind) := by
  cases kind with
  | simple => exact directory.apart_child _ (by decide) (by decide) (by decide) (by decide) (by decide)
  | uml => exact directory.apart_child _ (by decide) (by decide) (by decide) (by decide) (by decide)

/-! ### What the files are afterwards -/

/-- **The image is kept**: what a failed diagram may have done to the files. -/
structure ExportResult.KeepsImage (r : ExportResult) (here : List String) (files left : FileSystem) : Prop where
  /-- No file has changed but the one with the text. -/
  only : FileSystem.ChangesOnlyAt here r.sourceFile.toList files left
  /-- Where the path of the image leads, there is what was there. -/
  image : ∀ q, left.Leads here r.target q → left.file? q = files.file? q
  /-- If the path led somewhere before, it is a path to what it was a path to. -/
  ofLeads : (∃ q, files.Leads here r.target q) → left.fileOf? here r.target = files.fileOf? here r.target
  /-- So it is if it has no way up, which could lead through a directory that was made. -/
  ofRooted : files.Rooted → ".." ∉ r.target.parts →
    left.fileOf? here r.target = files.fileOf? here r.target

/-- **The image is there**: what a diagram that was drawn has done to the files. -/
structure ExportResult.HoldsImage (r : ExportResult) (here : List String) (files left : FileSystem)
    (writeSource : Bool) (text : String) (image : List UInt8) : Prop where
  /-- No file has changed but those with the image and the text. -/
  only : FileSystem.ChangesOnlyAt here (r.target :: r.sourceFile.toList) files left
  /-- The image is stored as a whole. -/
  image : left.fileOf? here r.target = some image
  /-- So is the text, if it is wanted. -/
  source : writeSource = true → ∃ p bytes, r.sourceFile = some p ∧ Utf8.encode? text.toList = .ok bytes ∧
    left.fileOf? here p = some bytes
  noSource : writeSource = false → r.sourceFile = none

variable {r : ExportResult} {here : List String} {files fs left : FileSystem} {p : FilePath} {text : String}
  {writeSource : Bool}

/-- If only the file with the text has changed, the image is kept. -/
theorem ExportResult.keepsImage (hapart : r.target.Apart p) (hsource : ∀ p' ∈ r.sourceFile, p' = p)
    (honly : FileSystem.ChangesOnlyAt here r.sourceFile.toList files left) : r.KeepsImage here files left := by
  have himage : ∀ q, left.Leads here r.target q → left.file? q = files.file? q := by
    refine fun q hq => honly.file?_eq q fun p' hp' => ?_
    rw [hsource p' (Option.mem_toList.mp hp')]
    exact hapart.not_leads hq
  have hleads : ∀ q, files.Leads here r.target q →
      left.fileOf? here r.target = files.fileOf? here r.target := by
    intro q hq
    have hq' := FileSystem.leads_of_keepsDirectories honly.keeps hq
    rw [hapart.fileOf?_eq hq', hapart.fileOf?_eq hq, himage q hq']
  refine ⟨honly, himage, fun ⟨q, hq⟩ => hleads q hq, fun hrooted hup => ?_⟩
  cases hleft : left.fileOf? here r.target with
  | some bytes =>
    -- a file that is there afterwards was there before, so the path led to it
    obtain ⟨q, hq⟩ := FileSystem.exists_leads_of_fileOf? hleft
    have hfile := himage q hq
    rw [← hapart.fileOf?_eq hq, hleft] at hfile
    have hfind : files.find? q ≠ none := by
      intro hnone
      rw [FileSystem.file?, hnone] at hfile
      cases hfile
    rw [← hleads q (hrooted.leads hup hq hfind), hleft]
  | none =>
    cases hbefore : files.fileOf? here r.target with
    | none => rfl
    | some bytes =>
      obtain ⟨q, hq⟩ := FileSystem.exists_leads_of_fileOf? hbefore
      rw [← hleads q hq, hleft] at hbefore
      cases hbefore

/-! ### The file beside the image -/

/-- Storing a text that fails as a diagram can fail changes no file. -/
theorem SourceStores.addsDirectories {f : DiagramFault}
    (h : SourceStores files here p text (.error (.diagram f)) fs) : files.AddsDirectories fs := by
  generalize ho : (Except.error (.diagram f) : Except Fault Unit) = o at h
  cases h with
  | @bytes _ r _ _ hstores =>
    cases r with
    | error f' => exact hstores.addsDirectories
    | ok u => cases ho
  | refused _ hstores => exact hstores.addsDirectories
  | halves => cases ho

/-- A text that was stored is there as a whole. -/
theorem SourceStores.exists_bytes (h : SourceStores files here p text (.ok ()) fs) :
    ∃ bytes, Utf8.encode? text.toList = .ok bytes ∧ Host.Stores files here p bytes (.ok ()) fs := by
  generalize ho : (Except.ok () : Except Fault Unit) = o at h
  cases h with
  | @bytes bytes r _ hbytes hstores =>
    cases r with
    | error f' => cases ho
    | ok u => exact ⟨bytes, hbytes, hstores⟩
  | refused => cases ho
  | halves => cases ho

/-- Making the text ready changes at most its own file. -/
theorem SourceReady.changesOnlyAt (h : SourceReady writeSource files here p text fs) :
    FileSystem.ChangesOnlyAt here (if writeSource then some p else none).toList files fs := by
  obtain ⟨rfl, hsource⟩ | ⟨rfl, rfl⟩ := h
  · obtain ⟨bytes, -, hstores⟩ := hsource.exists_bytes
    exact hstores.changesOnlyAt
  · exact (FileSystem.AddsDirectories.refl _).changesOnlyAt

/-- The text is ready after the step that stores it, if it is wanted. -/
theorem SourceReady.run_eq {h : Host} (hready : SourceReady writeSource h.files h.here p text fs) :
    (if writeSource then ExportPlan.storeSource p text else pure () : Step Fault Host Unit).run h =
      (.ok (), { h with files := fs }) := by
  obtain ⟨rfl, hsource⟩ | ⟨rfl, rfl⟩ := hready
  · obtain ⟨o, fs', hsource', hrun⟩ := exists_sourceStores h p text
    obtain ⟨rfl, rfl⟩ := hsource.unique hsource'
    exact hrun
  · rfl

/-! ### The attempt -/

namespace Exporter

variable {e : Exporter} {y : Ref .system} {directory : FilePath} {s t : Studio} {kind : DiagramKind}
  {o : Except Fault Unit} {w : Host}

/-- The two files of an attempt. -/
theorem Attempts.files_eq (h : Attempts e y directory writeSource s kind r o w) :
    r.target = ExportPlan.target directory (s.model.system y).name kind ∧
      (∀ p ∈ r.sourceFile, p = ExportPlan.sourceTarget directory (s.model.system y).name kind) ∧
      r.fault = none := by
  cases h with
  | noText => exact ⟨rfl, nofun, rfl⟩
  | noSource => exact ⟨rfl, fun p hp => (Option.mem_some.mp hp).symm, rfl⟩
  | drawn =>
    refine ⟨rfl, fun p hp => ?_, rfl⟩
    cases writeSource with
    | true => exact (Option.mem_some.mp hp).symm
    | false => cases hp

/-- **An attempt that fails** has changed no file but the one with the text. -/
theorem Attempts.changesOnlyAt {f : DiagramFault}
    (h : Attempts e y directory writeSource s kind r (.error (.diagram f)) w) :
    FileSystem.ChangesOnlyAt s.host.here r.sourceFile.toList s.host.files w.files := by
  generalize ho : (Except.error (.diagram f) : Except Fault Unit) = o at h
  cases h with
  | noText => exact (FileSystem.AddsDirectories.refl _).changesOnlyAt
  | noSource htext hwrite hsource =>
    cases ho
    have hadds := hsource.addsDirectories
    exact ⟨hadds.keeps, fun q _ => hadds.file?_eq q⟩
  | drawn htext hsource hdraws =>
    have honly := hsource.changesOnlyAt
    cases hdraws with
    | noImage => exact honly
    | nothing => cases ho
    | @stores image r fs _ hstores =>
      cases r with
      | ok u => cases ho
      | error f' => exact honly.trans (FileSystem.AddsDirectories.changesOnlyAt hstores.addsDirectories)

/-- **An attempt that succeeds** has stored what the renderer produced, after the text was ready. -/
theorem Attempts.exists_stores (hrenderer : ∀ m, s.renderer (e.diagram y kind).renderer ≠ .memory m)
    (h : Attempts e y directory writeSource s kind r (.ok ()) w) :
    ∃ text fs image, r.source = some text ∧
      r.sourceFile = (if writeSource then
        some (ExportPlan.sourceTarget directory (s.model.system y).name kind) else none) ∧
      SourceReady writeSource s.host.files s.host.here
        (ExportPlan.sourceTarget directory (s.model.system y).name kind) text fs ∧
      (s.renderer (e.diagram y kind).renderer).Produces { s.host with files := fs } text image ∧
      Host.Stores fs s.host.here r.target image (.ok ()) w.files := by
  generalize ho : (Except.ok () : Except Fault Unit) = o at h
  cases h with
  | noText => cases ho
  | noSource => cases ho
  | @drawn text fs _ _ htext hsource hdraws =>
    cases hdraws with
    | noImage => cases ho
    | nothing himage =>
      obtain ⟨image, himage', -⟩ := Renderer.exists_produces hrenderer himage
      cases himage'
    | @stores image r fs' himage hstores =>
      obtain ⟨_, hsome, hproduces⟩ := Renderer.exists_produces hrenderer himage
      cases hsome
      cases r with
      | error f' => cases ho
      | ok u => exact ⟨text, fs, image, rfl, rfl, hsource, hproduces, hstores⟩

/-- Once the image is stored beside a text that was ready, both are there. -/
theorem holdsImage_of_stores {image : List UInt8} (hapart : r.target.Apart p)
    (hfile : r.sourceFile = if writeSource then some p else none)
    (hsource : SourceReady writeSource files here p text fs)
    (hstores : Host.Stores fs here r.target image (.ok ()) left) :
    r.HoldsImage here files left writeSource text image := by
  have honly : FileSystem.ChangesOnlyAt here r.sourceFile.toList files fs := by
    rw [hfile]
    exact hsource.changesOnlyAt
  obtain ⟨q, hq, himage, hkeep, hothers⟩ := hstores.exists_leads
  refine ⟨honly.trans hstores.changesOnlyAt, ?_, fun hwrite => ?_, fun hwrite => by simp [hfile, hwrite]⟩
  · rw [hapart.fileOf?_eq hq, himage]
  · obtain ⟨-, hsource⟩ | ⟨hnot, -⟩ := hsource
    · obtain ⟨bytes, hbytes, hstores'⟩ := hsource.exists_bytes
      obtain ⟨q', hq', htext, -⟩ := hstores'.exists_leads
      have hleads := FileSystem.leads_of_keepsDirectories hkeep hq'
      refine ⟨p, bytes, by simp [hfile, hwrite], hbytes, ?_⟩
      -- the image is at another place, so the text is still there
      have hne : q' ≠ q := by
        rintro rfl
        exact hapart.not_leads hq hleads
      rw [hapart.symm.fileOf?_eq hleads, hothers q' hne, htext]
    · simp [hwrite] at hnot

/-- An attempt whose text is ready and has no image fails, and leaves the files with the text. -/
theorem Attempts.eq_of_noImage {f : Fault} (h : Attempts e y directory writeSource s kind r o w)
    (htext : Diagram.textOf s.model y kind = .ok text)
    (hsource : SourceReady writeSource s.host.files s.host.here
      (ExportPlan.sourceTarget directory (s.model.system y).name kind) text fs)
    (himage : (s.renderer (e.diagram y kind).renderer).imageIn { s.host with files := fs } text = .error f) :
    o = .error f ∧ w.files = fs := by
  cases h with
  | noText htext' => simp [htext] at htext'
  | noSource htext' hwrite hsource' =>
    rw [htext] at htext'
    cases htext'
    obtain ⟨-, hsource⟩ | ⟨hnot, -⟩ := hsource
    · cases (hsource.unique hsource').1
    · simp [hwrite] at hnot
  | drawn htext' hsource' hdraws =>
    rw [htext] at htext'
    cases htext'
    obtain rfl := hsource.unique hsource'
    cases hdraws with
    | noImage himage' =>
      rw [himage] at himage'
      cases himage'
      exact ⟨rfl, rfl⟩
    | nothing himage' => simp [himage] at himage'
    | stores himage' => simp [himage] at himage'

/-- An attempt whose text and image are there and can be stored succeeds, and leaves the files with the image. -/
theorem Attempts.eq_of_stores {image : List UInt8} (h : Attempts e y directory false s kind r o w)
    (htext : Diagram.textOf s.model y kind = .ok text)
    (himage : (s.renderer (e.diagram y kind).renderer).imageIn s.host text = .ok (some image))
    (hstores : Host.Stores s.host.files s.host.here
      (ExportPlan.target directory (s.model.system y).name kind) image (.ok ()) fs) : o = .ok () ∧ w.files = fs := by
  obtain ⟨p, hdraws, rfl⟩ := h.exists_draws htext
  cases hdraws with
  | noImage himage' => simp [himage] at himage'
  | nothing himage' => simp [himage] at himage'
  | stores himage' hstores' =>
    rw [himage] at himage'
    cases himage'
    obtain ⟨rfl, rfl⟩ := hstores.unique hstores'
    exact ⟨rfl, rfl⟩

/-- **An image is all or nothing.** Whenever an attempt with a renderer of images answers a record, its files are the two
that belong to the diagram, and they lead apart. If the diagram failed, its image is what it was, and no file but the
one with the text has changed. If it was drawn, then after the text was stored, as far as it is wanted, the renderer
produced an image from it, the files hold both as a whole, and no other file has changed. -/
theorem allOrNothing_of_exportOne {e : Exporter} {y : Ref .system} {directory : FilePath} {writeSource : Bool}
    {kind : DiagramKind} {s t : Studio} {r : ExportResult}
    (hrenderer : ∀ m, s.renderer (e.diagram y kind).renderer ≠ .memory m)
    (hrun : ((e.plan y).exportOne directory writeSource kind).run s = (.ok r, t)) :
    r.target = ExportPlan.target directory (s.model.system y).name kind ∧
    (∀ p ∈ r.sourceFile, p = ExportPlan.sourceTarget directory (s.model.system y).name kind ∧
      r.target.Apart p) ∧
    (r.isOk = false → r.KeepsImage s.host.here s.host.files t.host.files) ∧
    (r.isOk = true → ∃ text image h, r.source = some text ∧
      (if writeSource then
          ExportPlan.storeSource (ExportPlan.sourceTarget directory (s.model.system y).name kind) text
        else pure () : Step Fault Host Unit).run s.host = (.ok (), h) ∧
      (s.renderer (e.diagram y kind).renderer).Produces h text image ∧
      r.HoldsImage s.host.here s.host.files t.host.files writeSource text image) := by
  have hapart := ExportPlan.apart_target_sourceTarget directory (s.model.system y).name kind
  obtain ⟨r', o, t', hends, -, hrun'⟩ := exists_attempts e y directory writeSource s kind
  rw [hrun'] at hrun
  obtain ⟨htarget, hsource, hfault⟩ := hends.files_eq
  rw [← htarget] at hapart
  rcases o with f | u
  · obtain ⟨f, rfl⟩ : ∃ f', f = .diagram f' := by
      cases f <;> first | exact ⟨_, rfl⟩ | cases hrun
    cases hrun
    refine ⟨htarget, fun p hp => ⟨hsource p hp, hsource p hp ▸ hapart⟩, fun _ => ?_, nofun⟩
    exact ExportResult.keepsImage hapart hsource hends.changesOnlyAt
  · cases hrun
    refine ⟨htarget, fun p hp => ⟨hsource p hp, hsource p hp ▸ hapart⟩, fun hfailed => ?_, fun _ => ?_⟩
    · simp [ExportResult.isOk, hfault] at hfailed
    · obtain ⟨text, fs, image, htext, hfile, hready, hproduces, hstores⟩ := hends.exists_stores hrenderer
      exact ⟨text, image, _, htext, hready.run_eq, hproduces, holdsImage_of_stores hapart hfile hready hstores⟩

/-- A studio with a layout engine that draws. -/
def drawingStudio (m : Model) : Studio where
  model := m
  renderers := ⟨[.usualForGraphs]⟩
  host := { draws := .drawn [60] }

/-- In such a studio, the graph of a landscape is drawn, and its image is there. -/
theorem allOrNothing_of_exportOne_drawingStudio : ∃ m y r t, Model.load {} loneDocument = .ok (y, m) ∧
    (((⟨⟨0⟩, ⟨1⟩⟩ : Exporter).plan y).exportOne {} false .simple).run (drawingStudio m) = (.ok r, t) ∧
    r.isOk = true ∧ ∃ image, t.host.files.fileOf? [] r.target = some image := by
  obtain ⟨y, m, hload, hp⟩ := Model.exists_load_of_any {} loneDocument
    (fun r => (Diagram.textOf r.2 r.1 .simple).toOption.isSome && (r.2.system r.1).name == "S") (by decide +kernel)
  obtain ⟨htext, hname⟩ : (Diagram.textOf m y .simple).toOption.isSome ∧ (m.system y).name = "S" := by
    simpa using hp
  obtain ⟨r, o, t, hends, -, hrun⟩ := exists_attempts ⟨⟨0⟩, ⟨1⟩⟩ y {} false (drawingStudio m) .simple
  have hmade : FileSystem.ensureDirectory {} [] (ExportPlan.target {} "S" .simple).parent = ({}, none) := by
    decide +kernel
  have hwrite : (FileSystem.write {} [] (ExportPlan.target {} "S" .simple) [60]).toOption.isSome := by
    decide +kernel
  cases hwritten : FileSystem.write {} [] (ExportPlan.target {} "S" .simple) [60] with
  | error f => simp [hwritten, Except.toOption] at hwrite
  | ok fs =>
    have hstores : Host.Stores {} [] (ExportPlan.target {} "S" .simple) [60] (.ok ()) fs :=
      .written (Host.unusable?_eq_none (by decide +kernel) (by decide +kernel)) hmade
        (Host.unusable?_eq_none (by decide +kernel) (by decide +kernel)) hwritten
    rw [← hname] at hstores
    obtain ⟨text, htext⟩ : ∃ text, Diagram.textOf m y .simple = .ok text := by
      cases h : Diagram.textOf m y .simple with
      | error f => simp [h, Except.toOption] at htext
      | ok text => exact ⟨text, rfl⟩
    have himage : ((drawingStudio m).renderer ⟨0⟩).imageIn (drawingStudio m).host text = .ok (some [60]) := rfl
    obtain ⟨rfl, -⟩ := hends.eq_of_stores htext himage hstores
    have hok : r.isOk = true := by
      obtain ⟨-, -, hfault⟩ := hends.files_eq
      rw [ExportResult.isOk, hfault]
      rfl
    have hrenderer : ∀ k, (drawingStudio m).renderer ⟨0⟩ ≠ .memory k := by
      intro k h
      cases (h : Renderer.usualForGraphs = .memory k)
    obtain ⟨-, -, -, hdrawn⟩ := allOrNothing_of_exportOne hrenderer hrun
    obtain ⟨_, image, _, _, _, _, hholds⟩ := hdrawn hok
    exact ⟨m, y, r, t, hload, hrun, hok, image, hholds.image⟩

/-- Files with an image from another time. -/
def staleImage : FileSystem :=
  ⟨[(["S_simpleDiagram.svg"], .file [111])]⟩

/-- The text of the diagram that is wanted there. -/
def loneText : String :=
  "strict digraph G \x7b\n\tA [label=A]\n\x7d\n"

/-- Storing the text in the directory `n/..` makes `n`, and then the path of the image leads to the file that is there. -/
theorem exists_sourceStores_staleImage : ∃ fs,
    SourceStores staleImage [] (ExportPlan.sourceTarget { parts := ["n", ".."] } "S" .simple) loneText (.ok ()) fs ∧
      fs.fileOf? [] (ExportPlan.target { parts := ["n", ".."] } "S" .simple) = some [111] := by
  have hmade : staleImage.ensureDirectory [] (ExportPlan.sourceTarget { parts := ["n", ".."] } "S" .simple).parent =
      (⟨[(["S_simpleDiagram.svg"], .file [111]), (["n"], .directory)]⟩, none) := by decide +kernel
  have hwritten : FileSystem.write ⟨[(["S_simpleDiagram.svg"], .file [111]), (["n"], .directory)]⟩ []
      (ExportPlan.sourceTarget { parts := ["n", ".."] } "S" .simple) (Utf8.encode loneText.toList) =
        .ok ⟨[(["S_simpleDiagram.svg"], .file [111]), (["n"], .directory),
          (["S_simpleDiagram.dot"], .file (Utf8.encode loneText.toList))]⟩ := by decide +kernel
  have hstores := Host.Stores.written (Host.unusable?_eq_none (by decide +kernel) (by decide +kernel)) hmade
    (Host.unusable?_eq_none (by decide +kernel) (by decide +kernel)) hwritten
  exact ⟨_, .bytes (r := .ok ()) (by decide +kernel) hstores, by decide +kernel⟩

/-- A studio with such files, and without a layout engine. -/
def idleStudio (m : Model) : Studio where
  model := m
  renderers := ⟨[.usualForGraphs]⟩
  host := { files := staleImage, draws := .missing }

/-- **A diagram that failed may have an image that it had not before.** The directory `n/..` leads nowhere as long as
there is no `n`. Storing the text makes it, and an image from another time is found, although none was drawn. -/
theorem exists_image_found_after_failure : ∃ m y r t, Model.load {} loneDocument = .ok (y, m) ∧
    (((⟨⟨0⟩, ⟨1⟩⟩ : Exporter).plan y).exportOne { parts := ["n", ".."] } true .simple).run (idleStudio m) =
      (.ok r, t) ∧
    r.isOk = false ∧ (idleStudio m).host.files.fileOf? [] r.target = none ∧
    t.host.files.fileOf? [] r.target = some [111] := by
  obtain ⟨y, m, hload, hp⟩ := Model.exists_load_of_any {} loneDocument (fun r => (r.2.system r.1).name == "S" &&
    (Diagram.textOf r.2 r.1 .simple).toOption == some loneText) (by decide +kernel)
  obtain ⟨hname, htext⟩ : (m.system y).name = "S" ∧ (Diagram.textOf m y .simple).toOption = some loneText := by
    simpa using hp
  replace htext : Diagram.textOf m y .simple = .ok loneText := by
    cases h : Diagram.textOf m y .simple with
    | error f => simp [h, Except.toOption] at htext
    | ok text =>
      rw [h] at htext
      cases htext
      rfl
  obtain ⟨fs, hsource, hfound⟩ := exists_sourceStores_staleImage
  rw [← hname] at hsource hfound
  obtain ⟨r, o, t, hends, -, hrun⟩ := exists_attempts ⟨⟨0⟩, ⟨1⟩⟩ y { parts := ["n", ".."] } true (idleStudio m) .simple
  obtain ⟨rfl, hfiles⟩ := hends.eq_of_noImage htext (.inl ⟨rfl, hsource⟩) rfl
  obtain ⟨htarget, -, -⟩ := hends.files_eq
  refine ⟨m, y, _, t, hload, hrun, rfl, ?_, ?_⟩
  · have hnone : staleImage.fileOf? [] (ExportPlan.target { parts := ["n", ".."] } "S" .simple) = none := by
      decide +kernel
    rw [← hname] at hnone
    exact (congrArg (FileSystem.fileOf? staleImage []) htarget).trans hnone
  · have hfiles : t.host.files = fs := hfiles
    show t.host.files.fileOf? [] r.target = some [111]
    rw [htarget, hfiles]
    exact hfound

end Exporter

end Landscape
