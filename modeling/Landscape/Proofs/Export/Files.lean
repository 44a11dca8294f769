import Landscape.Proofs.Export.AllOrNothing
import Landscape.Proofs.Export.Batch
import Landscape.Proofs.Host.Directories
import Landscape.Proofs.Text.Alias

/-!
# The files of an export

An export stores at most two files for each kind of diagram, and their names differ in what follows the alias of the
system (`Landscape.ExportPlan.file`). So no two of them are ever in one place
(`Landscape.ExportPlan.apart_file`), and all of them are in one directory (`Landscape.ExportPlan.file_eq_inside`). No
other file changes, however the export ends (`Landscape.Exporter.leaves_run`).

But an alias may hold slashes, and then this directory is not the one that was asked for
(`Landscape.Exporter.places_of_run`). It may even be outside of it: see `Landscape.Exporter.exists_file_outside`.
-/

namespace Landscape

/-! ### The names of the files -/

/-- How the names of the files for a kind of diagram end: that of the image, and that of the text. -/
def DiagramKind.endings (kind : DiagramKind) : List String :=
  [".svg", kind.sourceExtension]

namespace ExportPlan

variable {directory : FilePath} {name : String} {kind kind' : DiagramKind} {ending ending' : String}

/-- Where a file for a kind of diagram goes. -/
def file (directory : FilePath) (name : String) (kind : DiagramKind) (ending : String) : FilePath :=
  directory.child (stem name kind ++ ending)

/-- The directory that holds the files, seen from where they are wanted. -/
def folder (directory : FilePath) (name : String) : FilePath :=
  directory.join (FilePath.folder (aliasOf name))

/-- The name of a file in this directory. -/
def fileName (name : String) (kind : DiagramKind) (ending : String) : String :=
  FilePath.lastName (aliasOf name) ++ (kind.fileSuffix ++ ending)

/-- The files for a kind of diagram. -/
def filesFor (directory : FilePath) (name : String) (writeSource : Bool) (kind : DiagramKind) : List FilePath :=
  target directory name kind :: if writeSource then [sourceTarget directory name kind] else []

/-- What comes after the alias is long, holds no slash, and tells the files apart. -/
theorem afterAlias_spec (hending : ending ∈ kind.endings) (hending' : ending' ∈ kind'.endings) :
    '/' ∉ (kind.fileSuffix ++ ending).toList ∧ 3 ≤ (kind.fileSuffix ++ ending).toList.length ∧
      ((kind, ending) ≠ (kind', ending') → kind.fileSuffix ++ ending ≠ kind'.fileSuffix ++ ending') := by
  have hends : ∀ {k : DiagramKind} {e : String}, e ∈ k.endings → e = ".svg" ∨ e = k.sourceExtension := by
    intro k e he
    simpa [DiagramKind.endings] using he
  rcases hends hending with rfl | rfl <;> rcases hends hending' with rfl | rfl <;> cases kind <;> cases kind' <;>
    decide

theorem file_eq (directory : FilePath) (name : String) (kind : DiagramKind) (ending : String) :
    file directory name kind ending = directory.child (aliasOf name ++ (kind.fileSuffix ++ ending)) := by
  rw [file, stem, String.append_assoc]

/-- **All files are in one directory.** -/
theorem file_eq_inside (hending : ending ∈ kind.endings) :
    file directory name kind ending = (folder directory name).inside (fileName name kind ending) := by
  obtain ⟨hmark, hlong, -⟩ := afterAlias_spec hending hending
  rw [file_eq, FilePath.child_append _ _ hmark (by omega)]
  rfl

/-- No file has the name of the way up. -/
theorem fileName_ne_up (hending : ending ∈ kind.endings) : fileName name kind ending ≠ ".." := by
  obtain ⟨-, hlong, -⟩ := afterAlias_spec hending hending
  exact FilePath.append_ne_up _ hlong

/-- Two files have two names. -/
theorem fileName_ne (hending : ending ∈ kind.endings) (hending' : ending' ∈ kind'.endings)
    (hne : (kind, ending) ≠ (kind', ending')) : fileName name kind ending ≠ fileName name kind' ending' := by
  obtain ⟨-, -, hdiffer⟩ := afterAlias_spec hending hending'
  intro heq
  exact hdiffer hne (String.toList_inj.mp (by simpa [fileName] using congrArg String.toList heq))

/-- **No two files are ever in one place.** -/
theorem apart_file (hending : ending ∈ kind.endings) (hending' : ending' ∈ kind'.endings)
    (hne : (kind, ending) ≠ (kind', ending')) :
    (file directory name kind ending).Apart (file directory name kind' ending') := by
  rw [file_eq_inside hending, file_eq_inside hending']
  exact FilePath.apart_inside (fileName_ne_up hending) (fileName_ne_up hending') (fileName_ne hending hending' hne)

theorem mem_filesFor {writeSource : Bool} {p : FilePath} (h : p ∈ filesFor directory name writeSource kind) :
    ∃ ending ∈ kind.endings, (ending = kind.sourceExtension → writeSource = true) ∧
      p = file directory name kind ending := by
  rcases List.mem_cons.mp h with rfl | h
  · refine ⟨".svg", List.mem_cons_self, ?_, rfl⟩
    intro hsame
    cases kind <;> exact absurd hsame (by decide)
  · cases writeSource with
    | false => cases h
    | true =>
      refine ⟨kind.sourceExtension, List.mem_cons_of_mem _ List.mem_cons_self, fun _ => rfl, ?_⟩
      exact List.mem_singleton.mp h

/-- There is a slash in the alias of a name if there is one in the name. -/
theorem mem_aliasOf_iff : '/' ∈ (aliasOf name).toList ↔ '/' ∈ name.toList := by
  rw [toList_aliasOf, List.mem_filter]
  exact and_iff_left (by decide)

/-- **The files are where they are wanted** if and only if the name of the system holds no slash. -/
theorem file_eq_inside_iff (hending : ending ∈ kind.endings) :
    file directory name kind ending = directory.inside (stem name kind ++ ending) ↔ '/' ∉ name.toList := by
  obtain ⟨hmark, hlong, -⟩ := afterAlias_spec hending hending
  rw [file_eq, stem, String.append_assoc, FilePath.child_eq_inside_iff hmark (by omega), mem_aliasOf_iff]

end ExportPlan

/-! ### What an export leaves alone -/

/-- However storing the text beside the image ends, it changes at most its own file. -/
theorem SourceStores.changesOnlyAt {files fs : FileSystem} {here : List String} {p : FilePath} {text : String}
    {o : Except Fault Unit} (h : SourceStores files here p text o fs) :
    FileSystem.ChangesOnlyAt here [p] files fs := by
  rcases h with ⟨-, hstores⟩ | ⟨-, hstores⟩ | ⟨-, hstores⟩ <;> exact hstores.changesOnlyAt

/-- However a drawing ends, it changes at most the file with the image, and stays where it is. -/
theorem Renderer.Draws.changesOnlyAt {k : Renderer} {w left : Host} {text : String} {target : FilePath}
    {r : Except Fault FilePath} (h : k.Draws w text target r left) :
    left.here = w.here ∧ FileSystem.ChangesOnlyAt w.here [target] w.files left.files := by
  rcases h with - | - | ⟨-, hstores⟩
  · exact ⟨rfl, (FileSystem.AddsDirectories.refl _).changesOnlyAt.mono (List.nil_subset _)⟩
  · exact ⟨rfl, (FileSystem.AddsDirectories.refl _).changesOnlyAt.mono (List.nil_subset _)⟩
  · exact ⟨rfl, hstores.changesOnlyAt⟩

/-- **A studio that an export leaves**: the models and the current directory are as they were, and no file has changed but
at some paths. -/
structure Studio.Leaves (ps : List FilePath) (s t : Studio) : Prop where
  model : t.model = s.model
  here : t.host.here = s.host.here
  files : FileSystem.ChangesOnlyAt s.host.here ps s.host.files t.host.files

namespace Studio.Leaves

variable {s t u : Studio} {ps ps' : List FilePath}

theorem refl (ps : List FilePath) (s : Studio) : Leaves ps s s :=
  ⟨rfl, rfl, (FileSystem.AddsDirectories.refl _).changesOnlyAt.mono (List.nil_subset _)⟩

theorem mono (h : Leaves ps s t) (hps : ps ⊆ ps') : Leaves ps' s t :=
  ⟨h.model, h.here, h.files.mono hps⟩

/-- One part of an export after the other. -/
theorem trans (h : Leaves ps s t) (h' : Leaves ps' t u) : Leaves (ps ++ ps') s u := by
  have hfiles := h'.files
  rw [h.here] at hfiles
  refine ⟨h'.model.trans h.model, h'.here.trans h.here, (h.files.trans hfiles).mono ?_⟩
  exact List.append_subset.mpr ⟨List.subset_append_right _ _, List.subset_append_left _ _⟩

end Studio.Leaves

namespace Exporter

open ExportPlan Studio

variable {e : Exporter} {y : Ref .system} {directory : FilePath} {writeSource : Bool} {s t : Studio}
  {kind : DiagramKind} {r : ExportResult} {o : Except Fault Unit} {w : Host}

/-- **However an attempt ends**, it changes at most its own files. -/
theorem Attempts.changesOnlyAt_filesFor (h : Attempts e y directory writeSource s kind r o w) :
    w.here = s.host.here ∧ FileSystem.ChangesOnlyAt s.host.here
      (filesFor directory (s.model.system y).name writeSource kind) s.host.files w.files := by
  rcases h with - | ⟨-, rfl, hsource⟩ | ⟨-, hsource, hdraws⟩
  · exact ⟨rfl, (FileSystem.AddsDirectories.refl _).changesOnlyAt.mono (List.nil_subset _)⟩
  · exact ⟨rfl, hsource.changesOnlyAt.mono (List.subset_cons_self _ _)⟩
  · obtain ⟨hhere, himage⟩ := hdraws.changesOnlyAt
    refine ⟨hhere, (hsource.changesOnlyAt.trans himage).mono ?_⟩
    intro p hp
    rcases List.mem_append.mp hp with hp | hp
    · exact List.mem_cons.mpr (.inl (List.mem_singleton.mp hp))
    · cases writeSource with
      | false => cases hp
      | true => exact List.mem_cons_of_mem _ hp

/-- What the export of one kind of diagram leaves. -/
theorem leaves_exportOne (e : Exporter) (y : Ref .system) (directory : FilePath) (writeSource : Bool)
    (kind : DiagramKind) (s : Studio) :
    Leaves (filesFor directory (s.model.system y).name writeSource kind) s
      (((e.plan y).exportOne directory writeSource kind).run s).2 := by
  obtain ⟨r, o, t, hends, hmodel, hrun⟩ := exists_attempts e y directory writeSource s kind
  rw [hrun]
  obtain ⟨hhere, hfiles⟩ := hends.changesOnlyAt_filesFor
  exact ⟨hmodel, hhere, hfiles⟩

/-- **What the export of some kinds of diagrams leaves**, one after the other. -/
theorem leaves_exportAll (e : Exporter) (y : Ref .system) (directory : FilePath) (writeSource : Bool)
    (kinds : List DiagramKind) (s : Studio) :
    Leaves (kinds.flatMap (filesFor directory (s.model.system y).name writeSource)) s
      (((e.plan y).exportAll directory writeSource kinds).run s).2 := by
  induction kinds generalizing s with
  | nil => exact .refl _ s
  | cons kind kinds ih =>
    have hone := leaves_exportOne e y directory writeSource kind s
    rcases hrun : ((e.plan y).exportOne directory writeSource kind).run s with ⟨f | r, t⟩
    · rw [hrun] at hone
      rw [run_exportAll_of_error hrun, List.flatMap_cons]
      exact hone.mono (List.subset_append_left _ _)
    · rw [hrun] at hone
      have hrest := ih (noted y r t)
      have hname : ((noted y r t).model.system y).name = (s.model.system y).name := by
        show (t.model.system y).name = _
        rw [hone.model]
      rw [hname] at hrest
      rw [run_exportAll_of_ok hrun, List.flatMap_cons]
      have hnoted : Leaves (filesFor directory (s.model.system y).name writeSource kind) s (noted y r t) :=
        ⟨hone.model, hone.here, hone.files⟩
      exact hnoted.trans hrest

/-- **What an export leaves**, however it ends. -/
theorem leaves_run (e : Exporter) (y : Ref .system) (directory : FilePath) (vs : List Value) (writeSource : Bool)
    (s : Studio) :
    Leaves ((vs.filterMap DiagramKind.of?).flatMap (filesFor directory (s.model.system y).name writeSource)) s
      ((e.run y directory vs writeSource).run s).2 := by
  rcases hkinds : kindsOf vs with f | kinds
  · rw [run_of_unknown hkinds]
    exact .refl _ s
  · rw [run_of_kindsOf hkinds, ← eq_filterMap_of_kindsOf hkinds]
    exact leaves_exportAll e y directory writeSource kinds s

/-- A graph that can be put together is drawn by a layout engine that draws, if its image can be stored. -/
theorem exists_run_of_stores {image : List UInt8} {fs : FileSystem} (hgraphs : s.renderer e.graphs = .usualForGraphs)
    (hdraws : s.host.draws = .drawn image) (htext : (Diagram.textOf s.model y .simple).toOption.isSome)
    (hstores : Host.Stores s.host.files s.host.here (target directory (s.model.system y).name .simple) image
      (.ok ()) fs) :
    ∃ r t, (run e y directory [.text "simple"] false).run s = (.ok [r], t) ∧
      (r.isOk = true ∧ r.target = target directory (s.model.system y).name .simple) ∧ t.host.files = fs := by
  obtain ⟨text, htext⟩ : ∃ text, Diagram.textOf s.model y .simple = .ok text := by
    rcases h : Diagram.textOf s.model y .simple with f | text
    · rw [h] at htext
      cases htext
    · exact ⟨text, rfl⟩
  obtain ⟨r, o, t, hends, -, hrun⟩ := exists_attempts e y directory false s .simple
  have himage : (s.renderer (e.diagram y .simple).renderer).imageIn s.host text = .ok (some image) := by
    show (s.renderer e.graphs).imageIn s.host text = _
    rw [hgraphs]
    show (imageOfLayout _ s.host.draws).map some = _
    rw [hdraws]
    rfl
  obtain ⟨rfl, hfiles⟩ := hends.eq_of_stores htext himage hstores
  obtain ⟨htarget, -, hfault⟩ := hends.files_eq
  have hkinds : kindsOf [.text "simple"] = .ok [.simple] := kindsOf_of_known (by decide +kernel)
  refine ⟨r, noted y r t, ?_, ⟨?_, htarget⟩, hfiles⟩
  · rw [run_of_kindsOf hkinds, run_exportAll_of_ok hrun]
    rfl
  · rw [ExportResult.isOk, hfault]
    rfl

/-- **Where an export stores its files.** However it ends, all directories are still there, and every place whose file has
changed is in the directory of the files, under the name of a file for one of the kinds that were asked for; a text is
stored only if that was wanted. This directory is the one that was asked for, and the names are those of the system with
what belongs to the kind, if and only if the name of the system holds no slash. -/
theorem places_of_run (e : Exporter) (y : Ref .system) (directory : FilePath) (vs : List Value) (writeSource : Bool)
    (s : Studio) :
    let name := (s.model.system y).name
    let left := ((e.run y directory vs writeSource).run s).2.host.files
    s.host.files.KeepsDirectories left ∧
    (∀ q, left.file? q ≠ s.host.files.file? q → ∃ kind, some kind ∈ vs.map DiagramKind.of? ∧
      ∃ ending ∈ kind.endings, (ending = kind.sourceExtension → writeSource = true) ∧
      ∃ d, left.follow s.host.here (folder directory name) = .ok (d, some .directory) ∧
        q = d ++ [fileName name kind ending]) ∧
    ('/' ∉ name.toList → folder directory name = directory ∧
      ∀ kind ending, fileName name kind ending = stem name kind ++ ending) ∧
    ∀ kind, ∀ ending ∈ kind.endings,
      file directory name kind ending = (folder directory name).inside (fileName name kind ending) ∧
      (file directory name kind ending = directory.inside (stem name kind ++ ending) ↔ '/' ∉ name.toList) := by
  intro name left
  obtain ⟨-, hhere, hkeeps, honly⟩ := leaves_run e y directory vs writeSource s
  refine ⟨hkeeps, fun q hq => ?_, fun hslash => ?_, fun kind ending hending => ?_⟩
  · -- a place that has changed is one to which one of the paths leads
    obtain ⟨p, hp, hleads⟩ : ∃ p ∈ (vs.filterMap DiagramKind.of?).flatMap (filesFor directory name writeSource),
        left.Leads s.host.here p q := by
      by_contra hnone
      exact hq (honly q fun p hp hleads => hnone ⟨p, hp, hleads⟩)
    obtain ⟨kind, hkind, hmem⟩ := List.mem_flatMap.mp hp
    obtain ⟨ending, hending, hwrite, rfl⟩ := mem_filesFor hmem
    rw [file_eq_inside hending] at hleads
    obtain ⟨d, hd, hplace⟩ := FileSystem.exists_directory_of_leads_inside (fileName_ne_up hending) hleads
    exact ⟨kind, by simpa using hkind, ending, hending, hwrite, d, hd, hplace⟩
  · have halias : '/' ∉ (aliasOf name).toList := fun h => hslash (mem_aliasOf_iff.mp h)
    refine ⟨directory.join_folder_of_not_mem halias, fun kind ending => ?_⟩
    rw [fileName, FilePath.lastName_eq_self_iff.mpr halias, stem, String.append_assoc]
  · exact ⟨file_eq_inside hending, file_eq_inside_iff hending⟩

/-- In such a studio, the image of a lone system is in the directory that was asked for. -/
theorem places_of_run_drawingStudio : ∃ m y r t, Model.load {} loneDocument = .ok (y, m) ∧
    (run ⟨⟨0⟩, ⟨1⟩⟩ y ⟨.none, ["out"]⟩ [.text "simple"] false).run (drawingStudio m) = (.ok [r], t) ∧
    ∃ ending ∈ DiagramKind.simple.endings, ∃ d,
      t.host.files.follow [] ⟨.none, ["out"]⟩ = .ok (d, some .directory) ∧
      ["out", "S_simpleDiagram.svg"] = d ++ [stem "S" .simple ++ ending] := by
  obtain ⟨y, m, hload, hp⟩ := Model.exists_load_of_any {} loneDocument
    (fun r => (Diagram.textOf r.2 r.1 .simple).toOption.isSome && (r.2.system r.1).name == "S") (by decide +kernel)
  obtain ⟨htext, hname⟩ : (Diagram.textOf m y .simple).toOption.isSome ∧ (m.system y).name = "S" := by
    simpa using hp
  have hmade : FileSystem.ensureDirectory {} [] (target ⟨.none, ["out"]⟩ "S" .simple).parent =
      (⟨[(["out"], .directory)]⟩, none) := by
    decide +kernel
  have hwrite : FileSystem.write ⟨[(["out"], .directory)]⟩ [] (target ⟨.none, ["out"]⟩ "S" .simple) [60] =
      .ok ⟨[(["out"], .directory), (["out", "S_simpleDiagram.svg"], .file [60])]⟩ := by
    decide +kernel
  have hstores := Host.Stores.written (Host.unusable?_eq_none (by decide +kernel) (by decide +kernel)) hmade
    (Host.unusable?_eq_none (by decide +kernel) (by decide +kernel)) hwrite
  rw [← hname] at hstores
  obtain ⟨r, t, hrun, -, hfiles⟩ := @exists_run_of_stores ⟨⟨0⟩, ⟨1⟩⟩ y _ (drawingStudio m) _ _ rfl rfl htext hstores
  obtain ⟨-, hplaces, hdirectory, -⟩ :=
    places_of_run ⟨⟨0⟩, ⟨1⟩⟩ y ⟨.none, ["out"]⟩ [.text "simple"] false (drawingStudio m)
  have hmodel : ((drawingStudio m).model.system y).name = "S" := hname
  rw [hrun] at hplaces
  rw [hmodel] at hplaces hdirectory
  obtain ⟨hfolder, hstem⟩ := hdirectory (by decide)
  have hbefore : (drawingStudio m).host.files = {} := rfl
  obtain ⟨kind, hkind, ending, hending, -, d, hd, hq⟩ :=
    hplaces ["out", "S_simpleDiagram.svg"] (by rw [hfiles, hbefore]; decide +kernel)
  have hof : [Value.text "simple"].map DiagramKind.of? = [some .simple] := by decide +kernel
  rw [hof] at hkind
  obtain rfl : kind = .simple := by simpa using hkind
  rw [hfolder] at hd
  rw [hstem] at hq
  exact ⟨m, y, r, t, hload, hrun, ending, hending, d, hd, hq⟩

/-- A system whose name leads out of the directory. -/
def upDocument : Value :=
  .mapping [(.text "name", .text "../S"), (.text "microservices", .list [.mapping [(.text "name", .text "A")]])]

/-- **A file outside of the directory**: the image is beside the directory that was asked for, and not in it. -/
theorem exists_file_outside : ∃ m y r t, Model.load {} upDocument = .ok (y, m) ∧
    (run ⟨⟨0⟩, ⟨1⟩⟩ y ⟨.none, ["out"]⟩ [.text "simple"] false).run (drawingStudio m) = (.ok [r], t) ∧
    (drawingStudio m).host.files.file? ["S_simpleDiagram.svg"] = none ∧
    t.host.files.file? ["S_simpleDiagram.svg"] = some [60] ∧
    ∀ d, t.host.files.Leads [] ⟨.none, ["out"]⟩ d → ∀ name, ["S_simpleDiagram.svg"] ≠ d ++ [name] := by
  obtain ⟨y, m, hload, hp⟩ := Model.exists_load_of_any {} upDocument
    (fun r => (Diagram.textOf r.2 r.1 .simple).toOption.isSome && (r.2.system r.1).name == "../S") (by decide +kernel)
  obtain ⟨htext, hname⟩ : (Diagram.textOf m y .simple).toOption.isSome ∧ (m.system y).name = "../S" := by
    simpa using hp
  have hmade : FileSystem.ensureDirectory {} [] (target ⟨.none, ["out"]⟩ "../S" .simple).parent =
      (⟨[(["out"], .directory)]⟩, none) := by
    decide +kernel
  have hwrite : FileSystem.write ⟨[(["out"], .directory)]⟩ [] (target ⟨.none, ["out"]⟩ "../S" .simple) [60] =
      .ok ⟨[(["out"], .directory), (["S_simpleDiagram.svg"], .file [60])]⟩ := by
    decide +kernel
  have hstores := Host.Stores.written (Host.unusable?_eq_none (by decide +kernel) (by decide +kernel)) hmade
    (Host.unusable?_eq_none (by decide +kernel) (by decide +kernel)) hwrite
  rw [← hname] at hstores
  obtain ⟨r, t, hrun, -, hfiles⟩ := @exists_run_of_stores ⟨⟨0⟩, ⟨1⟩⟩ y _ (drawingStudio m) _ _ rfl rfl htext hstores
  have hbefore : (drawingStudio m).host.files = {} := rfl
  refine ⟨m, y, r, t, hload, hrun, ?_, ?_, ?_⟩
  · rw [hbefore]
    decide +kernel
  · rw [hfiles]
    decide +kernel
  · rintro d ⟨e, hfollow⟩ name heq
    have hout : FileSystem.follow ⟨[(["out"], .directory), (["S_simpleDiagram.svg"], .file [60])]⟩ []
        ⟨.none, ["out"]⟩ = .ok (["out"], some .directory) := by
      decide +kernel
    rw [hfiles, hout] at hfollow
    cases hfollow
    simp at heq

end Exporter

end Landscape
