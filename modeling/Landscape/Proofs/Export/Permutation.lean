import Landscape.Proofs.Export.Contents

/-!
# The order of the diagrams

All files of an export are stored in one directory, no two of them in one place. So if the renderers go by the texts
alone, what becomes of a diagram does not depend on those before it, and what a batch leaves can be told as a whole
(`Landscape.Exporter.Tells`).

There is one exception. If the directory cannot be had, then the first diagram that has something to store may have made
some of the directories that lead to it, and those after it may be refused with other words
(`Landscape.Exporter.toldOnce`). Up to these words, the order of the diagrams does not matter
(`Landscape.Exporter.results_of_perm`).
-/

namespace Landscape

namespace Exporter

open FileSystem Studio ExportPlan

/-! ### Batches -/

/-- What is told of some things one after the other, if it is told in one way up to the first that counts, and in another
after it. -/
def toldOnce {α β : Type} (counts : α → Bool) (first later : α → β) : List α → List β
  | [] => []
  | a :: as => first a :: if counts a then as.map later else toldOnce counts first later as

theorem toldOnce_self {α β : Type} (counts : α → Bool) (f : α → β) (as : List α) :
    toldOnce counts f f as = as.map f := by
  induction as with
  | nil => rfl
  | cons a as ih => rw [toldOnce, ih, ite_self, List.map_cons]

variable {among : Studio → Prop} {draw : DiagramKind → String → FilePath → Work FilePath} {e : Exporter}
  {y : Ref .system} {s t : Studio} {c : Contents} {kind : DiagramKind} {kinds : List DiagramKind}
  {rs : List ExportResult}

/-- **What a batch leaves**: its results, and the files before it with those of its diagrams. -/
structure Tells (c : Contents) (files : FileSystem) (here : List String) (kinds : List DiagramKind)
    (rs : List ExportResult) (fs : FileSystem) : Prop where
  results : rs = toldOnce c.comesToStore (c.result (files.refusal here c.folder))
    (c.result ((files.settled here c.folder).refusal here c.folder)) kinds
  ofStore : kinds.any c.comesToStore = true → fs.find? = withFiles (files.settled here c.folder).find?
    (kinds.flatMap (c.stored ((files.settled here c.folder).refusal here c.folder)
      ((files.settled here c.folder).placeIn here c.folder)))
  ofNothing : kinds.any c.comesToStore = false → fs = files

/-- A diagram that has nothing to store leaves the rest as it was. -/
theorem Tells.cons_of_nothing {files fs : FileSystem} {here : List String}
    (hkind : c.comesToStore kind = false) (h : Tells c files here kinds rs fs) :
    Tells c files here (kind :: kinds) (c.result (files.refusal here c.folder) kind :: rs) fs := by
  refine ⟨?_, fun hany => ?_, fun hany => ?_⟩
  · rw [toldOnce, hkind, h.results]
    rfl
  · rw [List.any_cons, hkind, Bool.false_or] at hany
    rw [h.ofStore hany, List.flatMap_cons, Contents.stored_of_not_comesToStore hkind, List.nil_append]
  · rw [List.any_cons, hkind, Bool.false_or] at hany
    exact h.ofNothing hany

/-- After a diagram that has something to store, files are refused alike. -/
theorem Tells.cons_of_store {files fs₁ fs : FileSystem} {here : List String} (hkind : c.comesToStore kind = true)
    (hafter : After here c.folder files fs₁)
    (hfind : fs₁.find? = withFiles (files.settled here c.folder).find?
      (c.stored (files.refusal here c.folder) ((files.settled here c.folder).placeIn here c.folder) kind))
    (h : Tells c fs₁ here kinds rs fs) :
    Tells c files here (kind :: kinds) (c.result (files.refusal here c.folder) kind :: rs) fs := by
  have hresult : c.result (fs₁.refusal here c.folder) =
      c.result ((files.settled here c.folder).refusal here c.folder) := funext (Contents.result_congr hafter.refusal)
  have hfirst : c.stored (files.refusal here c.folder) ((files.settled here c.folder).placeIn here c.folder) kind =
      c.stored ((files.settled here c.folder).refusal here c.folder)
        ((files.settled here c.folder).placeIn here c.folder) kind :=
    Contents.stored_congr (fun name _ => (isSome_refusal_settled name).symm) (fun _ _ _ => rfl) kind
  have hrest : c.stored (fs₁.refusal here c.folder) (fs₁.placeIn here c.folder) =
      c.stored ((files.settled here c.folder).refusal here c.folder)
        ((files.settled here c.folder).placeIn here c.folder) := by
    refine funext (Contents.stored_congr (fun name hname => by rw [hafter.refusal name hname]) fun name hname hnone => ?_)
    rw [hafter.refusal name hname] at hnone
    obtain ⟨d, hd, -⟩ := exists_follow_of_refusal hnone
    rw [settled_settled] at hd
    exact hafter.placeIn_eq hd name
  have hresults := h.results
  have hstore := h.ofStore
  rw [hafter.settled, hresult, toldOnce_self] at hresults
  rw [hafter.settled, hrest] at hstore
  refine ⟨?_, fun _ => ?_, fun hany => ?_⟩
  · rw [toldOnce, hkind, hresults]
    rfl
  · rw [List.flatMap_cons, withFiles_append, ← hfirst, ← hfind]
    cases hany : kinds.any c.comesToStore with
    | true => exact hstore hany
    | false =>
      have hnil : kinds.flatMap (c.stored ((files.settled here c.folder).refusal here c.folder)
          ((files.settled here c.folder).placeIn here c.folder)) = [] := by
        refine List.flatMap_eq_nil_iff.mpr fun kind' hmem => Contents.stored_of_not_comesToStore ?_
        exact Bool.eq_false_iff.mpr (List.any_eq_false.mp hany kind' hmem)
      rw [hnil, h.ofNothing hany]
      rfl
  · rw [List.any_cons, hkind] at hany
    cases hany

/-- **A batch by text** leaves what can be told beforehand, if it answers its results. -/
theorem tells_of_run (hd : DrawsByText among c.image draw) (hc : c.IsOf s.model y) (hs : among s)
    (h : ((planBy e y draw).exportAll c.directory c.writeSource kinds).run s = (.ok rs, t)) :
    Tells c s.host.files s.host.here kinds rs t.host.files := by
  induction kinds generalizing s rs with
  | nil =>
    cases h
    exact ⟨rfl, nofun, fun _ => rfl⟩
  | cons kind kinds ih =>
    obtain ⟨o, u, hu, hmodel, hhere, hrun, hleaves, -⟩ := exists_run_exportOneBy hd hc hs e kind
    cases hrecord : (c.blank kind).record o with
    | error f =>
      rw [hrecord] at hrun
      have herror : ((planBy e y draw).exportAll c.directory c.writeSource (kind :: kinds)).run s = (.error f, u) :=
        Step.run_bind_of_error hrun _
      rw [herror] at h
      cases h
    | ok r =>
      have ho : ¬Aborts o := by
        rw [← ExportResult.aborts_record, hrecord]
        exact not_aborts_ok r
      obtain ⟨hfault, hstore, hnothing⟩ := hleaves ho
      have hr : r = c.result (s.host.files.refusal s.host.here c.folder) kind := by
        rw [eq_of_record rfl hrecord, hfault]
        rfl
      rw [hrecord] at hrun
      rw [run_exportAll_of_plan rfl (fun _ => rfl) hrun] at h
      rcases hrest : ((planBy e y draw).exportAll c.directory c.writeSource kinds).run (noted y r u) with ⟨f | rs', v⟩
      · rw [hrest] at h
        cases h
      · rw [hrest] at h
        cases h
        have hnoted : among (noted y r u) := hd.ofHost hu rfl
        have htells := ih (s := noted y r u) (hmodel.symm ▸ hc) hnoted hrest
        have hsame : (noted y r u).host.here = s.host.here := hhere
        rw [hsame] at htells
        subst hr
        cases hkind : c.comesToStore kind with
        | false =>
          have hfiles : (noted y (c.result (s.host.files.refusal s.host.here c.folder) kind) u).host.files =
              s.host.files := hnothing hkind
          rw [hfiles] at htells
          exact htells.cons_of_nothing hkind
        | true =>
          obtain ⟨hafter, hfind⟩ := hstore hkind
          exact htells.cons_of_store hkind hafter hfind

/-- **A batch by text answers its results** if all its diagrams can be told. -/
theorem exists_run_of_tellable (hd : DrawsByText among c.image draw) (hc : c.IsOf s.model y) (hs : among s)
    (e : Exporter) (hkinds : ∀ kind ∈ kinds, c.Tellable kind) :
    ∃ rs t, ((planBy e y draw).exportAll c.directory c.writeSource kinds).run s = (.ok rs, t) := by
  induction kinds generalizing s with
  | nil => exact ⟨[], s, rfl⟩
  | cons kind kinds ih =>
    obtain ⟨hkind, hrest⟩ := List.forall_mem_cons.mp hkinds
    obtain ⟨o, u, hu, hmodel, -, hrun, -, htell⟩ := exists_run_exportOneBy hd hc hs e kind
    cases hrecord : (c.blank kind).record o with
    | error f =>
      have habort : Aborts ((c.blank kind).record o) := by
        rw [hrecord, aborts_error]
        exact ExportResult.isDiagram_of_record hrecord
      exact absurd (ExportResult.aborts_record.mp habort) (htell hkind)
    | ok r =>
      rw [hrecord] at hrun
      obtain ⟨rs, t, hall⟩ := ih (s := noted y r u) (hmodel.symm ▸ hc) (hd.ofHost hu rfl) hrest
      refine ⟨r :: rs, t, ?_⟩
      rw [run_exportAll_of_plan rfl (fun _ => rfl) hrun, hall]
      rfl

/-- **What is told of some diagrams does not depend on their order**, but for the words of a refusal. -/
theorem Tells.find?_eq_of_perm {files fs fs' : FileSystem} {here : List String} {kinds' : List DiagramKind}
    {rs' : List ExportResult} (hperm : kinds.Perm kinds') (h : Tells c files here kinds rs fs)
    (h' : Tells c files here kinds' rs' fs') : fs'.find? = fs.find? := by
  have hany : kinds'.any c.comesToStore = kinds.any c.comesToStore := by
    rw [Bool.eq_iff_iff, List.any_eq_true, List.any_eq_true]
    simp only [hperm.mem_iff]
  cases hcomes : kinds.any c.comesToStore with
  | true =>
    rw [h.ofStore hcomes, h'.ofStore (hany.trans hcomes)]
    refine (withFiles_perm (hperm.flatMap_right _) fun x hx x' hx' => ?_).symm
    exact Contents.eq_of_mem_stored (fun _ _ => placeIn_inj) hx hx'
  | false => rw [h.ofNothing hcomes, h'.ofNothing (hany.trans hcomes)]

/-- **Before and after everything was done for the directory**, a result is the same, unless the directory cannot be had
and the result quotes how it was refused. -/
theorem result_settled (c : Contents) (files : FileSystem) (here : List String) (kind : DiagramKind) :
    let made := files.ensureDirectory here c.folder
    let again := made.1.ensureDirectory here c.folder
    c.result (files.refusal here c.folder) kind = c.result (made.1.refusal here c.folder) kind ∨
      ∃ f f' refused, c.comesToStore kind = true ∧ made.2 = some f ∧ again.2 = some f' ∧
        (refused = RenderFault.unwritable (target c.directory c.name kind) ∨
          refused = RenderFault.sourceUnwritable (sourceTarget c.directory c.name kind)) ∧
        (c.result (files.refusal here c.folder) kind).fault = some (.render (refused f)) ∧
        c.result (made.1.refusal here c.folder) kind =
          { c.result (files.refusal here c.folder) kind with fault := some (.render (refused f')) } := by
  intro made again
  rcases hmade : files.ensureDirectory here c.folder with ⟨fs, _ | f⟩
  · refine .inl (Contents.result_congr (fun name _ => ?_) kind)
    exact (refusal_settled_of_none (by rw [hmade]) name).symm
  · obtain ⟨f', hagain⟩ := exists_ensureDirectory_of_fault hmade
    have hfirst : made = (fs, some f) := hmade
    have hsecond : again = (fs, some f') := by
      show made.1.ensureDirectory here c.folder = _
      rw [hfirst, hagain]
    rw [hfirst, hsecond]
    have hall : ∀ name, files.refusal here c.folder name = some f := fun name => refusal_of_fault hmade
    have hall' : ∀ name, fs.refusal here c.folder name = some f' := fun name => refusal_of_fault hagain
    rcases Contents.fault_of_refused (c := c) hall hall' kind with hsame | ⟨hcomes, refused, hwords, hf, hf'⟩
    · exact .inl (by rw [Contents.result, Contents.result, hsame])
    · refine .inr ⟨f, f', refused, hcomes, rfl, rfl, hwords, hf, ?_⟩
      rw [Contents.result, hf']
      rfl

/-! ### Renderers that store the texts -/

/-- Both renderers of an exporter remember their calls, and store the texts. -/
def StoresTexts (e : Exporter) (y : Ref .system) (s : Studio) : Prop :=
  ∀ kind, ∃ m, s.renderer (e.diagram y kind).renderer = .memory m ∧ m.writesSource = true

/-- A text as its own image. -/
def imageOfText (_ : DiagramKind) (text : String) : Except Fault (List UInt8) :=
  (charsIn text).map Utf8.encode

/-- **Renderers that store the texts** go by them. -/
theorem drawsByText_of_storesTexts (e : Exporter) (y : Ref .system) :
    DrawsByText (e.StoresTexts y) imageOfText (e.plan y).draw := by
  refine ⟨fun hs _ => hs, fun {s} kind text target hs => ?_⟩
  obtain ⟨m, hm, hwrites⟩ := hs kind
  rcases hstore : (storeImageOf (imageOfText kind text) target).run s.host with ⟨o, h⟩
  have hdraw : ((e.plan y).draw kind text target).run s = (o, s.putRenderer (e.diagram y kind).renderer
      (.memory (m.after [⟨text, (e.diagram y kind).format, target⟩])) h) := by
    refine (run_draw_memory hm text (e.diagram y kind).format target).trans ?_
    rw [Memory.run_draw, hwrites, if_pos rfl]
    show Prod.map id _ (Prod.map id _ ((storeImageOf (imageOfText kind text) target).run s.host)) = _
    rw [hstore]
    rfl
  refine ⟨o, h, _, rfl, hdraw, fun kind' => ?_, rfl, rfl⟩
  by_cases hsame : (e.diagram y kind).renderer = (e.diagram y kind').renderer
  · rw [← hsame, renderer_putRenderer_of_ne_usual (by rw [hm]; exact nofun)]
    exact ⟨_, rfl, hwrites⟩
  · rw [renderer_putRenderer_of_ne hsame]
    exact hs kind'

/-- A studio with some files, an empty system, and two renderers that store the texts they are to draw. -/
def scribes (files : FileSystem) : Studio where
  model := { systems := ⟨[{ name := "S" }]⟩ }
  renderers := ⟨[.memory { writesSource := true }, .memory { writesSource := true }]⟩
  host := { files }

theorem storesTexts_scribes (files : FileSystem) : StoresTexts ⟨⟨0⟩, ⟨1⟩⟩ ⟨0⟩ (scribes files) := by
  rintro (_ | _)
  · exact ⟨_, rfl, rfl⟩
  · exact ⟨_, rfl, rfl⟩

/-- What there is to store in this studio. -/
def scribed (directory : FilePath) (writeSource : Bool) : Contents where
  name := "S"
  text := Diagram.textOf (scribes {}).model ⟨0⟩
  image := imageOfText
  directory
  writeSource

/-- A path whose text is one of plain characters. A file can have it for a name. -/
def IsUsable (p : FilePath) : Prop :=
  '\x00' ∉ p.toString.toList ∧ FileName.stray? p.toString.toList = none

instance (p : FilePath) : Decidable (IsUsable p) :=
  inferInstanceAs (Decidable (_ ∧ _))

/-- In this studio all diagrams can be told, if the paths are plain. -/
theorem tellable_scribed {directory : FilePath} {writeSource : Bool} {kind : DiagramKind}
    (hfolder : IsUsable (folder directory "S")) (hfiles : ∀ p ∈ filesFor directory "S" true kind, IsUsable p) :
    (scribed directory writeSource).Tellable kind := by
  have husable : ∀ {p}, IsUsable p → Host.unusable? p = none := fun h => Host.unusable?_eq_none h.1 h.2
  obtain ⟨text, htext, hhalves⟩ : ∃ text, (scribed directory writeSource).text kind = .ok text ∧
      holdsHalves text = false := by
    cases kind with
    | simple => exact ⟨"strict digraph G \x7b\n\x7d\n", rfl, by decide +kernel⟩
    | uml => exact ⟨"@startuml\nallow_mixing\n@enduml\n", rfl, by decide +kernel⟩
  obtain ⟨cs, hcs⟩ := charsIn_eq_ok_iff.mpr hhalves
  refine ⟨husable hfolder, husable (hfiles _ List.mem_cons_self), fun _ => husable (hfiles _ ?_), ?_, fun text' htext' => ?_,
    fun text' htext' _ => ?_⟩
  · exact List.mem_cons_of_mem _ List.mem_cons_self
  · rw [htext]
    exact not_aborts_ok text
  · obtain rfl : text = text' := Except.ok.inj (htext.symm.trans htext')
    show ¬Aborts ((charsIn text).map Utf8.encode)
    rw [hcs]
    exact not_aborts_ok _
  · obtain rfl : text = text' := Except.ok.inj (htext.symm.trans htext')
    exact hhalves

/-- In this studio an export answers what can be told. -/
theorem exists_run_scribes (files : FileSystem) (directory : FilePath) (writeSource : Bool) (vs : List Value)
    (kinds : List DiagramKind) (hkinds : vs.map DiagramKind.of? = kinds.map some) (hfolder : IsUsable (folder directory "S"))
    (hfiles : ∀ p ∈ kinds.flatMap (filesFor directory "S" true), IsUsable p) :
    ∃ rs t, (run ⟨⟨0⟩, ⟨1⟩⟩ ⟨0⟩ directory vs writeSource).run (scribes files) = (.ok rs, t) ∧
      Tells (scribed directory writeSource) files [] kinds rs t.host.files := by
  have hd : DrawsByText _ (scribed directory writeSource).image _ := drawsByText_of_storesTexts ⟨⟨0⟩, ⟨1⟩⟩ ⟨0⟩
  have hs := storesTexts_scribes files
  have hc : (scribed directory writeSource).IsOf (scribes files).model ⟨0⟩ := ⟨rfl, rfl⟩
  obtain ⟨rs, t, hrun⟩ := exists_run_of_tellable hd hc hs ⟨⟨0⟩, ⟨1⟩⟩ fun kind hkind =>
    tellable_scribed hfolder fun p hp => hfiles p (List.mem_flatMap.mpr ⟨kind, hkind, hp⟩)
  exact ⟨rs, t, (run_of_kindsOf (kindsOf_of_known hkinds) _).trans hrun, tells_of_run hd hc hs hrun⟩

/-! ### Another order -/

/-- An export that answers is a batch of the kinds that are named. -/
theorem run_exportAll_of_run {directory : FilePath} {writeSource : Bool} {vs : List Value}
    (h : ((planBy e y draw).run (.ok directory) vs writeSource).run s = (.ok rs, t)) :
    ((planBy e y draw).exportAll directory writeSource (vs.filterMap DiagramKind.of?)).run s = (.ok rs, t) := by
  rw [ExportPlan.run] at h
  rcases hkinds : kindsOf vs with f | kinds
  · rw [hkinds] at h
    cases h
  · rw [hkinds] at h
    rw [← eq_filterMap_of_kindsOf hkinds]
    exact h

/-- **The order of the diagrams does not matter, but for the words of a refusal.** If an export answers, and so does one of
the same diagrams in another order, then both leave the same files, and their results are those of the same diagrams. If
the directory of the files cannot be had, and is refused in one way at first and in another after what was done for it,
then the first diagram that has something to store quotes the one refusal and those after it quote the other, and this is
all in which the result of a diagram differs. -/
theorem results_of_perm {images : DiagramKind → String → Except Fault (List UInt8)} {directory : FilePath}
    {writeSource : Bool} {vs vs' : List Value} {rs' : List ExportResult} {t' : Studio}
    (hd : DrawsByText among images draw) (hs : among s) (hperm : vs.Perm vs')
    (h : ((planBy e y draw).run (.ok directory) vs writeSource).run s = (.ok rs, t))
    (h' : ((planBy e y draw).run (.ok directory) vs' writeSource).run s = (.ok rs', t')) :
    let c : Contents :=
      { name := (s.model.system y).name, text := Diagram.textOf s.model y, image := images, directory, writeSource }
    let made := s.host.files.ensureDirectory s.host.here c.folder
    let again := made.1.ensureDirectory s.host.here c.folder
    let kinds := vs.filterMap DiagramKind.of?
    let kinds' := vs'.filterMap DiagramKind.of?
    (∀ q, t'.host.files.find? q = t.host.files.find? q) ∧
    ((made.2 = none ∨ again.2 = made.2) →
      ∃ result : DiagramKind → ExportResult, rs = kinds.map result ∧ rs' = kinds'.map result) ∧
    ∃ first later : DiagramKind → ExportResult,
      rs = toldOnce c.comesToStore first later kinds ∧ rs' = toldOnce c.comesToStore first later kinds' ∧
      ∀ kind, first kind = later kind ∨ ∃ f f' refused,
        c.comesToStore kind = true ∧ made.2 = some f ∧ again.2 = some f' ∧
        (refused = RenderFault.unwritable (target c.directory c.name kind) ∨
          refused = RenderFault.sourceUnwritable (sourceTarget c.directory c.name kind)) ∧
        (first kind).fault = some (.render (refused f)) ∧
        later kind = { first kind with fault := some (.render (refused f')) } := by
  intro c made again kinds kinds'
  have hc : c.IsOf s.model y := ⟨rfl, rfl⟩
  have htells : Tells c s.host.files s.host.here kinds rs t.host.files :=
    tells_of_run hd hc hs (run_exportAll_of_run h)
  have htells' : Tells c s.host.files s.host.here kinds' rs' t'.host.files :=
    tells_of_run hd hc hs (run_exportAll_of_run h')
  have hwords := result_settled c s.host.files s.host.here
  refine ⟨fun q => ?_, fun hsame => ?_, c.result (s.host.files.refusal s.host.here c.folder),
    c.result ((s.host.files.settled s.host.here c.folder).refusal s.host.here c.folder), htells.results, htells'.results,
    hwords⟩
  · exact congrFun (htells.find?_eq_of_perm (hperm.filterMap _) htells') q
  · -- the directory is refused in one way only, if at all
    have hresult : c.result (s.host.files.refusal s.host.here c.folder) =
        c.result ((s.host.files.settled s.host.here c.folder).refusal s.host.here c.folder) := by
      funext kind
      rcases hwords kind with heq | ⟨f, f', refused, -, hf, hf', -, hfault, hlater⟩
      · exact heq
      · rcases hsame with hnone | hagain
        · cases hnone.symm.trans hf
        · obtain rfl : f' = f := Option.some.inj (hf'.symm.trans (hagain.trans hf))
          refine Eq.trans ?_ hlater.symm
          rw [← hfault]
    refine ⟨c.result (s.host.files.refusal s.host.here c.folder), ?_, ?_⟩
    · rw [htells.results, ← hresult, toldOnce_self]
    · rw [htells'.results, ← hresult, toldOnce_self]

/-- Both kinds of diagrams are exported with their texts, in either order. -/
theorem results_of_perm_scribes : ∃ rs t rs' t',
    (run ⟨⟨0⟩, ⟨1⟩⟩ ⟨0⟩ { parts := ["out"] } [.text "simple", .text "uml"] true).run (scribes {}) = (.ok rs, t) ∧
    (run ⟨⟨0⟩, ⟨1⟩⟩ ⟨0⟩ { parts := ["out"] } [.text "uml", .text "simple"] true).run (scribes {}) = (.ok rs', t') ∧
    (∀ q, t'.host.files.find? q = t.host.files.find? q) ∧
    (t.host.files.find? ["out", "S_umlDiagram.puml"]).isSome = true ∧
    ∃ result : DiagramKind → ExportResult, rs = [.simple, .uml].map result ∧ rs' = [.uml, .simple].map result := by
  obtain ⟨rs, t, hrun, htells⟩ := exists_run_scribes {} { parts := ["out"] } true [.text "simple", .text "uml"]
    [.simple, .uml] (by decide +kernel) (by decide +kernel) (by decide +kernel)
  obtain ⟨rs', t', hrun', -⟩ := exists_run_scribes {} { parts := ["out"] } true [.text "uml", .text "simple"]
    [.uml, .simple] (by decide +kernel) (by decide +kernel) (by decide +kernel)
  obtain ⟨hfiles, hsame, -⟩ := results_of_perm (drawsByText_of_storesTexts ⟨⟨0⟩, ⟨1⟩⟩ ⟨0⟩) (storesTexts_scribes {})
    (List.Perm.swap _ _ []) hrun hrun'
  refine ⟨rs, t, rs', t', hrun, hrun', hfiles, ?_, hsame (.inl (by decide +kernel))⟩
  rw [htells.ofStore (by decide +kernel)]
  decide +kernel

/-- **The order of the diagrams matters for the words of a refusal.** The directory `n/../f/x` leads through a file. The
first diagram makes the directory `n` and is refused where its way meets the file, and the second is refused for the way
as a whole. So in the other order, each diagram has the words of the other, although the renderers go by the texts. -/
theorem refusals_told_in_order :
    DrawsByText (StoresTexts ⟨⟨0⟩, ⟨1⟩⟩ ⟨0⟩) imageOfText ((⟨⟨0⟩, ⟨1⟩⟩ : Exporter).plan ⟨0⟩).draw ∧
    StoresTexts ⟨⟨0⟩, ⟨1⟩⟩ ⟨0⟩ (scribes ⟨[(["f"], .file [])]⟩) ∧
    ∃ rs t rs' t',
      (run ⟨⟨0⟩, ⟨1⟩⟩ ⟨0⟩ { parts := ["n", "..", "f", "x"] } [.text "simple", .text "uml"] false).run
        (scribes ⟨[(["f"], .file [])]⟩) = (.ok rs, t) ∧
      (run ⟨⟨0⟩, ⟨1⟩⟩ ⟨0⟩ { parts := ["n", "..", "f", "x"] } [.text "uml", .text "simple"] false).run
        (scribes ⟨[(["f"], .file [])]⟩) = (.ok rs', t') ∧
      rs.map (fun r => (r.kind, r.fault.map DiagramFault.message)) =
        [(.simple, some "Cannot write diagram to n/../f/x/S_simpleDiagram.svg: [Errno 17] File exists: 'n/../f'"),
          (.uml, some "Cannot write diagram to n/../f/x/S_umlDiagram.svg: [Errno 20] Not a directory: 'n/../f/x'")] ∧
      rs'.map (fun r => (r.kind, r.fault.map DiagramFault.message)) =
        [(.uml, some "Cannot write diagram to n/../f/x/S_umlDiagram.svg: [Errno 17] File exists: 'n/../f'"),
          (.simple,
            some "Cannot write diagram to n/../f/x/S_simpleDiagram.svg: [Errno 20] Not a directory: 'n/../f/x'")] ∧
      ¬∃ result : DiagramKind → ExportResult, rs = [.simple, .uml].map result ∧ rs' = [.uml, .simple].map result := by
  obtain ⟨rs, t, hrun, htells⟩ := exists_run_scribes ⟨[(["f"], .file [])]⟩ { parts := ["n", "..", "f", "x"] } false
    [.text "simple", .text "uml"] [.simple, .uml] (by decide +kernel) (by decide +kernel) (by decide +kernel)
  obtain ⟨rs', t', hrun', htells'⟩ := exists_run_scribes ⟨[(["f"], .file [])]⟩ { parts := ["n", "..", "f", "x"] } false
    [.text "uml", .text "simple"] [.uml, .simple] (by decide +kernel) (by decide +kernel) (by decide +kernel)
  have htold : rs.map (fun r => (r.kind, r.fault.map DiagramFault.message)) =
      [(.simple, some "Cannot write diagram to n/../f/x/S_simpleDiagram.svg: [Errno 17] File exists: 'n/../f'"),
        (.uml, some "Cannot write diagram to n/../f/x/S_umlDiagram.svg: [Errno 20] Not a directory: 'n/../f/x'")] := by
    rw [htells.results]
    decide +kernel
  have htold' : rs'.map (fun r => (r.kind, r.fault.map DiagramFault.message)) =
      [(.uml, some "Cannot write diagram to n/../f/x/S_umlDiagram.svg: [Errno 17] File exists: 'n/../f'"),
        (.simple,
          some "Cannot write diagram to n/../f/x/S_simpleDiagram.svg: [Errno 20] Not a directory: 'n/../f/x'")] := by
    rw [htells'.results]
    decide +kernel
  refine ⟨drawsByText_of_storesTexts _ _, storesTexts_scribes _, rs, t, rs', t', hrun, hrun', htold, htold', ?_⟩
  rintro ⟨result, rfl, rfl⟩
  have hfirst := congrArg List.head? htold
  have hlast := congrArg List.getLast? htold'
  exact absurd (hfirst.symm.trans hlast) (by decide)

end Exporter

end Landscape
