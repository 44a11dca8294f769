import Landscape.CommandLine.Run
import Landscape.Proofs.Export.Images
import Landscape.Proofs.Text.Breaks

/-!
# What the exit code says

The command reads its command line, loads a landscape and the settings, attempts the diagrams that are asked for and
tells of the results. Up to the diagrams it only reads (`Landscape.CommandLine.keeps_loadInputs`), so whatever ends it
there has changed nothing. After them it only tells what became of them (`Landscape.CommandLine.exists_run_report`).

No kind of diagram is asked for twice (`Landscape.CommandLine.kindsApart_parse`), and the renderers are new ones that
draw, so each image that was stored is still there at the end. Hence the exit code tells the truth, and what is written
are the paths of the images (`Landscape.CommandLine.code_of_run`).

Each path is written with a line feed behind it, so there is a line for each image unless a path holds a line feed of
its own (`Landscape.breaksIn_lines_eq_iff`). The directory that is asked for may well do so
(`Landscape.CommandLine.more_lines_than_images`).
-/

namespace Landscape.CommandLine

/-! ### The kinds that are asked for -/

/-- No kind of diagram is asked for twice. -/
def Arguments.KindsApart (a : Arguments) : Prop :=
  ∀ kinds, a.kinds = some kinds → kinds.Nodup

theorem nodup_kindsOf (name : String) : (kindsOf name).Nodup := by
  rw [kindsOf]
  split
  · exact List.nodup_singleton _
  · decide

theorem Arguments.KindsApart.with {a : Arguments} (h : a.KindsApart) (f : Flag) (value : Option String) :
    (a.with f value).KindsApart := by
  cases f
  case kind =>
    intro kinds hkinds
    obtain ⟨name, -, rfl⟩ := Option.map_eq_some_iff.mp hkinds
    exact nodup_kindsOf name
  all_goals exact h

theorem Reading.kindsApart_take {r r' : Reading} {f : Flag} {value : String} (h : r.given.KindsApart)
    (htake : r.take f value = .ok r') : r'.given.KindsApart := by
  rw [Reading.take] at htake
  split at htake
  · cases htake
    exact h.with f _
  · split at htake
    · cases htake
      exact h.with f _
    · cases htake

theorem Reading.kindsApart_takeAttached {r r' : Reading} {f : Flag} {value : String} (h : r.given.KindsApart)
    (htake : r.takeAttached f value = .ok r') : r'.given.KindsApart := by
  rw [Reading.takeAttached] at htake
  split at htake
  · cases htake
    exact h.with f _
  · exact kindsApart_take h htake

/-- **Putting words together keeps the kinds apart.** -/
theorem kindsApart_assemble {ws : List Word} {r r' : Reading} (h : r.given.KindsApart)
    (hread : assemble r ws = .ok (.read r')) : r'.given.KindsApart := by
  fun_induction assemble r ws
  -- nothing is left to be read
  case case1 | case10 | case13 | case14 =>
    cases hread
    exact h
  -- help is called for, or something is wrong
  case case2 short rest jp v =>
    rcases hcheck : checkNeedless .help short v rest.head? with f | u
    · rw [hcheck] at hread
      cases hread
    · rw [hcheck] at hread
      cases hread
  case case3 => cases hread
  case case5 | case7 => cases hread
  -- an option with its value, and the rest
  case case4 r f short rest hf v hvalue ih =>
    rcases htake : r.takeAttached f (String.ofList v) with fault | r₁
    · rw [htake] at hread
      cases hread
    · rw [htake] at hread
      exact ih r₁ (Reading.kindsApart_takeAttached h htake) hread
  case case6 r f short hf hvalue value rest ih =>
    rcases htake : r.take f value with fault | r₁
    · rw [htake] at hread
      cases hread
    · rw [htake] at hread
      exact ih r₁ (Reading.kindsApart_take h htake) hread
  case case8 r f short rest hf hvalue ih =>
    rcases htake : r.take f "" with fault | r₁
    · rw [htake] at hread
      cases hread
    · rw [htake] at hread
      exact ih r₁ (Reading.kindsApart_take h htake) hread
  -- a word that is no option
  case case9 ih | case11 ih | case12 ih => exact ih h hread

/-- **A command line asks for no kind of diagram twice.** -/
theorem kindsApart_parse {words : List String} {a : Arguments} (h : parse words = .ok (.read a)) : a.KindsApart := by
  rw [parse] at h
  rcases hwords : wordsOf words with f | ws
  · rw [hwords] at h
    cases h
  · rw [hwords] at h
    rcases hread : assemble {} ws with f | _ | r
    · rw [ok_bind, hread] at h
      cases h
    · rw [ok_bind, hread] at h
      cases h
    · rw [ok_bind, hread] at h
      have hgiven : r.given.KindsApart := by
        refine kindsApart_assemble ?_ hread
        rintro kinds ⟨⟩
        decide
      rw [ok_bind] at h
      dsimp only at h
      split at h
      · cases h
      · cases h
        exact hgiven
      · cases h

/-! ### What is left alone before anything is drawn -/

/-- A studio with the same files, seen from the same directory, in which nothing more was asked. -/
structure Untouched (s t : Studio) : Prop where
  files : t.host.files = s.host.files
  here : t.host.here = s.host.here
  requests : t.host.requests = s.host.requests

instance : Std.Refl Untouched :=
  ⟨fun _ => ⟨rfl, rfl, rfl⟩⟩

instance : IsTrans Studio Untouched where
  trans _ _ _ h h' := ⟨h'.files.trans h.files, h'.here.trans h.here, h'.requests.trans h.requests⟩

variable {α : Type}

/-- Steps on the host that only read and ask nothing. -/
theorem keeps_onHost {act : Step Fault Host α} (hreads : ∀ w, ∃ r, Host.Reads act w r) (hquiet : Host.Quiet act) :
    (Studio.onHost act).Keeps Untouched := by
  intro s
  obtain ⟨r, hr⟩ := hreads s.host
  have hworld := (hr s.host rfl).2
  exact ⟨Host.files_eq_of_world hworld, Host.here_eq_of_world hworld, hquiet s.host⟩

theorem keeps_note (level : Level) (origin : Origin) (text : String) :
    (Studio.onHost (Host.note level origin text)).Keeps Untouched :=
  keeps_onHost (fun _ => ⟨_, Host.reads_note _ _ _⟩) (Host.quiet_note _ _ _)

/-- Loading a landscape reads on the host and changes models, so it keeps whatever these two keep. -/
theorem keeps_loadFile {R : Studio → Studio → Prop} [Std.Refl R] [IsTrans Studio R]
    (hmodel : ∀ (s : Studio) (m : Model), R s { s with model := m })
    (hhost : ∀ {β : Type} {act : Step Fault Host β}, (∀ w, ∃ r, Host.Reads act w r) → Host.Quiet act →
      (Studio.onHost act).Keeps R) (path : FilePath) : (Studio.loadFile path).Keeps R := by
  have hnote (text : String) : (Studio.onHost (Host.note .debug .document text)).Keeps R :=
    hhost (fun _ => ⟨_, Host.reads_note _ _ _⟩) (Host.quiet_note _ _ _)
  refine Step.Keeps.bind (hhost (fun w => ?_) ?_) fun document => ?_
  · exact ⟨_, Step.Answers.blame (Host.reads_readDocument documentShape path) _⟩
  · exact (Host.quiet_readDocument _ _).blame _
  · refine (hnote _).bind fun _ => Step.Keeps.bind (fun s => Std.Refl.refl s) fun s => ?_
    split
    · exact Step.keeps_throw _
    · refine Step.Keeps.bind (fun s => hmodel s _) fun _ => ?_
      exact (hnote _).bind fun _ => Step.keeps_pure _

/-- **Loading a landscape and settings** touches no file and asks nothing. -/
theorem keeps_loadInputs (a : Arguments) : (loadInputs a).Keeps Untouched := by
  have hlandscape : (Studio.loadFile (.ofString a.landscape)).Keeps Untouched :=
    keeps_loadFile (fun s m => ⟨rfl, rfl, rfl⟩) keeps_onHost _
  have hsettings : (Studio.onHost (Settings.load a.config)).Keeps Untouched :=
    keeps_onHost (fun w => ⟨_, Settings.reads_load a.config w⟩) (Settings.quiet_load _)
  exact hlandscape.bind fun _ => hsettings.bind fun _ => Step.keeps_pure _

/-- The paths of the diagrams that were drawn. -/
def drawnPaths (rs : List ExportResult) : List String :=
  (rs.filter ExportResult.isOk).map (·.target.toString)

/-- **Telling of results** touches nothing, and gives the path of each diagram that was drawn unless one is refused. None
is if they hold no halves. -/
theorem exists_run_report (rs : List ExportResult) (s : Studio) : ∃ t lines fault, Untouched s t ∧
    (report rs).run s = (.ok (lines, fault), t) ∧ (fault = none → lines = drawnPaths rs) ∧
    ((∀ path ∈ drawnPaths rs, Utf8.halves? path.toList = none) → fault = none) := by
  induction rs generalizing s with
  | nil => exact ⟨s, [], none, Std.Refl.refl s, rfl, fun _ => rfl, fun _ => rfl⟩
  | cons r rs ih =>
    rcases hfault : r.fault with _ | f
    · have hok : r.isOk = true := by rw [ExportResult.isOk, hfault]; rfl
      have hpaths : drawnPaths (r :: rs) = r.target.toString :: drawnPaths rs := by
        rw [drawnPaths, List.filter_cons_of_pos hok, List.map_cons, drawnPaths]
      rw [report, hfault, hpaths]
      dsimp only
      rw [Step.run_bind_of_ok (Step.run_get s)]
      cases hrefused : refusal? s.host r.target.toString with
      | some f =>
        refine ⟨s, [], some f, Std.Refl.refl s, rfl, fun h => absurd h (Option.some_ne_none f), fun hplain => ?_⟩
        rw [refusal?, hplain _ List.mem_cons_self] at hrefused
        split at hrefused <;> cases hrefused
      | none =>
        obtain ⟨t, lines, fault, ht, hrun, hlines, hplain⟩ := ih s
        refine ⟨t, _, fault, ht, Step.run_bind_of_ok hrun _, fun hnone => ?_, fun h => hplain fun path hpath => ?_⟩
        · rw [hlines hnone]
        · exact h path (List.mem_cons_of_mem _ hpath)
    · have hfailed : ¬r.isOk = true := by simp [ExportResult.isOk, hfault]
      have hpaths : drawnPaths (r :: rs) = drawnPaths rs := by
        rw [drawnPaths, List.filter_cons_of_neg hfailed, drawnPaths]
      rw [report, hfault, hpaths]
      obtain ⟨s', hs', hnote⟩ : ∃ s', Untouched s s' ∧
          (Studio.onHost (Host.note .error .commandLine s!"{r.kind.name} diagram failed: {f.message}")).run s =
            (.ok (), s') := ⟨_, keeps_note _ _ _ s, rfl⟩
      obtain ⟨t, lines, fault, ht, hrun, hlines⟩ := ih s'
      exact ⟨t, lines, fault, IsTrans.trans _ _ _ hs' ht, (Step.run_bind_of_ok hnote _).trans hrun, hlines⟩

/-! ### The exit code -/

/-- **What the command did when it had something to draw from**: it loaded a landscape and the settings, attempted the
kinds of diagrams that were asked for one after the other with renderers of its own, and wrote the path of each image. -/
structure Drew (a : Arguments) (s t : Studio) (code : Nat) (output : String) (directory : FilePath) (y : Ref .system)
    (e : Exporter) (u : Studio) (kinds : List DiagramKind) (rs : List ExportResult) : Prop where
  /-- Where the diagrams go, and which are asked for. -/
  asked : outputDirectory a = .ok directory ∧ a.kinds = some kinds
  /-- What is drawn, with which renderers. -/
  loaded : ∃ settings v, (loadInputs a).run s = (.ok (y, settings), v) ∧
    (Exporter.create (some settings) none none).run v = (.ok e, u)
  /-- The records are those of a batch, after which no file has changed. -/
  attempted : ∃ w, e.Exports y directory a.writeSource u kinds rs w ∧ t.host.files = w.host.files
  /-- There is one record for each kind, in their order. -/
  records : rs.map (·.kind) = kinds
  /-- What is written are the paths of the diagrams that were drawn, in the same order, each with a line feed behind
  it. -/
  paths : output = linesText (drawnPaths rs)
  /-- This is one line for each diagram that was drawn, unless one of the paths holds a line feed of its own. -/
  lines : breaksIn output = (drawnPaths rs).length ↔ ∀ path ∈ drawnPaths rs, breaksIn path = 0
  /-- The code says whether all were drawn. -/
  truth : code = codeOk ∧ (∀ r ∈ rs, r.isOk = true) ∨ code = codeFailed ∧ ∃ r ∈ rs, r.isOk = false
  /-- Each path leads to a file that holds the image. -/
  images : ∀ r ∈ rs, r.isOk = true →
    r.target = ExportPlan.target directory (u.model.system y).name r.kind ∧
      ∃ image, e.Rendered y directory a.writeSource u kinds r image ∧
        t.host.files.fileOf? s.host.here (.ofString r.target.toString) = some image

/-- The exporter that the command makes has new renderers, and making it changes nothing else. -/
theorem exists_run_create (settings : Settings) (v : Studio) : ∃ e u,
    (Exporter.create (some settings) none none).run v = (.ok e, u) ∧ u.model = v.model ∧ u.host = v.host ∧
      u.renderer e.graphs = .usualForGraphs ∧ u.renderer e.components = .plantUml { settings := some settings } := by
  refine ⟨_, _, rfl, rfl, rfl, ?_, Table.get_add_size _ _⟩
  show ((v.renderers.add .usualForGraphs).add (.plantUml { settings := some settings })).get v.renderers.size = _
  rw [Table.get_add_of_lt _ _ (by rw [Table.size_add]; omega), Table.get_add_size]

/-- The kinds of a command line are taken as they are. -/
theorem kindsOf_names (kinds : List DiagramKind) :
    ExportPlan.kindsOf (kinds.map fun k => .text k.name) = .ok kinds := by
  refine Exporter.kindsOf_of_known ?_
  rw [List.map_map]
  refine List.map_congr_left fun kind _ => ?_
  cases kind <;> decide +kernel

/-- Where the files are, seen from a directory that was read, is read as it is written. -/
theorem ofString_target (s : String) (name : String) (kind : DiagramKind) :
    FilePath.ofString (ExportPlan.target (.ofString s) name kind).toString =
      ExportPlan.target (.ofString s) name kind :=
  FilePath.ofString_toString ((FilePath.isPlain_ofString s).join (FilePath.isPlain_ofString _))

/-- **What a batch comes to**, with renderers of images. -/
theorem drew_of_exports {a : Arguments} {s u v w t : Studio} {directory : FilePath} {y : Ref .system} {e : Exporter}
    {settings : Settings} {kinds : List DiagramKind} {rs : List ExportResult}
    (ha : a.KindsApart) (hasked : outputDirectory a = .ok directory ∧ a.kinds = some kinds)
    (hloads : (loadInputs a).run s = (.ok (y, settings), v))
    (hcreate : (Exporter.create (some settings) none none).run v = (.ok e, u)) (hs : Untouched s u)
    (hdraws : ∀ kind, u.DrawsImages (e.diagram y kind).renderer)
    (hexports : e.Exports y directory a.writeSource u kinds rs w) (ht : Untouched w t) :
    Drew a s t (if rs.all ExportResult.isOk then codeOk else codeFailed)
      (linesText (drawnPaths rs)) directory y e u kinds rs where
  asked := hasked
  loaded := ⟨settings, v, hloads, hcreate⟩
  attempted := ⟨w, hexports, ht.files⟩
  records := hexports.map_kind
  paths := rfl
  lines := breaksIn_lines_eq_iff
  truth := by
    by_cases hall : rs.all ExportResult.isOk = true
    · exact .inl ⟨if_pos hall, List.all_eq_true.mp hall⟩
    · refine .inr ⟨if_neg hall, ?_⟩
      simpa using hall
  images := by
    intro r hr hok
    obtain ⟨htarget, image, hrendered, hfile⟩ :=
      hexports.exists_image (ha kinds hasked.2) (fun kind _ => hdraws kind) hr hok
    refine ⟨htarget, image, hrendered, ?_⟩
    obtain ⟨dir, hdir, rfl⟩ : ∃ dir, a.outputDir = some dir ∧ .ofString dir = directory := by
      have hplace := hasked.1
      rw [outputDirectory] at hplace
      split at hplace
      · exact ⟨_, ‹_›, Except.ok.inj hplace⟩
      · cases hplace
    rw [htarget, ofString_target, ← htarget, ht.files, ← hs.here]
    exact hfile

/-- A batch that comes to records was asked for some kinds, and to go somewhere. -/
theorem exists_exports {a : Arguments} {e : Exporter} {y : Ref .system} {u w : Studio} {rs : List ExportResult}
    (h : ((e.plan y).run (outputDirectory a) (a.kinds.elim [.list []] (·.map fun k => .text k.name))
      a.writeSource).run u = (.ok rs, w)) :
    ∃ directory kinds, outputDirectory a = .ok directory ∧ a.kinds = some kinds ∧
      e.Exports y directory a.writeSource u kinds rs w := by
  rcases hkinds : a.kinds with _ | kinds
  · obtain ⟨f, -, hrefused⟩ := @Exporter.exists_kindsOf_of_unknown [.list []] ⟨.list [], by simp, by decide⟩
    rw [hkinds, Option.elim_none, ExportPlan.run, hrefused] at h
    cases h
  · rcases hplace : outputDirectory a with f | directory
    · rw [hkinds, Option.elim_some, hplace, ExportPlan.run, kindsOf_names] at h
      cases h
    · rw [hkinds, Option.elim_some, hplace, ExportPlan.run, kindsOf_names] at h
      exact ⟨directory, kinds, rfl, rfl, Exporter.run_exportAll_iff.mp h⟩

/-- A run of the command, after the command line was read. -/
theorem execute_spec {a : Arguments} {s t : Studio} {code : Nat} {lines : List String} (ha : a.KindsApart)
    (hrun : (execute a).run s = (.ok (.ok code, lines), t)) :
    code = codeUnusable ∧ lines = [] ∧ Untouched s t ∨
      ∃ directory y e u kinds rs, Drew a s t code (linesText lines) directory y e u kinds rs := by
  have hload := keeps_loadInputs a s
  rcases hinputs : (loadInputs a).run s with ⟨f | ⟨y, settings⟩, v⟩
  · -- there is nothing to draw from
    rw [hinputs] at hload
    have hattempt : ((loadInputs a).attempt : Work _).run s = (.ok (.error f), v) := by
      rw [Step.run_attempt, hinputs]
    rw [execute, Step.run_bind_of_ok hattempt] at hrun
    dsimp only at hrun
    split at hrun
    · obtain ⟨w, hw, hnote⟩ : ∃ w, Untouched v w ∧
          (Studio.onHost (Host.note .error .commandLine f.message)).run v = (.ok (), w) :=
        ⟨_, keeps_note _ _ _ v, rfl⟩
      rw [Step.run_bind_of_ok hnote] at hrun
      cases hrun
      exact .inl ⟨rfl, rfl, IsTrans.trans _ _ _ hload hw⟩
    · cases hrun
  · -- there is, and the batch comes to its records
    rw [hinputs] at hload
    have hattempt : ((loadInputs a).attempt : Work _).run s = (.ok (.ok (y, settings)), v) := by
      rw [Step.run_attempt, hinputs]
    obtain ⟨e, u, hcreate, -, hhost, hgraphs, hcomponents⟩ := exists_run_create settings v
    have hu : Untouched v u := ⟨by rw [hhost], by rw [hhost], by rw [hhost]⟩
    have hdraws : ∀ kind, u.DrawsImages (e.diagram y kind).renderer := by
      intro kind m h
      cases kind with
      | simple => exact nomatch hgraphs.symm.trans h
      | uml => exact nomatch hcomponents.symm.trans h
    rw [execute, Step.run_bind_of_ok hattempt] at hrun
    dsimp only at hrun
    rw [Step.run_bind_of_ok hcreate] at hrun
    rcases hresults : ((e.plan y).run (outputDirectory a) (a.kinds.elim [.list []] (·.map fun k => .text k.name))
        a.writeSource).run u with ⟨f | rs, w⟩
    · rw [Step.run_bind_of_error hresults] at hrun
      cases hrun
    · rw [Step.run_bind_of_ok hresults] at hrun
      obtain ⟨t', lines', fault, ht', hreport, hlines, -⟩ := exists_run_report rs w
      rw [Step.run_bind_of_ok hreport] at hrun
      obtain _ | f := fault
      · cases hrun
        obtain rfl := hlines rfl
        obtain ⟨directory, kinds, hplace, hkinds, hexports⟩ := exists_exports hresults
        exact .inr ⟨directory, y, e, u, kinds, rs, drew_of_exports ha ⟨hplace, hkinds⟩ hinputs hcreate
          (IsTrans.trans _ _ _ hload hu) hdraws hexports ht'⟩
      · -- a path was refused, and there is no code
        cases hrun

/-! ### A run that draws -/

/-- Reading a document from a file that is there. -/
theorem reads_document {shape : Shape} {p : FilePath} {w : Host} {bytes : List UInt8}
    (hp : Host.unusable? p = none) (hread : w.files.read w.here p = .ok bytes) :
    Host.Reads (Host.readDocument shape p) w (documentOfBytes w.deepest shape bytes) := by
  have hcontents : w.contents p = .ok bytes := by
    rw [Host.contents, hp, hread]
    rfl
  have hdocument : w.documentIn shape p = documentOfBytes w.deepest shape bytes := by
    rw [Host.documentIn, hcontents]
    rfl
  rw [← hdocument]
  exact Host.reads_readDocument shape p

/-- Loading a landscape whose document is there. -/
theorem exists_run_loadFile {p : FilePath} {s : Studio} {document : Value} {y : Ref .system} {m : Model}
    (hdocument : Host.Reads (Host.readDocument documentShape p) s.host (.ok document))
    (hload : s.model.load document = .ok (y, m)) :
    ∃ h, h.world = s.host.world ∧
      (Studio.loadFile p).run s = (.ok y, { s with model := m, host := h }) := by
  obtain ⟨h, hrun, hworld⟩ := (Step.Answers.blame hdocument (Studio.fileFault p)).exists_run rfl
  have hread : (Studio.onHost ((Host.readDocument documentShape p).blame (Studio.fileFault p))).run s =
      (.ok document, { s with host := h }) := by
    rw [Studio.onHost, Step.run_within, hrun]
    rfl
  have hnote : ∀ (level : Level) (text : String) (t : Studio),
      (Studio.onHost (Host.note level .document text)).run t =
        (.ok (), { t with host := { t.host with notes := t.host.notes ++ [⟨level, .document, text⟩] } }) :=
    fun _ _ _ => rfl
  rw [Studio.loadFile, Step.run_bind_of_ok hread, Step.run_bind_of_ok (hnote _ _ _), Studio.load,
    Step.run_bind_of_ok (Step.run_get _)]
  dsimp only
  rw [hload]
  refine ⟨_, ?_, rfl⟩
  exact hworld

/-- Loading a landscape whose document is there, and settings of which there is no file. -/
theorem exists_run_loadInputs {a : Arguments} {s : Studio} {document : Value} {y : Ref .system} {m : Model}
    {settings : Settings} (hdocument : Host.Reads (Host.readDocument documentShape (.ofString a.landscape)) s.host
      (.ok document)) (hload : s.model.load document = .ok (y, m)) (hconfig : a.config = none)
    (hfound : s.host.found s.host.usualSettings = .ok none)
    (hchoose : Settings.choose s.host.home (Overrides.of s.host.environment) [] = .ok settings) :
    ∃ h, h.world = s.host.world ∧ (loadInputs a).run s = (.ok (y, settings), { s with model := m, host := h }) := by
  obtain ⟨h, hworld, hfile⟩ := exists_run_loadFile hdocument hload
  obtain ⟨h', hsettings, hworld'⟩ := (Settings.reads_load_of_missing hfound).exists_run hworld
  rw [hchoose] at hsettings
  have hrest : (Studio.onHost (Settings.load a.config)).run { s with model := m, host := h } =
      (.ok settings, { s with model := m, host := h' }) := by
    rw [hconfig, Studio.onHost, Step.run_within, hsettings]
  exact ⟨h', hworld', (Step.run_bind_of_ok hfile _).trans (Step.run_bind_of_ok hrest _)⟩

/-- A landscape as it is written. -/
def landscapeText : String :=
  "name: S\nmicroservices:\n- name: A\n"

/-- A studio with a landscape in a file, and with a layout engine that draws. -/
def landscapeStudio : Studio where
  host := { files := ⟨[(["l.yaml"], .file (Utf8.encode landscapeText.toList))]⟩, draws := .drawn [60] }

/-- Where the graph of this landscape is to be drawn. -/
def graphArguments (directory : String) : Arguments :=
  { landscape := "l.yaml", outputDir := some directory, kinds := some [.simple] }

/-- In this studio the landscape is loaded, and has a graph. -/
theorem exists_run_loadInputs_landscapeStudio (directory : String) : ∃ y m settings h,
    (Diagram.textOf m y .simple).toOption.isSome ∧ (m.system y).name = "S" ∧ h.world = landscapeStudio.host.world ∧
    (loadInputs (graphArguments directory)).run landscapeStudio =
      (.ok (y, settings), { landscapeStudio with model := m, host := h }) := by
  have hp : ((documentOfBytes none documentShape (Utf8.encode landscapeText.toList)).toOption.any
      fun document => (Model.load {} document).toOption.any fun r =>
        (Diagram.textOf r.2 r.1 .simple).toOption.isSome && (r.2.system r.1).name == "S") = true := by
    decide +kernel
  rcases hdocument : documentOfBytes none documentShape (Utf8.encode landscapeText.toList) with f | document
  · rw [hdocument] at hp
    cases hp
  rw [hdocument] at hp
  obtain ⟨y, m, hload, hp⟩ := Model.exists_load_of_any {} document _ hp
  obtain ⟨htext, hname⟩ : (Diagram.textOf m y .simple).toOption.isSome ∧ (m.system y).name = "S" := by
    simpa using hp
  have hbytes : landscapeStudio.host.files.read landscapeStudio.host.here (.ofString "l.yaml") =
      .ok (Utf8.encode landscapeText.toList) := by
    decide +kernel
  have hread : Host.Reads (Host.readDocument documentShape (.ofString "l.yaml")) landscapeStudio.host
      (.ok document) := by
    rw [← hdocument]
    exact reads_document (Host.unusable?_eq_none (by decide +kernel) (by decide +kernel)) hbytes
  have hfound : landscapeStudio.host.found landscapeStudio.host.usualSettings = .ok none := by
    rw [Host.found, Host.unusable?_eq_none (by decide +kernel) (by decide +kernel)]
    decide +kernel
  have hchoose : (Settings.choose landscapeStudio.host.home (Overrides.of landscapeStudio.host.environment)
      []).toOption.isSome := by
    decide +kernel
  rcases hchosen : Settings.choose landscapeStudio.host.home (Overrides.of landscapeStudio.host.environment) []
    with f | settings
  · rw [hchosen] at hchoose
    cases hchoose
  obtain ⟨h, hworld, hrun⟩ := exists_run_loadInputs (a := graphArguments directory) hread hload rfl hfound hchosen
  exact ⟨y, m, settings, h, htext, hname, hworld, hrun⟩

/-- In this studio the graph is drawn, if its image can be stored in the directory. -/
theorem exists_run_execute_landscapeStudio {directory : String} {fs : FileSystem}
    (hstores : Host.Stores landscapeStudio.host.files [] (ExportPlan.target (.ofString directory) "S" .simple) [60]
      (.ok ()) fs)
    (hplain : Utf8.halves? (ExportPlan.target (.ofString directory) "S" .simple).toString.toList = none) :
    ∃ t, (execute (graphArguments directory)).run landscapeStudio =
      (.ok (.ok codeOk, [(ExportPlan.target (.ofString directory) "S" .simple).toString]), t) := by
  obtain ⟨y, m, settings, h, htext, hname, hworld, hinputs⟩ := exists_run_loadInputs_landscapeStudio directory
  obtain ⟨e, u, hcreate, hmodel, hhost, hgraphs, -⟩ :=
    exists_run_create settings { landscapeStudio with model := m, host := h }
  have hworld' : u.host.world = landscapeStudio.host.world := by rw [hhost, hworld]
  have hfiles : u.host.files = landscapeStudio.host.files := Host.files_eq_of_world hworld'
  have hhere : u.host.here = [] := Host.here_eq_of_world hworld'
  have hdraws : u.host.draws = .drawn [60] := congrArg Host.draws hworld'
  have hsystem : (u.model.system y).name = "S" := by rw [hmodel, hname]
  rw [← hfiles, ← hhere, ← hsystem] at hstores
  obtain ⟨r, w, hresults, ⟨hok, htarget⟩, -⟩ := Exporter.exists_run_of_stores hgraphs hdraws (hmodel ▸ htext) hstores
  rw [hsystem] at htarget
  have hpaths : drawnPaths [r] = [(ExportPlan.target (.ofString directory) "S" .simple).toString] := by
    rw [drawnPaths, List.filter_cons_of_pos hok, ← htarget]
    rfl
  obtain ⟨t, lines, fault, -, hreport, hlines, hfault⟩ := exists_run_report [r] w
  rw [hpaths] at hlines hfault
  obtain rfl := hfault (by simpa using hplain)
  obtain rfl := hlines rfl
  have hattempt : ((loadInputs (graphArguments directory)).attempt : Work _).run landscapeStudio =
      (.ok (.ok (y, settings)), { landscapeStudio with model := m, host := h }) := by
    rw [Step.run_attempt, hinputs]
  refine ⟨t, ?_⟩
  rw [execute, Step.run_bind_of_ok hattempt]
  dsimp only
  rw [Step.run_bind_of_ok hcreate]
  refine (Step.run_bind_of_ok hresults _).trans ((Step.run_bind_of_ok hreport _).trans ?_)
  rw [List.all_cons, hok]
  rfl

/-- The words that ask for this. -/
def graphWords (directory : String) : List String :=
  ["l.yaml", "--kind", "simple", "-o", directory]

/-- They do, if the directory is not taken for an option. -/
theorem parse_graphWords {directory : String} (h : wordsOf (graphWords directory) =
    .ok [.plain "l.yaml", .flag .kind false none, .plain "simple", .flag .outputDir true none, .plain directory]) :
    parse (graphWords directory) = .ok (.read (graphArguments directory)) := by
  rw [parse, h]
  rfl

/-- In this studio the command draws the graph and writes its path, if its image can be stored in the directory. -/
theorem exists_run_landscapeStudio {directory : String} {fs : FileSystem}
    (hwords : parse (graphWords directory) = .ok (.read (graphArguments directory)))
    (hstores : Host.Stores landscapeStudio.host.files [] (ExportPlan.target (.ofString directory) "S" .simple) [60]
      (.ok ()) fs)
    (hplain : Utf8.halves? (ExportPlan.target (.ofString directory) "S" .simple).toString.toList = none) :
    ∃ o t, run (graphWords directory) "" landscapeStudio = (o, t) ∧ o.code = .ok codeOk ∧
      o.output = linesText [(ExportPlan.target (.ofString directory) "S" .simple).toString] := by
  obtain ⟨t, hexecute⟩ := exists_run_execute_landscapeStudio hstores hplain
  have hlevel : (graphArguments directory).logLevel = some .info := rfl
  rw [run, hwords]
  dsimp only
  rw [hlevel, hexecute]
  exact ⟨_, _, rfl, rfl, rfl⟩

/-! ### The command -/

/-- **The exit code tells the truth.** Whenever the command comes to a code, and not just to its help, this is one of two
things. Either the code says that there was nothing to draw from: then nothing is written, no file or directory has
changed, and nothing outside was asked. Or the diagrams that were asked for were attempted in their order: then what is
written are the paths of those that were drawn, each with a line feed behind it, which is a line for each if none of
them holds a line feed; the code says whether all were drawn; and at the end each path leads to a file that holds the
image which the renderer produced in this run. -/
theorem code_of_run {words : List String} {time : String} {s t : Studio} {o : Outcome} {code : Nat}
    (hrun : run words time s = (o, t)) (hcode : o.code = .ok code) (hhelp : parse words ≠ .ok .help) :
    code = codeUnusable ∧ o.output = "" ∧ t.host.files = s.host.files ∧ t.host.requests = s.host.requests ∨
    code ≠ codeUnusable ∧ ∃ a directory y e u kinds rs, parse words = .ok (.read a) ∧
      Drew a s t code o.output directory y e u kinds rs := by
  rw [run] at hrun
  rcases hwords : parse words with f | _ | a
  · rw [hwords] at hrun
    cases hrun
    cases hcode
    exact .inl ⟨rfl, rfl, rfl, rfl⟩
  · exact absurd hwords hhelp
  · rw [hwords] at hrun
    dsimp only at hrun
    rcases hlevel : a.logLevel with _ | level
    · rw [hlevel] at hrun
      cases hrun
      cases hcode
    · rw [hlevel] at hrun
      dsimp only at hrun
      rcases hexecute : (execute a).run s with ⟨f | ⟨code', lines⟩, t'⟩
      · rw [hexecute] at hrun
        cases hrun
        cases hcode
      · rw [hexecute] at hrun
        cases hrun
        obtain rfl : code' = .ok code := hcode
        rcases execute_spec (kindsApart_parse hwords) hexecute with ⟨rfl, rfl, hs⟩ | hdrew
        · exact .inl ⟨rfl, rfl, hs.files, hs.requests⟩
        · obtain ⟨directory, y, e, u, kinds, rs, hdrew⟩ := hdrew
          refine .inr ⟨?_, a, directory, y, e, u, kinds, rs, rfl, hdrew⟩
          rcases hdrew.truth with ⟨rfl, -⟩ | ⟨rfl, -⟩
          · decide
          · decide

/-- In this studio, the command draws the graph and says so. -/
theorem code_of_run_landscapeStudio : ∃ o t, run (graphWords ".") "" landscapeStudio = (o, t) ∧
    o.code = .ok codeOk ∧ ∃ a directory y e u kinds rs, parse (graphWords ".") = .ok (.read a) ∧
      Drew a landscapeStudio t codeOk o.output directory y e u kinds rs := by
  have hwords : parse (graphWords ".") = .ok (.read (graphArguments ".")) := parse_graphWords (by decide +kernel)
  have hmade : FileSystem.ensureDirectory landscapeStudio.host.files []
      (ExportPlan.target (.ofString ".") "S" .simple).parent = (landscapeStudio.host.files, none) := by
    decide +kernel
  have hwrite : landscapeStudio.host.files.write [] (ExportPlan.target (.ofString ".") "S" .simple) [60] =
      .ok (landscapeStudio.host.files.put ["S_simpleDiagram.svg"] (.file [60])) := by
    decide +kernel
  have hstores := Host.Stores.written (Host.unusable?_eq_none (by decide +kernel) (by decide +kernel)) hmade
    (Host.unusable?_eq_none (by decide +kernel) (by decide +kernel)) hwrite
  obtain ⟨o, t, hrun, hcode, -⟩ := exists_run_landscapeStudio hwords hstores (by decide +kernel)
  rcases code_of_run hrun hcode (by rw [hwords]; exact nofun) with ⟨hunusable, -⟩ | ⟨-, hdrew⟩
  · cases hunusable
  · exact ⟨o, t, hrun, hcode, hdrew⟩

/-- A directory whose name is two lines. -/
def twoLines : String :=
  "a\nb"

/-- **There may be more lines than images**: drawn into a directory whose name is two lines, one diagram has two. -/
theorem more_lines_than_images :
    ¬∀ words time (s t : Studio) (o : Outcome) code, run words time s = (o, t) → o.code = .ok code →
      parse words ≠ .ok .help → code ≠ codeUnusable → ∀ a kinds, parse words = .ok (.read a) → a.kinds = some kinds →
        (code = codeOk → breaksIn o.output = kinds.length) := by
  intro h
  have hwords : parse (graphWords twoLines) = .ok (.read (graphArguments twoLines)) :=
    parse_graphWords (by decide +kernel)
  have hmade : FileSystem.ensureDirectory landscapeStudio.host.files []
      (ExportPlan.target (.ofString twoLines) "S" .simple).parent =
        (landscapeStudio.host.files.put [twoLines] .directory, none) := by
    decide +kernel
  have hwrite : (landscapeStudio.host.files.put [twoLines] .directory).write []
      (ExportPlan.target (.ofString twoLines) "S" .simple) [60] =
        .ok ((landscapeStudio.host.files.put [twoLines] .directory).put [twoLines, "S_simpleDiagram.svg"]
          (.file [60])) := by
    decide +kernel
  have hstores := Host.Stores.written (Host.unusable?_eq_none (by decide +kernel) (by decide +kernel)) hmade
    (Host.unusable?_eq_none (by decide +kernel) (by decide +kernel)) hwrite
  obtain ⟨o, t, hrun, hcode, houtput⟩ := exists_run_landscapeStudio hwords hstores (by decide +kernel)
  have hlines := h _ _ _ t o _ hrun hcode (by rw [hwords]; exact nofun) (by decide) _ _ hwords rfl rfl
  rw [houtput] at hlines
  exact absurd hlines (by decide +kernel)

end Landscape.CommandLine
