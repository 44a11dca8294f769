import Landscape.Proofs.Export.Records
import Landscape.Proofs.Host.Names
import Landscape.Proofs.Host.Telling

/-!
# Exporting a diagram and drawing it directly

There are two ways to the image of a diagram. One can put the diagram together and have it drawn, or one can ask an
exporter for it. The exporter does not have the diagram drawn: it asks for the text itself, stores it beside the image
if that is wanted, and hands it to the renderer. What goes wrong on the way it looks at twice, once for the text and
once for what comes after it.

The two ways tell different things, and otherwise they are the same (`Landscape.Exporter.run_eq_drawDirectly`). What
both of them do in the end is to draw a text with a renderer, from studios that differ only in what was told there, and
a drawing does not look at that (`Landscape.Studio.respects_draw`). Everything before it only tells. So whatever a
diagram comes to when it is drawn directly, the export comes to the same and reports it
(`Landscape.Exporter.Reports`): a fault of a diagram is put into the result, and any other is passed on.
-/

namespace Landscape

/-! ### Renderers do not look at what was told -/

section OnSecond

variable {κ α : Type} {s t : κ × Host}

theorem map_untold_eq_iff : Prod.map id Host.untold s = Prod.map id Host.untold t ↔
    s.1 = t.1 ∧ s.2.untold = t.2.untold :=
  Prod.ext_iff

/-- What is done on the host of a pair is seen as on the host. -/
theorem respects_onSecond {act : Step Fault Host α} (h : act.Respects Host.untold) :
    (act.within Prod.snd fun h s => (s.1, h) : Step Fault (κ × Host) α).Respects (Prod.map id Host.untold) :=
  h.within (fun _ _ hst => (map_untold_eq_iff.mp hst).2) fun _ _ _ _ hst hab =>
    map_untold_eq_iff.mpr ⟨(map_untold_eq_iff.mp hst).1, hab⟩

end OnSecond

section Views

variable {σ ν : Type} {view : σ → ν}

theorem respects_requireSvg (format : Choice) : (requireSvg format : Step Fault σ Unit).Respects view := by
  cases format with
  | svg => exact Step.respects_pure _
  | component => exact Step.respects_throw _
  | other v => exact Step.respects_throw _

theorem respects_bytesOf (text : String) : (bytesOf text : Step Fault σ (List UInt8)).Respects view :=
  (Step.respects_of _).bind fun _ => Step.respects_pure _

end Views

theorem respects_dotImage (engine : Value) (source : String) (format : Choice) :
    (dotImage engine source format).Respects Host.untold := by
  refine (respects_requireSvg format).bind fun _ => (Step.respects_of _).bind fun name => ?_
  refine (Host.respects_draw _ _ _).bind fun outcome => ?_
  cases outcome with
  | drawn image => exact Step.respects_pure _
  | missing => exact Step.respects_throw _
  | failed f => exact Step.respects_throw _
  | raised f => exact Step.respects_throw _

theorem respects_drawDot (engine : Value) (source : String) (format : Choice) (target : FilePath) :
    (drawDot engine source format target).Respects Host.untold :=
  (respects_dotImage engine source format).bind fun image => respects_storeImage target image

theorem Memory.respects_draw (source : String) (format : Choice) (target : FilePath) :
    (Memory.draw source format target).Respects (Prod.map id Host.untold) := by
  refine (Step.respects_modify fun s t hst => ?_).bind fun _ => Step.respects_get_bind (fun s t hst => ?_) fun s => ?_
  · obtain ⟨hmemory, hhost⟩ := map_untold_eq_iff.mp hst
    exact map_untold_eq_iff.mpr ⟨by rw [hmemory], hhost⟩
  · rw [(map_untold_eq_iff.mp hst).1]
  · split
    · exact (respects_bytesOf source).bind fun bytes => respects_onSecond (respects_storeImage target bytes)
    · exact Step.respects_pure _

namespace PlantUml

/-- What a drawing with PlantUML comes to is known, and with it that it looks at nothing that was told. -/
theorem respects_drawSvg (text : String) : (drawSvg text).Respects (Prod.map id Host.untold) := by
  have hasks : ∀ s : Renderer × Host, ∃ r qs y,
      (drawSvg text).Asks (Prod.map id Host.world) (·.2.requests) (Prod.map id Host.world s) r qs y := by
    rintro ⟨k, w⟩
    obtain ⟨k', hasks, -⟩ := findsBy_drawSvg k w text
    exact ⟨_, _, _, hasks⟩
  refine (Step.Asks.respects hasks).of_view fun s t => ?_
  simp only [Prod.ext_iff, Prod.map_fst, Prod.map_snd, Host.untold_eq_iff, and_assoc]

theorem respects_draw (text : String) (format : Choice) (target : FilePath) :
    (draw text format target).Respects (Prod.map id Host.untold) := by
  have himage : (image text format).Respects (Prod.map id Host.untold) :=
    (respects_requireSvg format).bind fun _ => (respects_drawSvg text).bind fun svg => respects_bytesOf svg
  exact himage.bind fun bytes => respects_onSecond (respects_storeImage target bytes)

end PlantUml

theorem Renderer.respects_draw (source : String) (format : Choice) (target : FilePath) :
    (draw source format target).Respects (Prod.map id Host.untold) := by
  refine Step.respects_get_bind (fun s t hst => ?_) fun s => ?_
  · rw [(map_untold_eq_iff.mp hst).1]
  cases s.1 with
  | graphviz engine => exact respects_onSecond (respects_drawDot engine source format target)
  | plantUml k =>
    refine (PlantUml.respects_draw source format target).within (fun s t hst => ?_) fun a b s t _ hab => ?_
    · exact map_untold_eq_iff.mpr ⟨rfl, (map_untold_eq_iff.mp hst).2⟩
    · obtain ⟨hknows, hhost⟩ := map_untold_eq_iff.mp hab
      exact map_untold_eq_iff.mpr ⟨congrArg Renderer.plantUml hknows, hhost⟩
  | memory m =>
    refine (Memory.respects_draw source format target).within (fun s t hst => ?_) fun a b s t _ hab => ?_
    · exact map_untold_eq_iff.mpr ⟨rfl, (map_untold_eq_iff.mp hst).2⟩
    · obtain ⟨hknows, hhost⟩ := map_untold_eq_iff.mp hab
      exact map_untold_eq_iff.mpr ⟨congrArg Renderer.memory hknows, hhost⟩

/-! ### Studios -/

namespace Studio

variable {s t : Studio}

/-- A studio that was told nothing. -/
def untold (s : Studio) : Studio :=
  { s with host := s.host.untold }

theorem untold_eq_iff :
    s.untold = t.untold ↔ s.model = t.model ∧ s.renderers = t.renderers ∧ s.host.untold = t.host.untold := by
  cases s
  cases t
  simp [untold]

theorem renderer_eq_of_untold (hsame : s.untold = t.untold) (r : RendererRef) : s.renderer r = t.renderer r :=
  congrArg (fun x : Table Renderer => x.get r.index) (untold_eq_iff.mp hsame).2.1

theorem respects_onHost {α : Type} {act : Step Fault Host α} (h : act.Respects Host.untold) :
    (onHost act).Respects untold := by
  refine h.within (fun s t hst => (untold_eq_iff.mp hst).2.2) fun a b s t hst hab => untold_eq_iff.mpr ?_
  obtain ⟨hmodel, hrenderers, -⟩ := untold_eq_iff.mp hst
  exact ⟨hmodel, hrenderers, hab⟩

/-- **Drawing a text** does not depend on what was told. -/
theorem respects_draw (r : RendererRef) (source : String) (format : Choice) (target : FilePath) :
    (draw r source format target).Respects untold := by
  refine (Renderer.respects_draw source format target).within (fun s t hst => ?_) fun a b s t hst hab => ?_
  · exact Prod.ext (renderer_eq_of_untold hst r) (untold_eq_iff.mp hst).2.2
  · obtain ⟨hmodel, hrenderers, -⟩ := untold_eq_iff.mp hst
    obtain ⟨hrenderer, hhost⟩ := map_untold_eq_iff.mp hab
    exact untold_eq_iff.mpr ⟨hmodel, by rw [hrenderers, hrenderer], hhost⟩

end Studio

/-! ### Drawing directly -/

namespace Diagram

open Studio

variable {d : Diagram} {s : Studio}

/-- Asking for a text does nothing but telling. -/
theorem shown_source (d : Diagram) (s : Studio) : d.source.shown untold s = (d.textIn s.model, s.untold) := by
  have hready : ∀ r, d.ready.mapError .configuration = r →
      (Step.of (d.ready.mapError .configuration) : Work (Ref .system)).run s = (r, s) := by
    rintro _ rfl
    rfl
  rw [textIn]
  cases h : d.ready.mapError Fault.configuration with
  | error f => exact Step.shown_bind_of_error (Step.shown_of_run (hready _ h))
  | ok y =>
    rw [Step.shown, source, Step.run_bind_of_ok (hready _ h), Step.run_bind_of_ok (Step.run_get s)]
    cases d.kind <;> rfl

theorem respects_source (d : Diagram) : d.source.Respects untold := by
  intro s t hst
  rw [shown_source, shown_source, (untold_eq_iff.mp hst).1, hst]

/-- **Drawing a diagram** shows what drawing its text shows, if there is a text. -/
theorem shown_draw (d : Diagram) (path : String) (s : Studio) : (d.draw path).shown untold s =
    match d.textIn s.model with
    | .error f => (.error f, s.untold)
    | .ok text => (Studio.draw d.renderer text d.format (.ofString path)).shown untold s := by
  have hnote : ∀ origin text,
      (onHost (Host.note .debug origin text) : Work Unit).shown untold s = (.ok (), s.untold) :=
    fun _ _ => rfl
  have hdraw : ∀ text, (Studio.draw d.renderer text d.format (.ofString path)).Respects untold :=
    fun text => respects_draw _ _ _ _
  have hsource := d.shown_source s
  cases d with
  | simple c r =>
    refine (Step.shown_bind_of_ok (hnote _ _) ((respects_source _).bind hdraw)).trans ?_
    cases htext : (simple c r).textIn s.model with
    | error f => exact Step.shown_bind_of_error (hsource.trans (by rw [htext]))
    | ok text => exact Step.shown_bind_of_ok (hsource.trans (by rw [htext])) (hdraw text)
  | uml c r =>
    cases htext : (uml c r).textIn s.model with
    | error f => exact Step.shown_bind_of_error (hsource.trans (by rw [htext]))
    | ok text =>
      refine (Step.shown_bind_of_ok (t := s) (hsource.trans (by rw [htext])) ?_).trans
        (Step.shown_bind_of_ok (hnote _ _) (hdraw text))
      exact (respects_onHost (Host.respects_note _ _ _)).bind fun _ => hdraw text

end Diagram

/-! ### Exporting -/

theorem respects_storeSource (file : FilePath) (text : String) :
    (ExportPlan.storeSource file text).Respects Host.untold := by
  refine Step.Respects.blame ?_ _
  rw [Host.storeText]
  split
  · exact Host.respects_store _ _
  · exact (Host.respects_store _ _).bind fun _ => Step.respects_throw _

namespace ExportPlan

variable {σ ν : Type} {view : σ → ν} {s : σ} {x : ν}

/-- What shows of a step that is recorded is the record of how it ends. -/
theorem shown_recording {r : ExportResult} {act : Step Fault σ ExportResult} {o : Except Fault Unit}
    (h : act.shown view s = (o.map fun _ => r, x)) : (recording r act).shown view s = (r.record o, x) := by
  obtain ⟨t, hrun, rfl⟩ := Step.exists_run_of_shown h
  exact Step.shown_of_run (run_recording hrun)

end ExportPlan

namespace Exporter

open Studio

variable {e : Exporter} {y : Ref .system} {directory : FilePath} {writeSource : Bool} {kind : DiagramKind}
  {text : String} {s t : Studio}

/-- Stores the text beside the image, if it is wanted there. -/
def storing (writeSource : Bool) (file : FilePath) (text : String) : Work Unit :=
  if writeSource then Studio.onHost (ExportPlan.storeSource file text) else pure ()

theorem respects_storing (writeSource : Bool) (file : FilePath) (text : String) :
    (storing writeSource file text).Respects untold := by
  rw [storing]
  split
  · exact respects_onHost (respects_storeSource file text)
  · exact Step.respects_pure _

/-- Draws a text as the diagram of a kind, where an export wants the image. -/
def drawing (e : Exporter) (y : Ref .system) (directory : FilePath) (name : String) (kind : DiagramKind)
    (text : String) : Work FilePath :=
  Studio.draw (e.diagram y kind).renderer text .svg (ExportPlan.target directory name kind)

theorem respects_drawing (e : Exporter) (y : Ref .system) (directory : FilePath) (name : String) (kind : DiagramKind)
    (text : String) : (e.drawing y directory name kind text).Respects untold :=
  respects_draw _ _ _ _

/-- What an export has to tell of a diagram whose text it draws, before it is known how that ends. -/
def resultOfText (directory : FilePath) (name : String) (writeSource : Bool) (kind : DiagramKind) (text : String) :
    ExportResult where
  kind := kind
  target := ExportPlan.target directory name kind
  source := some text
  sourceFile := if writeSource then some (ExportPlan.sourceTarget directory name kind) else none

/-- An attempt that has a text, and has stored it where it is wanted, shows the record of drawing it. -/
theorem shown_finish {name : String}
    (hstored : (storing writeSource (ExportPlan.sourceTarget directory name kind) text).shown untold s =
      (.ok (), t.untold)) :
    ((e.plan y).finish name directory writeSource
        { kind, target := ExportPlan.target directory name kind } text).shown untold s =
      Prod.map (fun o => (resultOfText directory name writeSource kind text).record (o.map fun _ => ())) id
        ((e.drawing y directory name kind text).shown untold t) := by
  have hdraw : (e.drawing y directory name kind text).Respects untold := respects_drawing _ _ _ _ _ _
  have hfinish : (e.plan y).finish name directory writeSource
      { kind, target := ExportPlan.target directory name kind } text =
      ExportPlan.recording (resultOfText directory name writeSource kind text) (do
        storing writeSource (ExportPlan.sourceTarget directory name kind) text
        let _ ← e.drawing y directory name kind text
        return resultOfText directory name writeSource kind text) := by
    cases writeSource <;> cases kind <;> rfl
  rw [hfinish]
  refine ExportPlan.shown_recording ?_
  rw [Step.shown_bind_of_ok hstored (hdraw.bind fun _ => Step.respects_pure _), Step.shown_bind_pure, Step.shown]
  generalize (e.drawing y directory name kind text).run t = x
  rcases x with ⟨f | p, u⟩ <;> rfl

/-- Without a text, an attempt shows the record of what is wrong with it. -/
theorem shown_exportOne_of_noText {f : Fault} (htext : (e.diagram y kind).textIn s.model = .error f) :
    ((e.plan y).exportOne directory writeSource kind).shown untold s =
      (ExportResult.record { kind, target := ExportPlan.target directory (s.model.system y).name kind } (.error f),
        s.untold) := by
  obtain ⟨t, hrun, ht⟩ := Step.exists_run_of_shown ((e.diagram y kind).shown_source s)
  rw [htext] at hrun
  rw [Step.shown_of_run (ExportPlan.run_exportOne_of_noText (p := e.plan y) rfl hrun), ht]

/-- With a text, an attempt shows the record of drawing it. -/
theorem shown_exportOne_of_text (htext : (e.diagram y kind).textIn s.model = .ok text)
    (hstored : (storing writeSource (ExportPlan.sourceTarget directory (s.model.system y).name kind) text).run s =
      (.ok (), t)) :
    ((e.plan y).exportOne directory writeSource kind).shown untold s =
      Prod.map (fun o => (resultOfText directory (s.model.system y).name writeSource kind text).record
          (o.map fun _ => ())) id
        ((e.drawing y directory (s.model.system y).name kind text).shown untold t) := by
  obtain ⟨u, hrun, hu⟩ := Step.exists_run_of_shown ((e.diagram y kind).shown_source s)
  rw [htext] at hrun
  rw [Step.shown, ExportPlan.run_exportOne_of_text (p := e.plan y) rfl hrun]
  -- asking for the text has told something, and storing it does not look at that
  exact shown_finish ((respects_storing _ _ _ u s hu).trans (Step.shown_of_run hstored))

/-- An export of one kind shows the one result of its attempt. -/
theorem shown_run (e : Exporter) (y : Ref .system) (directory : FilePath) (kind : DiagramKind) (writeSource : Bool)
    (s : Studio) : (e.run y directory [.text kind.name] writeSource).shown untold s =
      Prod.map (Except.map fun r => [r]) id (((e.plan y).exportOne directory writeSource kind).shown untold s) := by
  have hkinds : ExportPlan.kindsOf [.text kind.name] = .ok [kind] := kindsOf_of_known (by cases kind <;> rfl)
  rw [Step.shown, run_of_kindsOf hkinds]
  rcases hrun : ((e.plan y).exportOne directory writeSource kind).run s with ⟨f | r, t⟩
  · rw [Step.shown_of_run hrun, run_exportAll_of_error hrun]
    rfl
  · rw [Step.shown_of_run hrun, run_exportAll_of_ok hrun]
    rfl

/-! ### What an export reports -/

/-- **An export reports** how a drawing ended: it raises what the drawing raises and is no fault of a diagram, and
otherwise it has one result, which is good if the drawing answered and else has the fault of the drawing. -/
structure Reports (exported : Except Fault (List ExportResult)) (kind : DiagramKind) (target : FilePath)
    (drawn : Except Fault FilePath) : Prop where
  raises : ∀ f, exported = .error f ↔ drawn = .error f ∧ f.isDiagram = false
  result : ∀ rs, exported = .ok rs → ∃ r, rs = [r] ∧ r.kind = kind ∧ r.target = target ∧
    (r.isOk = true ↔ ∃ p, drawn = .ok p) ∧ ∀ f, r.fault = some f ↔ drawn = .error (.diagram f)

/-- The record of how a drawing ended reports it. -/
theorem reports_record {r : ExportResult} (hr : r.fault = none) (o : Except Fault FilePath) :
    Reports ((r.record (o.map fun _ => ())).map fun r => [r]) r.kind r.target o := by
  rcases o with f | p
  · cases f with
    | diagram f =>
      refine ⟨fun f' => ⟨nofun, ?_⟩, ?_⟩
      · rintro ⟨⟨⟩, ⟨⟩⟩
      · rintro _ ⟨⟩
        exact ⟨{ r with fault := some f }, rfl, rfl, rfl, ⟨nofun, nofun⟩, fun f' => by simp⟩
    | _ =>
      refine ⟨fun f' => ⟨?_, fun h => congrArg _ (Except.error.inj h.1)⟩, nofun⟩
      rintro ⟨⟩
      exact ⟨rfl, rfl⟩
  · refine ⟨fun f => ⟨nofun, fun h => nomatch h.1⟩, ?_⟩
    rintro _ ⟨⟩
    exact ⟨r, rfl, rfl, rfl, by simp [ExportResult.isOk, hr], by simp [hr]⟩

/-- **An export that has its text reports the drawing of it**, and leaves what the drawing leaves. -/
theorem reports_of_text (writeSource : Bool) (htext : (e.diagram y kind).textIn s.model = .ok text)
    (hstored : (storing writeSource (ExportPlan.sourceTarget directory (s.model.system y).name kind) text).run s =
      (.ok (), t)) :
    Reports ((e.run y directory [.text kind.name] writeSource).run s).1 kind
        (ExportPlan.target directory (s.model.system y).name kind)
        ((e.drawing y directory (s.model.system y).name kind text).run t).1 ∧
      ((e.run y directory [.text kind.name] writeSource).run s).2.untold =
        ((e.drawing y directory (s.model.system y).name kind text).run t).2.untold := by
  have hshown := shown_run e y directory kind writeSource s
  rw [shown_exportOne_of_text htext hstored] at hshown
  obtain ⟨hanswer, hleft⟩ := Prod.mk.inj hshown
  refine ⟨?_, hleft⟩
  rw [hanswer]
  exact reports_record rfl _

/-- An export without a text reports what is wrong with it, and leaves everything as it was. -/
theorem reports_of_noText (writeSource : Bool) {f : Fault} (htext : (e.diagram y kind).textIn s.model = .error f) :
    Reports ((e.run y directory [.text kind.name] writeSource).run s).1 kind
        (ExportPlan.target directory (s.model.system y).name kind) (.error f) ∧
      ((e.run y directory [.text kind.name] writeSource).run s).2.untold = s.untold := by
  have hshown := shown_run e y directory kind writeSource s
  rw [shown_exportOne_of_noText htext] at hshown
  obtain ⟨hanswer, hleft⟩ := Prod.mk.inj hshown
  refine ⟨?_, hleft⟩
  rw [hanswer]
  exact reports_record rfl (.error f)

/-- What a diagram of a kind is put together from, with the renderer that an exporter has for the kind. -/
def draft (e : Exporter) (y : Ref .system) : DiagramKind → Diagram.Draft
  | .simple => { kind := .simple, system := some y, format := .svg, renderer := some e.graphs }
  | .uml => { kind := .uml, system := some y, type := .component, format := .svg, renderer := some e.components }

/-- **Draws a diagram directly**: puts it together and has it drawn. -/
def drawDirectly (e : Exporter) (y : Ref .system) (kind : DiagramKind) (path : String) : Work FilePath := do
  let d ← (e.draft y kind).build
  d.draw path

theorem drawDirectly_eq (e : Exporter) (y : Ref .system) (kind : DiagramKind) (path : String) :
    e.drawDirectly y kind path = (e.diagram y kind).draw path := by
  cases kind <;> rfl

/-- **An export is a drawing.** The file of a kind of diagram is what its directory and its name with a slash between
them are read as, unless the directory is a bare root or the name begins at one; however its path is written, the export
of the kind reports how the diagram ends when it is drawn there directly, and leaves the studio as that does, but for
what was told: it has asked the same, in the same order, and the model, the renderers and the files are the same. If the
text is to be stored beside the image and is, then the export goes on to draw the same text with the same renderer. -/
theorem run_eq_drawDirectly (e : Exporter) (y : Ref .system) (directory : String) (kind : DiagramKind) (s : Studio) :
    let name := (s.model.system y).name
    let target := ExportPlan.target (.ofString directory) name kind
    FilePath.ofString target.toString = target ∧
    (directory ≠ "" → directory ≠ "/" → directory ≠ "//" → (aliasOf name).toList.head? ≠ some '/' →
      FilePath.ofString (directory ++ "/" ++ (aliasOf name ++ kind.fileSuffix ++ ".svg")) = target) ∧
    ∀ path, FilePath.ofString path = target →
      let direct := (e.drawDirectly y kind path).run s
      let exported := (e.run y (.ofString directory) [.text kind.name] false).run s
      Reports exported.1 kind target direct.1 ∧ exported.2.untold = direct.2.untold ∧
      ∀ text t, ((e.diagram y kind).source.run s).1 = .ok text →
        (Studio.onHost (ExportPlan.storeSource
          (ExportPlan.sourceTarget (.ofString directory) name kind) text)).run s = (.ok (), t) →
        let draw := Studio.draw (e.diagram y kind).renderer text .svg target
        let written := (e.run y (.ofString directory) [.text kind.name] true).run s
        direct.1 = (draw.run s).1 ∧ direct.2.untold = (draw.run s).2.untold ∧
        Reports written.1 kind target (draw.run t).1 ∧ written.2.untold = (draw.run t).2.untold := by
  intro name target
  have hformat : (e.diagram y kind).format = .svg := by cases kind <;> rfl
  refine ⟨FilePath.ofString_toString ((FilePath.isPlain_ofString _).join (FilePath.isPlain_ofString _)), ?_, ?_⟩
  · intro hempty hsingle hdouble hrelative
    refine FilePath.ofString_append_slash hempty hsingle hdouble ?_
    rw [String.toList_append, String.toList_append, List.append_assoc, List.head?_append]
    cases hhead : (aliasOf name).toList.head? with
    | none => cases kind <;> decide
    | some c => rwa [hhead] at hrelative
  intro path hpath direct exported
  have hdirect := (e.diagram y kind).shown_draw path s
  rw [hpath, hformat, ← drawDirectly_eq] at hdirect
  cases htext : (e.diagram y kind).textIn s.model with
  | error f =>
    rw [htext] at hdirect
    obtain ⟨hanswer, hleft⟩ := Prod.mk.inj hdirect
    obtain ⟨hreports, hexported⟩ := reports_of_noText false htext
    refine ⟨hanswer ▸ hreports, hexported.trans hleft.symm, fun text t hsource => ?_⟩
    rw [Diagram.run_source, htext] at hsource
    cases hsource
  | ok text =>
    rw [htext] at hdirect
    obtain ⟨hanswer, hleft⟩ := Prod.mk.inj hdirect
    obtain ⟨hreports, hexported⟩ := reports_of_text false htext rfl
    refine ⟨hanswer ▸ hreports, hexported.trans hleft.symm, fun text' t hsource hstored => ?_⟩
    rw [Diagram.run_source, htext] at hsource
    cases hsource
    obtain ⟨hwritten, hleft'⟩ := reports_of_text true htext hstored
    exact ⟨hanswer, hleft, hwritten, hleft'⟩

/-- With a renderer that remembers, the diagram that is drawn directly and the one that is exported with its text beside
it leave the same call. -/
theorem run_eq_drawDirectly_rememberingStudio :
    let e : Exporter := ⟨⟨0⟩, ⟨0⟩⟩
    let direct := (e.drawDirectly ⟨0⟩ .simple "out/S_simpleDiagram.svg").run rememberingStudio
    let written := (e.run ⟨0⟩ (.ofString "out") [.text "simple"] true).run rememberingStudio
    ∃ calls, direct.2.renderer ⟨0⟩ = .memory { calls } ∧ written.2.renderer ⟨0⟩ = .memory { calls } ∧
      calls.map (fun x => (x.source, x.target.parts)) =
        [("strict digraph G \x7b\n\x7d\n", ["out", "S_simpleDiagram.svg"])] := by
  intro e direct written
  let source := "strict digraph G \x7b\n\x7d\n"
  let file := ExportPlan.sourceTarget (.ofString "out") "S" .simple
  have hsource : ((e.diagram ⟨0⟩ .simple).source.run rememberingStudio).1 = .ok source := rfl
  have hbytes : Utf8.encode? source.toList = .ok (Utf8.encode source.toList) := by
    have hspelled : spelled source.toList = source.toList := by decide +kernel
    rw [← Utf8.encode?_spelled, hspelled]
  have hmade : FileSystem.ensureDirectory {} [] file.parent = (⟨[(["out"], .directory)]⟩, none) := by decide +kernel
  have hwrite : FileSystem.write ⟨[(["out"], .directory)]⟩ [] file (Utf8.encode source.toList) =
      .ok ⟨[(["out"], .directory), (["out", "S_simpleDiagram.dot"], .file (Utf8.encode source.toList))]⟩ := by
    decide +kernel
  have hstores : Host.Stores {} [] file (Utf8.encode source.toList) (.ok ()) _ :=
    .written (Host.unusable?_eq_none (by decide +kernel) (by decide +kernel)) hmade
      (Host.unusable?_eq_none (by decide +kernel) (by decide +kernel)) hwrite
  have hready : SourceReady true rememberingStudio.host.files rememberingStudio.host.here file source _ :=
    .inl ⟨rfl, .bytes hbytes hstores⟩
  have hrun : (ExportPlan.storeSource file source).run rememberingStudio.host = (.ok (), _) := hready.run_eq
  obtain ⟨t, hstored, ht⟩ : ∃ t, (Studio.onHost (ExportPlan.storeSource file source)).run rememberingStudio =
      (.ok (), t) ∧ t.renderer ⟨0⟩ = .memory {} := by
    rw [Studio.onHost, Step.run_within, hrun]
    exact ⟨_, rfl, rfl⟩
  obtain ⟨-, -, hsame⟩ := run_eq_drawDirectly e ⟨0⟩ "out" .simple rememberingStudio
  obtain ⟨-, -, hwritten⟩ := hsame "out/S_simpleDiagram.svg" (by decide +kernel)
  obtain ⟨-, hdirect, -, hexported⟩ := hwritten source t hsource hstored
  have hs : rememberingStudio.renderer ⟨0⟩ = .memory {} := rfl
  exact ⟨_, (renderer_eq_of_untold hdirect ⟨0⟩).trans (renderer_draw_memory hs source .svg _),
    (renderer_eq_of_untold hexported ⟨0⟩).trans (renderer_draw_memory ht source .svg _), by decide +kernel⟩

end Exporter

end Landscape
