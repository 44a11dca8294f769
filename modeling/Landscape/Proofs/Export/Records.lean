import Landscape.Proofs.Diagram.Assembly
import Landscape.Proofs.Diagram.Edges
import Landscape.Proofs.Export.AllOrNothing
import Landscape.Proofs.Export.Calls

/-!
# What a renderer remembers

A renderer may remember what it was asked to draw instead of drawing it. What it remembers is the history of the studio
as far as it was concerned: whoever attempts a diagram and comes by its text leaves one record, and whoever does not
leaves none (`Landscape.Studio.Call.record?`). The order of things is what makes this true. The text of a diagram is
there as a whole before anything is stored or drawn, and a renderer remembers a call before it stores anything.

A history (`Landscape.Studio.History`) is made of calls and of exports, in any order and of any kinds of diagrams, and
between them models, files and other renderers change. The result is `Landscape.Studio.records_of_history`.
-/

namespace Landscape

/-! ### Which diagrams have a text -/

/-- **A model has a diagram** of a kind for a system. For a graph, somebody provides the owner of each contract. For a
component diagram, all values can be written and no contract leads outside the system. -/
def Model.Depicts (m : Model) (y : Ref .system) : DiagramKind → Prop
  | .simple => ∀ c ∈ (m.system y).contracts, ∃ p, (m.interface (m.contract c).owner).provider = some p
  | .uml => m.isWritable y = true ∧ ∀ c ∈ (m.system y).contracts, ¬m.LeadsOutside y c

/-- A fault for which a diagram has no text. -/
def DiagramFault.IsOfText (f : DiagramFault) : Prop :=
  (∃ f', f = .configuration f') ∨ ∃ f', f = .validation f'

theorem DiagramFault.not_isOfText_render (f : RenderFault) : ¬(render f).IsOfText := by
  rintro (⟨_, ⟨⟩⟩ | ⟨_, ⟨⟩⟩)

namespace Diagram

variable {m : Model} {y : Ref .system} {d : Diagram} {s : Studio}

/-- A text is there if and only if the model has the diagram. -/
theorem exists_textOf_iff {kind : DiagramKind} : (∃ text, textOf m y kind = .ok text) ↔ m.Depicts y kind := by
  cases kind with
  | simple =>
    simp only [textOf, mapError_eq_ok_iff]
    constructor
    · rintro ⟨text, htext⟩ c hc
      obtain ⟨g, hg, -⟩ := Model.toList_of_dotText htext
      obtain ⟨e, he⟩ := Model.exists_joins_of_graph hg c hc
      exact ⟨e.2, he.2⟩
    · intro h
      obtain ⟨g, hg⟩ := Model.exists_graph (m := m) (s := y) fun c hc => by
        obtain ⟨p, hp⟩ := h c hc
        exact ⟨(_, p), rfl, hp⟩
      exact Model.exists_dotText hg
  | uml =>
    rw [textOf, Model.Depicts]
    cases m.isWritable y with
    | false => simp
    | true =>
      simp only [if_true, mapError_eq_ok_iff, true_and, Model.umlText]
      cases hitems : m.umlItems y with
      | error f =>
        obtain ⟨-, c, hc, hnot⟩ := Model.umlItems_eq_error_iff.mp hitems
        refine iff_of_false ?_ fun hall => hall c hc (Model.leadsOutside_iff.mpr hnot)
        rintro ⟨text, ⟨⟩⟩
      | ok items =>
        refine iff_of_true ⟨_, rfl⟩ fun c hc hout => ?_
        have herror := Model.umlItems_eq_error_iff.mpr ⟨rfl, c, hc, Model.leadsOutside_iff.mp hout⟩
        rw [hitems] at herror
        cases herror

/-- The text of a diagram in a model. -/
def textIn (d : Diagram) (m : Model) : Except Fault String := do
  textOf m (← d.ready.mapError .configuration) d.kind

/-- A text is there if and only if the configuration is enough and the model has the diagram. -/
theorem exists_textIn_iff : (∃ text, d.textIn m = .ok text) ↔ ∃ y, d.ready = .ok y ∧ m.Depicts y d.kind := by
  rw [textIn]
  cases d.ready with
  | error f => exact iff_of_false nofun nofun
  | ok y =>
    refine exists_textOf_iff.trans ⟨fun h => ⟨y, rfl, h⟩, ?_⟩
    rintro ⟨_, ⟨⟩, h⟩
    exact h

/-- Asking for the text of a diagram tells something and changes nothing else. -/
theorem exists_run_source (d : Diagram) (s : Studio) :
    ∃ h, h.world = s.host.world ∧ d.source.run s = (d.textIn s.model, { s with host := h }) := by
  have hstart : ∀ r, d.ready.mapError .configuration = r →
      (Step.of (d.ready.mapError .configuration) : Work (Ref .system)).run s = (r, s) := by
    rintro _ rfl
    rfl
  cases hready : d.ready.mapError Fault.configuration with
  | error f =>
    refine ⟨s.host, rfl, ?_⟩
    rw [textIn, hready]
    exact Step.run_bind_of_error (hstart _ hready) _
  | ok y =>
    rw [textIn, hready, source, Step.run_bind_of_ok (hstart _ hready), Step.run_bind_of_ok (Step.run_get s)]
    cases d.kind with
    | simple =>
      exact ⟨{ s.host with notes := s.host.notes ++ (s.model.dotNotes y).map fun t => ⟨.debug, .simple, t⟩ },
        rfl, rfl⟩
    | uml =>
      exact ⟨{ s.host with notes := s.host.notes ++ (s.model.umlNotes y).map fun t => ⟨.debug, .uml, t⟩ },
        rfl, rfl⟩

/-- What a diagram answers when it is asked for its text. -/
theorem run_source (d : Diagram) (s : Studio) : (d.source.run s).1 = d.textIn s.model := by
  obtain ⟨h, -, hrun⟩ := d.exists_run_source s
  rw [hrun]

/-- A diagram that has a text is drawn in the one format there is. -/
theorem format_of_textIn {text : String} (h : d.textIn m = .ok text) : d.format = .svg := by
  obtain ⟨y, hready, -⟩ := exists_textIn_iff.mp ⟨text, h⟩
  cases d with
  | simple c r =>
    simp only [ready, SimpleConfig.ready] at hready
    split at hready <;> simp_all [format]
  | uml c r =>
    simp only [ready, UmlConfig.ready] at hready
    split at hready
    · cases hready
    · split at hready <;> simp_all [format]

/-- **Drawing a diagram** is asking for its text, and then drawing the text if it is there. -/
theorem exists_run_draw (d : Diagram) (target : String) (s : Studio) :
    ∃ h, h.world = s.host.world ∧ (d.draw target).run s = match d.textIn s.model with
      | .error f => (.error f, { s with host := h })
      | .ok text => (Studio.draw d.renderer text d.format (.ofString target)).run { s with host := h } := by
  cases d with
  | simple c r =>
    have hnote : ∀ text, (Studio.onHost (Host.note .debug .simple text) : Work Unit).run s =
        (.ok (), { s with host := { s.host with notes := s.host.notes ++ [⟨.debug, .simple, text⟩] } }) :=
      fun _ => rfl
    obtain ⟨h, hworld, hsource⟩ := (simple c r).exists_run_source
      { s with host := { s.host with notes := s.host.notes ++ [⟨.debug, .simple,
        "It is heavily recommended to have the 'dot' command from Graphviz installed."⟩] } }
    refine ⟨h, hworld, ?_⟩
    refine (Step.run_bind_of_ok (hnote _) _).trans ?_
    cases htext : (simple c r).textIn s.model with
    | error f => exact Step.run_bind_of_error (hsource.trans (by rw [htext])) _
    | ok text => exact Step.run_bind_of_ok (hsource.trans (by rw [htext])) _
  | uml c r =>
    obtain ⟨h, hworld, hsource⟩ := (uml c r).exists_run_source s
    cases htext : (uml c r).textIn s.model with
    | error f => exact ⟨h, hworld, Step.run_bind_of_error (hsource.trans (by rw [htext])) _⟩
    | ok text =>
      exact ⟨{ h with notes := h.notes ++ [⟨.debug, .uml, s!"Writing PlantUML diagram to {target}..."⟩] }, hworld,
        Step.run_bind_of_ok (hsource.trans (by rw [htext])) _⟩

end Diagram

/-! ### Remembering a call -/

/-- Stores the image that belongs to a text, if there is one. -/
def storeImageOf (image : Except Fault (List UInt8)) (target : FilePath) : Step Fault Host FilePath := do
  storeImage target (← Step.of image)

namespace Memory

variable {m : Memory}

/-- What a renderer remembers after some more calls. -/
def after (m : Memory) (calls : List DrawCall) : Memory :=
  { m with calls := m.calls ++ calls }

@[simp] theorem after_nil : m.after [] = m := by
  rw [after, List.append_nil]

theorem after_append (calls calls' : List DrawCall) : m.after (calls ++ calls') = (m.after calls).after calls' := by
  rw [after, after, after, List.append_assoc]

/-- **A call is remembered**, also if nothing can be stored. On demand the text is stored as if it were its own image. -/
theorem run_draw (m : Memory) (source : String) (format : Choice) (target : FilePath) (h : Host) :
    (draw source format target).run (m, h) =
      Prod.map id (fun h' => (m.after [⟨source, format, target⟩], h'))
        (if m.writesSource then (storeImageOf ((charsIn source).map Utf8.encode) target).run h
          else (.ok target, h)) := by
  generalize hafter : m.after [⟨source, format, target⟩] = m'
  have hstart : (draw source format target).run (m, h) = (if m.writesSource then do
      let bytes ← bytesOf source
      (storeImage target bytes).within Prod.snd fun h s => (s.1, h)
    else return target : Step Fault (Memory × Host) FilePath).run (m', h) := by
    rw [← hafter]
    rfl
  rw [hstart]
  cases m.writesSource with
  | false => rfl
  | true =>
    have hbytes : (bytesOf source).Answers id (m', h) ((charsIn source).map Utf8.encode) (m', h) :=
      Step.answers_bytesOf source
    obtain ⟨_, hrun, rfl⟩ := hbytes.exists_run rfl
    cases hcs : (charsIn source).map Utf8.encode with
    | error f =>
      rw [hcs] at hrun
      rw [if_pos rfl, Step.run_bind_of_error hrun]
      rfl
    | ok bytes =>
      rw [hcs] at hrun
      rw [if_pos rfl, Step.run_bind_of_ok hrun]
      rfl

end Memory

namespace Studio

variable {r : RendererRef} {s t u : Studio} {m m' : Memory} {c : Call}

theorem run_draw_memory (hm : s.renderer r = .memory m) (source : String) (format : Choice) (target : FilePath) :
    (draw r source format target).run s = Prod.map id (fun x => s.putRenderer r (.memory x.1) x.2)
      ((Memory.draw source format target).run (m, s.host)) := by
  rw [draw, Step.run_within, hm, Renderer.draw, Step.run_bind_of_ok (Step.run_get _), Step.run_within]
  rfl

/-- A renderer that remembers, remembers what it is asked to draw. -/
theorem renderer_draw_memory (hm : s.renderer r = .memory m) (source : String) (format : Choice) (target : FilePath) :
    ((draw r source format target).run s).2.renderer r = .memory (m.after [⟨source, format, target⟩]) := by
  rw [run_draw_memory hm, Memory.run_draw]
  exact renderer_putRenderer_of_ne_usual (by rw [hm]; exact nofun) _ _

/-! ### Attempts -/

/-- The diagram that is drawn on a call, if it is one for a diagram. -/
def Call.diagram? : Call → Option Diagram
  | .svg .. => none
  | .draw .. => none
  | .visualize d _ => some d
  | .exportOne e y _ _ kind => some (e.diagram y kind)

/-- **The record of a call**, if it is to leave one: the text that the diagram gives at that moment, the format, and
where the image goes. If the text is wanted beside the image, there is a record only if it could be stored there. -/
def Call.record? : Call → Studio → Option DrawCall
  | .svg .., _ => none
  | .draw _ source format target, _ => some ⟨source, format, target⟩
  | .visualize d target, s => (d.source.run s).1.toOption.map fun text => ⟨text, d.format, .ofString target⟩
  | .exportOne e y directory writeSource kind, s =>
    let name := (s.model.system y).name
    let stored := fun text => (ExportPlan.storeSource (ExportPlan.sourceTarget directory name kind) text).run s.host
    (((e.diagram y kind).source.run s).1.toOption.filter fun text => !writeSource || (stored text).1.isOk).map
      fun text => ⟨text, .svg, ExportPlan.target directory name kind⟩

/-- The fault of a diagram with which something fails. -/
def diagramFault? {α : Type} : Except Fault α → Option DiagramFault
  | .error (.diagram f) => some f
  | _ => none

theorem diagramFault?_eq_some {α : Type} {o : Except Fault α} {f : DiagramFault} :
    diagramFault? o = some f ↔ o = .error (.diagram f) := by
  rcases o with (_ | _) | _ <;> simp [diagramFault?]

/-- The fault of a diagram in which a call ends, raised or recorded. -/
def Call.fault? : Call → Studio → Option DiagramFault
  | .svg r text, s => diagramFault? ((drawSvg r text).run s).1
  | .draw r source format target, s => diagramFault? ((Studio.draw r source format target).run s).1
  | .visualize d target, s => diagramFault? ((d.draw target).run s).1
  | .exportOne e y directory writeSource kind, s =>
    match (((e.plan y).exportOne directory writeSource kind).run s).1 with
    | .ok r => r.fault
    | .error _ => none

/-- What is left after something whose answer is not needed. -/
theorem snd_run_bind_pure {α β : Type} (act : Work α) (b : β) (s : Studio) :
    ((act >>= fun _ => pure b : Work β).run s).2 = (act.run s).2 := by
  rcases hrun : act.run s with ⟨f | a, t⟩
  · rw [Step.run_bind_of_error hrun]
  · rw [Step.run_bind_of_ok hrun]
    rfl

/-- A record holds the fault with which an attempt ended. -/
theorem eq_of_record {x x' : ExportResult} {o : Except Fault Unit} (hx : x.fault = none)
    (hrecord : x.record o = .ok x') : x' = { x with fault := diagramFault? o } := by
  rcases o with f | _
  · cases f <;> cases hrecord
    rfl
  · cases hrecord
    rw [show diagramFault? (.ok () : Except Fault Unit) = none from rfl, ← hx]

/-- What is done on a call for a diagram without a text: something is told. -/
theorem Call.exists_run_of_noText {d : Diagram} {f : Fault} (hd : c.diagram? = some d)
    (htext : (d.source.run s).1 = .error f) : ∃ h, h.world = s.host.world ∧ (c.work.run s).2 = { s with host := h } ∧
      c.record? s = none ∧ c.fault? s = diagramFault? (.error f : Except Fault Unit) := by
  cases c with
  | svg => cases hd
  | draw => cases hd
  | visualize d target =>
    cases hd
    have hnone : d.textIn s.model = .error f := (d.run_source s).symm.trans htext
    obtain ⟨h, hworld, hrun⟩ := d.exists_run_draw target s
    rw [hnone] at hrun
    refine ⟨h, hworld, ?_, by rw [record?, htext]; rfl, ?_⟩
    · rw [work, snd_run_bind_pure, hrun]
    · rw [fault?, hrun]
      cases f <;> rfl
  | exportOne e y directory writeSource kind =>
    cases hd
    obtain ⟨h, hworld, hrun⟩ := (e.diagram y kind).exists_run_source s
    rw [← Diagram.run_source, htext] at hrun
    have hone : ((e.plan y).exportOne directory writeSource kind).run s = (ExportResult.record
        { kind, target := ExportPlan.target directory (s.model.system y).name kind } (.error f), { s with host := h }) :=
      Exporter.run_exportOne_of_noText hrun
    refine ⟨h, hworld, ?_, by rw [record?, htext]; rfl, ?_⟩
    · rw [work, snd_run_bind_pure, hone]
    · rw [fault?, hone]
      cases f <;> rfl

/-- Whether the text beside the image can be stored depends on the world alone. -/
theorem fst_storeSource_of_world {h h' : Host} (hworld : h.world = h'.world) (p : FilePath) (text : String) :
    ((ExportPlan.storeSource p text).run h).1 = ((ExportPlan.storeSource p text).run h').1 := by
  obtain ⟨o, fs, hstores, hrun⟩ := exists_sourceStores h p text
  obtain ⟨o', fs', hstores', hrun'⟩ := exists_sourceStores h' p text
  rw [Host.files_eq_of_world hworld, Host.here_eq_of_world hworld] at hstores
  rw [hrun, hrun']
  exact (hstores.unique hstores').1

/-- What is left of a step that is recorded. -/
theorem snd_run_recording (x : ExportResult) (act : Work ExportResult) (s : Studio) :
    ((ExportPlan.recording x act).run s).2 = (act.run s).2 := by
  rw [ExportPlan.recording, Step.run_bind_of_ok (Step.run_attempt _ _)]
  split <;> rfl

/-- A renderer that remembers, remembers what it is to draw for an export, unless the text is wanted beside the image and
cannot be stored. -/
theorem renderer_finish_memory {e : Exporter} {y : Ref .system} {kind : DiagramKind}
    (hm : s.renderer (e.diagram y kind).renderer = .memory m) (name : String) (directory : FilePath)
    (writeSource : Bool) (target : FilePath) (text : String) :
    (((e.plan y).finish name directory writeSource { kind, target } text).run s).2.renderer
        (e.diagram y kind).renderer = .memory (m.after
      (if !writeSource || ((ExportPlan.storeSource (ExportPlan.sourceTarget directory name kind) text).run
        s.host).1.isOk then [⟨text, .svg, target⟩] else [])) := by
  have hdraw : ∀ u : Studio, u.renderer (e.diagram y kind).renderer = .memory m → ∀ x : ExportResult,
      (((e.plan y).draw kind text target >>= fun _ => pure x).run u).2.renderer (e.diagram y kind).renderer =
        .memory (m.after [⟨text, .svg, target⟩]) := by
    intro u hu x
    have hformat : (e.diagram y kind).format = .svg := by cases kind <;> rfl
    rw [snd_run_bind_pure, ← hformat]
    exact renderer_draw_memory hu text _ target
  rw [ExportPlan.finish, snd_run_recording]
  cases writeSource with
  | false => exact hdraw s hm _
  | true =>
    obtain ⟨o, fs, -, hrun⟩ := exists_sourceStores s.host (ExportPlan.sourceTarget directory name kind) text
    have hstore : ((e.plan y).onHost (ExportPlan.storeSource (ExportPlan.sourceTarget directory name kind) text)).run
        s = (o, { s with host := { s.host with files := fs } }) := by
      show (Studio.onHost _).run _ = _
      rw [Studio.onHost, Step.run_within, hrun]
    rw [hrun]
    rcases o with f | _
    · refine (congrArg (fun x : _ × Studio => x.2.renderer _) (Step.run_bind_of_error hstore _)).trans ?_
      show s.renderer _ = .memory (m.after [])
      rw [Memory.after_nil]
      exact hm
    · refine (congrArg (fun x : _ × Studio => x.2.renderer _) (Step.run_bind_of_ok hstore _)).trans ?_
      exact hdraw { s with host := { s.host with files := fs } } hm _

/-- **A call on a renderer that remembers** leaves its record there, and nothing if it is to leave none. -/
theorem Call.renderer_work_self (hm : s.renderer c.renderer = .memory m) :
    (c.work.run s).2.renderer c.renderer = .memory (m.after (c.record? s).toList) := by
  cases c with
  | svg r text =>
    have hm' : s.renderer r = .memory m := hm
    rw [work, snd_run_bind_pure, drawSvg, Step.run_bind_of_ok (Step.run_get s), hm', record?, Option.toList_none,
      Memory.after_nil]
    exact hm
  | draw r source format target =>
    rw [work, snd_run_bind_pure]
    exact renderer_draw_memory hm _ _ _
  | visualize d target =>
    cases htext : (d.source.run s).1 with
    | error f =>
      obtain ⟨h, -, hleft, hnone, -⟩ := Call.exists_run_of_noText (c := .visualize d target) rfl htext
      rw [hleft, hnone, Option.toList_none, Memory.after_nil]
      exact hm
    | ok text =>
      obtain ⟨h, -, hrun⟩ := d.exists_run_draw target s
      rw [← d.run_source, htext] at hrun
      rw [work, snd_run_bind_pure, hrun, record?, htext]
      exact renderer_draw_memory (s := { s with host := h }) hm _ _ _
  | exportOne e y directory writeSource kind =>
    cases htext : ((e.diagram y kind).source.run s).1 with
    | error f =>
      obtain ⟨h, -, hleft, hnone, -⟩ :=
        Call.exists_run_of_noText (c := .exportOne e y directory writeSource kind) rfl htext
      rw [hleft, hnone, Option.toList_none, Memory.after_nil]
      exact hm
    | ok text =>
      obtain ⟨h, hworld, hrun⟩ := (e.diagram y kind).exists_run_source s
      rw [← Diagram.run_source, htext] at hrun
      have hleft := renderer_finish_memory (s := { s with host := h }) hm (s.model.system y).name directory writeSource
        (ExportPlan.target directory (s.model.system y).name kind) text
      rw [work, snd_run_bind_pure, Exporter.run_exportOne_of_text hrun]
      refine hleft.trans ?_
      rw [fst_storeSource_of_world hworld, record?, htext]
      dsimp only [Except.toOption]
      rw [Option.filter_some]
      split <;> rfl

/-! ### How attempts end -/


/-- An outcome that is **none of a text**: it does not fail for want of a text. -/
def NoneOfText {α : Type} (o : Except Fault α) : Prop :=
  ∀ f, o = .error (.diagram f) → ¬f.IsOfText

theorem noneOfText_ok {α : Type} (a : α) : NoneOfText (.ok a) :=
  nofun

theorem noneOfText_access {α : Type} (f : AccessFault) : NoneOfText (.error (.access f) : Except Fault α) :=
  nofun

theorem noneOfText_storing {α : Type} (refused : FileFault → RenderFault) (o : Except AccessFault α) :
    NoneOfText (o.mapError (storingFault refused)) := by
  rcases o with f | a
  · cases f
    case file f =>
      rintro _ ⟨⟩
      exact DiagramFault.not_isOfText_render _
    all_goals exact noneOfText_access _
  · exact noneOfText_ok a

theorem NoneOfText.map {α β : Type} {o : Except Fault α} (h : NoneOfText o) (g : α → β) : NoneOfText (o.map g) := by
  rcases o with f | a
  · intro f' hf'
    exact h f' (congrArg _ (Except.error.inj hf'))
  · exact noneOfText_ok _

theorem noneOfText_of_sourceStores {files fs : FileSystem} {place : List String} {p : FilePath} {text : String}
    {o : Except Fault Unit} (h : SourceStores files place p text o fs) : NoneOfText o := by
  rcases h with - | - | -
  · exact noneOfText_storing _ _
  · exact noneOfText_storing _ (.error _)
  · exact noneOfText_access _

/-- A renderer that remembers does not fail for want of a text. -/
theorem noneOfText_of_draws {w left : Host} {text : String} {target : FilePath} {o : Except Fault FilePath}
    (h : (Renderer.memory m).Draws w text target o left) : NoneOfText o := by
  rcases h with himage | - | -
  · -- there is no image only if the text cannot be sent
    rw [Renderer.imageIn] at himage
    split at himage
    · rw [charsIn] at himage
      cases hplain : Utf8.plain? text.toList with
      | error f =>
        rw [hplain] at himage
        cases himage
        exact noneOfText_access _
      | ok cs =>
        rw [hplain] at himage
        cases himage
    · cases himage
  · exact noneOfText_ok _
  · exact (noneOfText_storing _ _).map _

/-- An attempt that has its text does not fail for want of one. -/
theorem noneOfText_of_attempts {e : Exporter} {y : Ref .system} {kind : DiagramKind} {directory : FilePath}
    {writeSource : Bool} {x : ExportResult} {o : Except Fault Unit} {w : Host} {text : String}
    (hm : s.renderer (e.diagram y kind).renderer = .memory m) (htext : Diagram.textOf s.model y kind = .ok text)
    (h : Exporter.Attempts e y directory writeSource s kind x o w) : NoneOfText o := by
  rcases h with hnone | ⟨-, -, hsource⟩ | ⟨-, -, hdraws⟩
  · rw [htext] at hnone
    cases hnone
  · exact noneOfText_of_sourceStores hsource
  · rw [hm] at hdraws
    exact (noneOfText_of_draws hdraws).map _

/-- **A call for a diagram that has a text** does not end for want of one. -/
theorem Call.not_isOfText_of_text {d : Diagram} {text : String} {f : DiagramFault}
    (hm : s.renderer c.renderer = .memory m) (hd : c.diagram? = some d) (htext : (d.source.run s).1 = .ok text)
    (hf : c.fault? s = some f) : ¬f.IsOfText := by
  cases c with
  | svg => cases hd
  | draw => cases hd
  | visualize d target =>
    cases hd
    obtain ⟨h, -, hrun⟩ := d.exists_run_draw target s
    rw [← d.run_source, htext, d.format_of_textIn ((d.run_source s).symm.trans htext)] at hrun
    obtain ⟨o, w, hdraws, hmemory⟩ := Renderer.exists_draws_memory m h text (.ofString target)
    have hdraw : ((d.draw target).run s).1 = o := by
      rw [hrun]
      dsimp only
      rw [run_draw_memory (r := d.renderer) (s := { s with host := h }) hm, hmemory]
      rfl
    rw [fault?, hdraw, diagramFault?_eq_some] at hf
    exact noneOfText_of_draws hdraws f hf
  | exportOne e y directory writeSource kind =>
    cases hd
    obtain ⟨x, o, t, hends, -, hrun⟩ := Exporter.exists_attempts e y directory writeSource s kind
    have htextOf : Diagram.textOf s.model y kind = .ok text := by
      rw [← htext, Diagram.run_source]
      cases kind <;> rfl
    rw [fault?, hrun] at hf
    cases hrecord : x.record o with
    | error f' =>
      rw [hrecord] at hf
      cases hf
    | ok x' =>
      rw [hrecord] at hf
      obtain ⟨-, -, hnone⟩ := hends.files_eq
      have hfault : diagramFault? o = some f := by
        rw [← hf, eq_of_record hnone hrecord]
      exact noneOfText_of_attempts hm htextOf hends f (diagramFault?_eq_some.mp hfault)

/-- **Attempts that end for want of a text** are those for diagrams that have none. They leave all renderers and all files
as they were. -/
theorem Call.spec_of_diagram {d : Diagram} (hm : s.renderer c.renderer = .memory m) (hd : c.diagram? = some d) :
    ((∃ text, (d.source.run s).1 = .ok text) ↔ ∃ y, d.ready = .ok y ∧ s.model.Depicts y d.kind) ∧
      ∀ f, f.IsOfText → (c.fault? s = some f ↔ (d.source.run s).1 = .error (.diagram f)) ∧
        (c.fault? s = some f → c.record? s = none ∧ (c.work.run s).2.renderers = s.renderers ∧
          (c.work.run s).2.host.files = s.host.files) := by
  refine ⟨by rw [d.run_source]; exact Diagram.exists_textIn_iff, fun f hf => ?_⟩
  rcases htext : (d.source.run s).1 with f' | text
  · obtain ⟨h, hworld, hleft, hnone, hfault⟩ := Call.exists_run_of_noText hd htext
    rw [hleft]
    refine ⟨?_, fun _ => ⟨hnone, rfl, Host.files_eq_of_world hworld⟩⟩
    rw [hfault, diagramFault?_eq_some]
    exact ⟨fun h => congrArg _ (Except.error.inj h), fun h => congrArg _ (Except.error.inj h)⟩
  · have hnot : c.fault? s ≠ some f := fun h => Call.not_isOfText_of_text hm hd htext h hf
    exact ⟨iff_of_false hnot nofun, fun h => absurd h hnot⟩

/-! ### Orders -/

/-- The attempts of a batch, each with the studio in which it was made. After one that leaves no result there are none. -/
def attemptsOf (e : Exporter) (y : Ref .system) (directory : FilePath) (writeSource : Bool) :
    List DiagramKind → Studio → List (Call × Studio)
  | [], _ => []
  | kind :: kinds, s =>
    (.exportOne e y directory writeSource kind, s) ::
      match ((e.plan y).exportOne directory writeSource kind).run s with
      | (.ok x, t) => attemptsOf e y directory writeSource kinds (Exporter.noted y x t)
      | (.error _, _) => []

/-- What is ordered from a studio: one call, or the export of some kinds of diagrams. -/
inductive Order where
  | call (c : Call)
  | batch (e : Exporter) (y : Ref .system) (directory : FilePath) (kinds : List Value) (writeSource : Bool)

/-- What is done on an order. -/
def Order.work : Order → Work Unit
  | .call c => c.work
  | .batch e y directory kinds writeSource => do let _ ← e.run y directory kinds writeSource

/-- **The attempts of an order**: the call itself, or one for each kind of diagram that is exported. -/
def Order.attempts : Order → Studio → List (Call × Studio)
  | .call c, s => [(c, s)]
  | .batch e y directory vs writeSource, s =>
    match ExportPlan.kindsOf vs with
    | .ok kinds => attemptsOf e y directory writeSource kinds s
    | .error _ => []

/-- The records that some attempts are to leave with a renderer. -/
def recordsOn (r : RendererRef) (attempts : List (Call × Studio)) : List DrawCall :=
  attempts.flatMap fun x => if x.1.renderer = r then (x.1.record? x.2).toList else []

/-- **A renderer remembers some attempts**: it was there in each of them, and in the end it holds their records, after
what it held before. -/
structure Remembers (r : RendererRef) (m : Memory) (attempts : List (Call × Studio)) (t : Studio) : Prop where
  left : t.renderer r = .memory (m.after (recordsOn r attempts))
  during : ∀ x ∈ attempts, ∃ m', x.2.renderer r = .memory m'

namespace Remembers

variable {attempts attempts' : List (Call × Studio)}

theorem nil (hm : s.renderer r = .memory m) : Remembers r m [] s :=
  ⟨by rw [recordsOn, List.flatMap_nil, Memory.after_nil, hm], by simp⟩

/-- **Some attempts after others.** -/
theorem append (h : Remembers r m attempts t) (h' : Remembers r (m.after (recordsOn r attempts)) attempts' u) :
    Remembers r m (attempts ++ attempts') u := by
  refine ⟨?_, fun x hx => ?_⟩
  · rw [h'.left, recordsOn, recordsOn, recordsOn, List.flatMap_append, Memory.after_append]
  · rcases List.mem_append.mp hx with hx | hx
    · exact h.during x hx
    · exact h'.during x hx

/-- What happens to anything but renderers does not matter. -/
theorem of_eq (h : Remembers r m attempts t) (hsame : u.renderer r = t.renderer r) : Remembers r m attempts u :=
  ⟨hsame.trans h.left, h.during⟩

end Remembers

/-- **One call** leaves its record with the renderer that is called, and leaves the others alone. -/
theorem Call.remembers (hm : s.renderer r = .memory m) (c : Call) : Remembers r m [(c, s)] (c.work.run s).2 := by
  refine ⟨?_, ?_⟩
  · rw [recordsOn, List.flatMap_singleton]
    by_cases hr : c.renderer = r
    · subst hr
      rw [if_pos rfl, Call.renderer_work_self hm]
    · rw [if_neg hr, Memory.after_nil, ← hm]
      exact Call.keeps_work (frames_sameRenderer hr) s
  · intro x hx
    cases List.mem_singleton.mp hx
    exact ⟨m, hm⟩

/-- **A batch** leaves the records of its attempts. -/
theorem remembers_exportAll (hm : s.renderer r = .memory m) (e : Exporter) (y : Ref .system) (directory : FilePath)
    (writeSource : Bool) (kinds : List DiagramKind) :
    Remembers r m (attemptsOf e y directory writeSource kinds s)
      (((e.plan y).exportAll directory writeSource kinds).run s).2 := by
  induction kinds generalizing s m with
  | nil => exact .nil hm
  | cons kind kinds ih =>
    have hone := Call.remembers hm (.exportOne e y directory writeSource kind)
    rw [Call.work, snd_run_bind_pure] at hone
    rw [attemptsOf]
    rcases hrun : ((e.plan y).exportOne directory writeSource kind).run s with ⟨f | x, t⟩
    · rw [hrun] at hone
      rw [Exporter.run_exportAll_of_error hrun]
      exact hone
    · rw [hrun] at hone
      rw [Exporter.run_exportAll_of_ok hrun]
      exact hone.append (ih (s := Exporter.noted y x t) hone.left)

theorem Order.remembers (hm : s.renderer r = .memory m) (o : Order) :
    Remembers r m (o.attempts s) (o.work.run s).2 := by
  cases o with
  | call c => exact c.remembers hm
  | batch e y directory vs writeSource =>
    rw [work, snd_run_bind_pure, attempts]
    cases hkinds : ExportPlan.kindsOf vs with
    | error f =>
      rw [Exporter.run_of_unknown hkinds]
      exact .nil hm
    | ok kinds =>
      rw [Exporter.run_of_kindsOf hkinds]
      exact remembers_exportAll hm e y directory writeSource kinds

/-- If a batch answers its results, each kind was attempted. -/
theorem map_attemptsOf {e : Exporter} {y : Ref .system} {directory : FilePath} {writeSource : Bool}
    {kinds : List DiagramKind} {rs : List ExportResult}
    (h : Exporter.Exports e y directory writeSource s kinds rs t) :
    (attemptsOf e y directory writeSource kinds s).map Prod.fst = kinds.map (.exportOne e y directory writeSource) := by
  induction h with
  | nil s => rfl
  | cons _ _ hrun _ ih => rw [attemptsOf, hrun, List.map_cons, ih, List.map_cons]

/-- If an export answers its results, each kind that it was asked for was attempted. -/
theorem Order.map_attempts {e : Exporter} {y : Ref .system} {directory : FilePath} {vs : List Value}
    {writeSource : Bool} {rs : List ExportResult} (h : ((e.run y directory vs writeSource).run s).1 = .ok rs) :
    ∃ kinds, ExportPlan.kindsOf vs = .ok kinds ∧ ((batch e y directory vs writeSource).attempts s).map Prod.fst =
      kinds.map (.exportOne e y directory writeSource) := by
  rw [attempts]
  cases hkinds : ExportPlan.kindsOf vs with
  | error f =>
    rw [Exporter.run_of_unknown hkinds] at h
    cases h
  | ok kinds =>
    rw [Exporter.run_of_kindsOf hkinds] at h
    exact ⟨kinds, rfl, map_attemptsOf (Exporter.run_exportAll_iff.mp (Prod.ext h rfl))⟩

/-! ### Histories -/

/-- **A history of a studio**, with the attempts that were made in it. Between the orders anything may happen that leaves
alone the renderers that remember. -/
inductive History : Studio → List (Call × Studio) → Studio → Prop
  | nil (s : Studio) : History s [] s
  | aside {s t u : Studio} {attempts : List (Call × Studio)}
    (hkeeps : ∀ r m, s.renderer r = .memory m → t.renderer r = .memory m) (hrest : History t attempts u) :
    History s attempts u
  | order {s u : Studio} {attempts : List (Call × Studio)} (o : Order) (hrest : History (o.work.run s).2 attempts u) :
    History s (o.attempts s ++ attempts) u

/-- **A renderer remembers a whole history.** -/
theorem History.remembers {attempts : List (Call × Studio)} (h : History s attempts t)
    (hm : s.renderer r = .memory m) : Remembers r m attempts t := by
  induction h generalizing m with
  | nil s => exact .nil hm
  | aside hkeeps _ ih => exact ih (hkeeps r m hm)
  | order o _ ih =>
    have horder := o.remembers hm
    exact horder.append (ih horder.left)

/-- **What a renderer remembers.** At any moment of a history, a renderer holds what it held at the start and then a record
for each attempt that was made on it until then and is to leave one; what comes later is put after that. Whether a diagram
has a text that could be recorded is a matter of its configuration and of the model. An attempt ends for want of a text if
and only if the diagram has none for a fault of this kind, and then it leaves no record, and all renderers and files as
they were. And an export that answers its results has made one attempt for each kind that it was asked for. -/
theorem records_of_history {earlier later : List (Call × Studio)} (hm : s.renderer r = .memory m)
    (hearlier : History s earlier t) (hlater : History t later u) :
    t.renderer r = .memory { m with calls := m.calls ++ recordsOn r earlier } ∧
    u.renderer r = .memory { m with calls := m.calls ++ recordsOn r earlier ++ recordsOn r later } ∧
    (∀ c v, (c, v) ∈ earlier ++ later → c.renderer = r → ∀ d, c.diagram? = some d →
      ((∃ text, (d.source.run v).1 = .ok text) ↔ ∃ y, d.ready = .ok y ∧ v.model.Depicts y d.kind) ∧
      ∀ f, f.IsOfText → (c.fault? v = some f ↔ (d.source.run v).1 = .error (.diagram f)) ∧
        (c.fault? v = some f → c.record? v = none ∧ (c.work.run v).2.renderers = v.renderers ∧
          (c.work.run v).2.host.files = v.host.files)) ∧
    ∀ (e : Exporter) (y : Ref .system) (directory : FilePath) (vs : List Value) (writeSource : Bool) (v : Studio)
      (rs : List ExportResult), ((e.run y directory vs writeSource).run v).1 = .ok rs →
        ∃ kinds, ExportPlan.kindsOf vs = .ok kinds ∧
          ((Order.batch e y directory vs writeSource).attempts v).map Prod.fst =
            kinds.map (.exportOne e y directory writeSource) := by
  have hfirst := hearlier.remembers hm
  have hsecond := hlater.remembers hfirst.left
  refine ⟨hfirst.left, hsecond.left, ?_, fun e y directory vs writeSource v rs h => Order.map_attempts h⟩
  rintro c v hmem rfl d hd
  obtain ⟨m', hm'⟩ := (hfirst.append hsecond).during _ hmem
  exact Call.spec_of_diagram hm' hd

/-- A studio with one renderer, which remembers, and with an empty system. -/
def rememberingStudio : Studio where
  model := { systems := ⟨[{ name := "S" }]⟩ }
  renderers := ⟨[.memory {}]⟩

/-- In this studio a diagram is drawn that nobody has told what to show, and then, after the system got another name, both
kinds of diagrams are exported: the two leave a record each. -/
theorem records_of_history_rememberingStudio :
    let nothing : Order := .call (.visualize (.simple {} ⟨0⟩) "a.svg")
    let t := (nothing.work.run rememberingStudio).2
    let renamed := { t with model := { systems := ⟨[{ name := "T" }]⟩ } }
    let both : Order := .batch ⟨⟨0⟩, ⟨0⟩⟩ ⟨0⟩ { parts := ["out"] } [.text "uml", .text "simple"] false
    t.renderer ⟨0⟩ = .memory {} ∧ ∃ calls, (both.work.run renamed).2.renderer ⟨0⟩ = .memory { calls } ∧
      calls.map (fun x => (x.source, x.target.parts)) =
        [("@startuml\nallow_mixing\n@enduml\n", ["out", "T_umlDiagram.svg"]),
          ("strict digraph G \x7b\n\x7d\n", ["out", "T_simpleDiagram.svg"])] := by
  intro nothing t renamed both
  have hm : rememberingStudio.renderer ⟨0⟩ = .memory {} := rfl
  have hearlier : History rememberingStudio (nothing.attempts rememberingStudio ++ []) t := .order nothing (.nil t)
  have hlater : History t (both.attempts renamed ++ []) (both.work.run renamed).2 :=
    .aside (t := renamed) (fun r m h => h) (.order both (.nil _))
  obtain ⟨ht, hu, -⟩ := records_of_history hm hearlier hlater
  have hnone : recordsOn ⟨0⟩ (nothing.attempts rememberingStudio ++ []) = [] := rfl
  rw [hnone] at ht hu
  exact ⟨ht, _, hu, by decide +kernel⟩

end Studio

end Landscape
