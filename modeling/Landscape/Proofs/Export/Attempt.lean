import Landscape.Export
import Landscape.Proofs.Render.Outcome

/-!
# One diagram of an export

Exporting one kind of diagram is an attempt in three stages: its text, the file beside the image if one is wanted, and
the drawing. The attempt ends at the first stage that fails (`Landscape.Exporter.Attempts`). What is then answered is a
record of the attempt (`Landscape.ExportResult.record`): a fault of a diagram becomes a part of it, and any other fault
takes its place.
-/

namespace Landscape

/-! ### The file beside the image -/

/-- **How storing the text of a diagram ends**, and the files it leaves. For a text without bytes an empty file is
made. -/
inductive SourceStores (files : FileSystem) (place : List String) (p : FilePath) (text : String) :
    Except Fault Unit → FileSystem → Prop
  /-- The bytes of the text are stored, or cannot be stored. -/
  | bytes {bytes : List UInt8} {r : Except AccessFault Unit} {fs : FileSystem}
    (hbytes : Utf8.encode? text.toList = .ok bytes) (hstores : Host.Stores files place p bytes r fs) :
    SourceStores files place p text (r.mapError (storingFault (.sourceUnwritable p))) fs
  /-- The text has no bytes, and not even an empty file can be made. -/
  | refused {f : Utf8.HalfFault} {f' : AccessFault} {fs : FileSystem}
    (hbytes : Utf8.encode? text.toList = .error f) (hstores : Host.Stores files place p [] (.error f') fs) :
    SourceStores files place p text (.error (storingFault (.sourceUnwritable p) f')) fs
  /-- The text has no bytes. -/
  | halves {f : Utf8.HalfFault} {fs : FileSystem} (hbytes : Utf8.encode? text.toList = .error f)
    (hstores : Host.Stores files place p [] (.ok ()) fs) :
    SourceStores files place p text (.error (.access (.unencodable f))) fs

/-- There is one way in which storing a text ends. -/
theorem SourceStores.unique {files fs fs' : FileSystem} {place : List String} {p : FilePath} {text : String}
    {o o' : Except Fault Unit} (h : SourceStores files place p text o fs)
    (h' : SourceStores files place p text o' fs') : o = o' ∧ fs = fs' := by
  cases h with
  | bytes hbytes hstores =>
    cases h' with
    | bytes hbytes' hstores' =>
      rw [hbytes] at hbytes'
      cases hbytes'
      obtain ⟨rfl, rfl⟩ := hstores.unique hstores'
      exact ⟨rfl, rfl⟩
    | refused hbytes' => simp [hbytes] at hbytes'
    | halves hbytes' => simp [hbytes] at hbytes'
  | refused hbytes hstores =>
    cases h' with
    | bytes hbytes' => simp [hbytes] at hbytes'
    | refused hbytes' hstores' =>
      obtain ⟨hr, rfl⟩ := hstores.unique hstores'
      cases hr
      exact ⟨rfl, rfl⟩
    | halves hbytes' hstores' => simpa using (hstores.unique hstores').1
  | halves hbytes hstores =>
    cases h' with
    | bytes hbytes' => simp [hbytes] at hbytes'
    | refused hbytes' hstores' => simpa using (hstores.unique hstores').1
    | halves hbytes' hstores' =>
      rw [hbytes] at hbytes'
      cases hbytes'
      exact ⟨rfl, (hstores.unique hstores').2⟩

theorem exists_sourceStores (h : Host) (p : FilePath) (text : String) :
    ∃ r fs, SourceStores h.files h.here p text r fs ∧
      (ExportPlan.storeSource p text).run h = (r, { h with files := fs }) := by
  cases hbytes : Utf8.encode? text.toList with
  | ok bytes =>
    obtain ⟨r, fs, hstores, hrun⟩ := Host.exists_stores h p bytes
    refine ⟨_, fs, .bytes hbytes hstores, ?_⟩
    rw [ExportPlan.storeSource, Step.run_blame, Host.storeText, hbytes]
    dsimp only
    rw [hrun]
    cases r with
    | ok u => rfl
    | error f => cases f <;> rfl
  | error f =>
    obtain ⟨r, fs, hstores, hrun⟩ := Host.exists_stores h p []
    cases r with
    | error f' =>
      refine ⟨_, fs, .refused hbytes hstores, ?_⟩
      rw [ExportPlan.storeSource, Step.run_blame, Host.storeText, hbytes]
      dsimp only
      rw [Step.run_bind_of_error hrun]
      cases f' <;> rfl
    | ok u =>
      refine ⟨_, fs, .halves hbytes hstores, ?_⟩
      rw [ExportPlan.storeSource, Step.run_blame, Host.storeText, hbytes]
      dsimp only
      rw [Step.run_bind_of_ok hrun]
      rfl

/-- The text beside the image is there, if it is wanted. -/
def SourceReady (writeSource : Bool) (files : FileSystem) (place : List String) (p : FilePath)
    (text : String) (fs : FileSystem) : Prop :=
  writeSource = true ∧ SourceStores files place p text (.ok ()) fs ∨ writeSource = false ∧ fs = files

/-- There is one way to have the text ready. -/
theorem SourceReady.unique {writeSource : Bool} {files fs fs' : FileSystem} {place : List String}
    {p : FilePath} {text : String} (h : SourceReady writeSource files place p text fs)
    (h' : SourceReady writeSource files place p text fs') : fs = fs' := by
  obtain ⟨hwrite, hsource⟩ | ⟨hwrite, rfl⟩ := h
  · obtain ⟨-, hsource'⟩ | ⟨hwrite', -⟩ := h'
    · exact (hsource.unique hsource').2
    · simp [hwrite] at hwrite'
  · obtain ⟨hwrite', -⟩ | ⟨-, rfl⟩ := h'
    · simp [hwrite] at hwrite'
    · rfl

/-! ### Records -/

/-- What is answered after an attempt: its record, with the fault of the diagram if there is one, or another fault
instead. -/
def ExportResult.record (r : ExportResult) : Except Fault Unit → Except Fault ExportResult
  | .ok () => .ok r
  | .error (.diagram f) => .ok { r with fault := some f }
  | .error f => .error f

theorem ExportResult.aborts_record {r : ExportResult} {o : Except Fault Unit} :
    Aborts (r.record o) ↔ Aborts o := by
  cases o with
  | ok u => simp [record]
  | error f => cases f <;> simp [record, Fault.isDiagram]

/-- No fault of a diagram takes the place of a record. -/
theorem ExportResult.isDiagram_of_record {r : ExportResult} {o : Except Fault Unit} {f : Fault}
    (h : r.record o = .error f) : f.isDiagram = false := by
  rcases o with f' | u
  · cases f' <;> cases h <;> rfl
  · cases h

/-- A record keeps its kind. -/
theorem ExportResult.kind_of_record {r r' : ExportResult} {o : Except Fault Unit} (h : r.record o = .ok r') :
    r'.kind = r.kind := by
  rcases o with f | u
  · cases f <;> cases h
    rfl
  · cases h
    rfl

namespace ExportPlan

variable {σ : Type}

/-- A step that is recorded answers the record of how it ends. -/
theorem run_recording {r : ExportResult} {act : Step Fault σ ExportResult} {o : Except Fault Unit} {s t : σ}
    (h : act.run s = (o.map fun _ => r, t)) : (recording r act).run s = (r.record o, t) := by
  refine (Step.run_bind_of_ok (Step.run_attempt _ s) _).trans ?_
  rw [h]
  cases o with
  | ok u => rfl
  | error f => cases f <;> rfl

variable {p : ExportPlan σ} {name : String} {directory : FilePath} {writeSource : Bool} {kind : DiagramKind} {s t : σ}

/-- Without a text, an attempt by some plan answers the record of its fault. -/
theorem run_exportOne_of_noText {f : Fault} (hname : p.name.run s = (.ok name, s))
    (htext : (p.text kind).run s = (.error f, t)) : (p.exportOne directory writeSource kind).run s =
      (ExportResult.record { kind, target := target directory name kind } (.error f), t) := by
  have hattempt : ((p.text kind).attempt : Step Fault σ _).run s = (.ok (.error f), t) := by
    rw [Step.run_attempt, htext]
  refine (Step.run_bind_of_ok hname _).trans ((Step.run_bind_of_ok hattempt _).trans ?_)
  cases f <;> rfl

/-- With its text, an attempt by some plan goes on to store and to draw it. -/
theorem run_exportOne_of_text {text : String} (hname : p.name.run s = (.ok name, s))
    (htext : (p.text kind).run s = (.ok text, t)) : (p.exportOne directory writeSource kind).run s =
      (p.finish name directory writeSource { kind, target := target directory name kind } text).run t := by
  have hattempt : ((p.text kind).attempt : Step Fault σ _).run s = (.ok (.ok text), t) := by
    rw [Step.run_attempt, htext]
  exact (Step.run_bind_of_ok hname _).trans (Step.run_bind_of_ok hattempt _)

end ExportPlan

namespace Exporter

variable {e : Exporter} {y : Ref .system} {directory : FilePath} {writeSource : Bool} {s : Studio}
  {kind : DiagramKind}

/-- Asking for the text of a diagram tells something and changes nothing else. -/
theorem exists_run_text (e : Exporter) (y : Ref .system) (kind : DiagramKind) (s : Studio) :
    ∃ h, h.world = s.host.world ∧ ((e.plan y).text kind).run s =
      (Diagram.textOf s.model y kind, { s with host := h }) := by
  cases kind with
  | simple =>
    exact ⟨{ s.host with notes := s.host.notes ++ (s.model.dotNotes y).map fun t => ⟨.debug, .simple, t⟩ },
      rfl, rfl⟩
  | uml =>
    exact ⟨{ s.host with notes := s.host.notes ++ (s.model.umlNotes y).map fun t => ⟨.debug, .uml, t⟩ },
      rfl, rfl⟩

/-- **How an attempt ends**: its record before any fault is put into it, the outcome, and the world it leaves. -/
inductive Attempts (e : Exporter) (y : Ref .system) (directory : FilePath) (writeSource : Bool) (s : Studio)
    (kind : DiagramKind) : ExportResult → Except Fault Unit → Host → Prop
  /-- There is no text. -/
  | noText {f : Fault} (htext : Diagram.textOf s.model y kind = .error f) :
    Attempts e y directory writeSource s kind
      { kind, target := ExportPlan.target directory (s.model.system y).name kind } (.error f) s.host.world
  /-- The text is wanted beside the image and cannot be stored there. -/
  | noSource {text : String} {f : Fault} {fs : FileSystem}
    (htext : Diagram.textOf s.model y kind = .ok text) (hwrite : writeSource = true)
    (hsource : SourceStores s.host.files s.host.here
      (ExportPlan.sourceTarget directory (s.model.system y).name kind) text (.error f) fs) :
    Attempts e y directory writeSource s kind
      { kind, target := ExportPlan.target directory (s.model.system y).name kind, source := some text,
        sourceFile := some (ExportPlan.sourceTarget directory (s.model.system y).name kind) }
      (.error f) { s.host.world with files := fs }
  /-- The text is drawn, for better or worse. -/
  | drawn {text : String} {fs : FileSystem} {r : Except Fault FilePath} {w : Host}
    (htext : Diagram.textOf s.model y kind = .ok text)
    (hsource : SourceReady writeSource s.host.files s.host.here
      (ExportPlan.sourceTarget directory (s.model.system y).name kind) text fs)
    (hdraws : (s.renderer (e.diagram y kind).renderer).Draws { s.host with files := fs } text
      (ExportPlan.target directory (s.model.system y).name kind) r w) :
    Attempts e y directory writeSource s kind
      { kind, target := ExportPlan.target directory (s.model.system y).name kind, source := some text,
        sourceFile := if writeSource then
          some (ExportPlan.sourceTarget directory (s.model.system y).name kind) else none }
      (r.map fun _ => ()) w

/-- An attempt that has its text and stores nothing beside the image is the drawing of the text. -/
theorem Attempts.exists_draws {r : ExportResult} {o : Except Fault Unit} {w : Host} {text : String}
    (h : Attempts e y directory false s kind r o w) (htext : Diagram.textOf s.model y kind = .ok text) :
    ∃ p, (s.renderer (e.diagram y kind).renderer).Draws s.host text
      (ExportPlan.target directory (s.model.system y).name kind) p w ∧ o = p.map fun _ => () := by
  cases h with
  | noText htext' => simp [htext] at htext'
  | noSource _ hwrite => cases hwrite
  | drawn htext' hsource hdraws =>
    rw [htext] at htext'
    cases htext'
    obtain ⟨hwrite, -⟩ | ⟨-, rfl⟩ := hsource
    · cases hwrite
    · exact ⟨_, hdraws, rfl⟩

/-- The drawing of an attempt leaves the model as it is. -/
theorem exists_run_draw (e : Exporter) (y : Ref .system) (kind : DiagramKind) (text : String)
    (target : FilePath) (s : Studio) :
    ∃ r t, (s.renderer (e.diagram y kind).renderer).Draws s.host text target r t.host.world ∧
      t.model = s.model ∧ ((e.plan y).draw kind text target).run s = (r, t) := by
  obtain ⟨r, ⟨k, h⟩, hdraws, hrun⟩ :=
    Renderer.exists_draws (s.renderer (e.diagram y kind).renderer) s.host text target
  have hformat : (e.diagram y kind).format = .svg := by cases kind <;> rfl
  refine ⟨r, { s with
    renderers := s.renderers.modify (e.diagram y kind).renderer.index fun _ => k
    host := h }, hdraws, rfl, ?_⟩
  show (Studio.draw _ text (e.diagram y kind).format target).run s = _
  rw [hformat, Studio.draw, Step.run_within, hrun]

/-- Drawing and then answering what is already known. -/
theorem exists_run_draw_bind (e : Exporter) (y : Ref .system) (kind : DiagramKind) (text : String)
    (target : FilePath) (r : ExportResult) {s u : Studio} (fs : FileSystem)
    (hrenderers : u.renderers = s.renderers) (hworld : u.host.world = { s.host.world with files := fs }) :
    ∃ o t, (s.renderer (e.diagram y kind).renderer).Draws { s.host with files := fs } text target o
        t.host.world ∧ t.model = u.model ∧
      ((e.plan y).draw kind text target >>= fun _ => pure r).run u =
        ((o.map fun _ => ()).map fun _ => r, t) := by
  obtain ⟨o, t, hdraws, hmodel, hrun⟩ := exists_run_draw e y kind text target u
  rw [Studio.renderer, hrenderers] at hdraws
  refine ⟨o, t, hdraws.of_world hworld, hmodel, ?_⟩
  cases o with
  | error f => exact Step.run_bind_of_error hrun _
  | ok place => exact Step.run_bind_of_ok hrun _

/-- Without a text, an attempt answers the record of its fault. -/
theorem run_exportOne_of_noText {f : Fault} {h : Host}
    (hrun : ((e.plan y).text kind).run s = (.error f, { s with host := h })) :
    ((e.plan y).exportOne directory writeSource kind).run s =
      (ExportResult.record { kind, target := ExportPlan.target directory (s.model.system y).name kind } (.error f),
        { s with host := h }) :=
  ExportPlan.run_exportOne_of_noText rfl hrun

/-- With its text, an attempt goes on to store and to draw it. -/
theorem run_exportOne_of_text {text : String} {h : Host}
    (hrun : ((e.plan y).text kind).run s = (.ok text, { s with host := h })) :
    ((e.plan y).exportOne directory writeSource kind).run s =
      ((e.plan y).finish (s.model.system y).name directory writeSource
        { kind, target := ExportPlan.target directory (s.model.system y).name kind } text).run
          { s with host := h } :=
  ExportPlan.run_exportOne_of_text rfl hrun

/-- **Every attempt ends in one of the three ways**, and what is answered is its record. -/
theorem exists_attempts (e : Exporter) (y : Ref .system) (directory : FilePath) (writeSource : Bool)
    (s : Studio) (kind : DiagramKind) :
    ∃ r o t, Attempts e y directory writeSource s kind r o t.host.world ∧ t.model = s.model ∧
      ((e.plan y).exportOne directory writeSource kind).run s = (r.record o, t) := by
  obtain ⟨h, hworld, htext⟩ := exists_run_text e y kind s
  -- the stages of an attempt, each of which starts from the world that the one before it left
  cases hkind : Diagram.textOf s.model y kind with
  | error f =>
    rw [hkind] at htext
    have hends : Attempts e y directory writeSource s kind _ _ s.host.world := .noText hkind
    rw [← hworld] at hends
    exact ⟨_, _, { s with host := h }, hends, rfl, run_exportOne_of_noText htext⟩
  | ok text =>
    rw [hkind] at htext
    rw [run_exportOne_of_text htext]
    cases hwrite : writeSource with
    | false =>
      obtain ⟨o, t, hdraws, hmodel, hrun⟩ := exists_run_draw_bind e y kind text
        (ExportPlan.target directory (s.model.system y).name kind) _ (s := s)
        (u := { s with host := h }) s.host.files rfl hworld
      exact ⟨_, _, t, .drawn hkind (.inr ⟨rfl, rfl⟩) hdraws, hmodel, ExportPlan.run_recording hrun⟩
    | true =>
      obtain ⟨o, fs, hsource, hrun⟩ := exists_sourceStores h
        (ExportPlan.sourceTarget directory (s.model.system y).name kind) text
      rw [Host.files_eq_of_world hworld, Host.here_eq_of_world hworld] at hsource
      have hstore : ((e.plan y).onHost (ExportPlan.storeSource
          (ExportPlan.sourceTarget directory (s.model.system y).name kind) text)).run
          { s with host := h } = (o, { s with host := { h with files := fs } }) := by
        show (Studio.onHost _).run _ = _
        rw [Studio.onHost, Step.run_within, hrun]
      have hworld' : ({ h with files := fs } : Host).world = { s.host.world with files := fs } := by
        rw [← hworld]
        rfl
      cases o with
      | error f =>
        have hends : Attempts e y directory true s kind _ _ { s.host.world with files := fs } :=
          .noSource hkind rfl hsource
        rw [← hworld'] at hends
        refine ⟨_, _, { s with host := { h with files := fs } }, hends, rfl, ExportPlan.run_recording ?_⟩
        show ((e.plan y).onHost _ >>= _).run _ = _
        exact Step.run_bind_of_error hstore _
      | ok u =>
        obtain ⟨o, t, hdraws, hmodel, hrun'⟩ := exists_run_draw_bind e y kind text
          (ExportPlan.target directory (s.model.system y).name kind) _ (s := s)
          (u := { s with host := { h with files := fs } }) fs rfl hworld'
        refine ⟨_, _, t, .drawn hkind (.inl ⟨rfl, hsource⟩) hdraws, hmodel, ExportPlan.run_recording ?_⟩
        exact (Step.run_bind_of_ok hstore _).trans hrun'

end Exporter

end Landscape
