import Landscape.Proofs.Export.Batch
import Landscape.Proofs.Render.Knowledge

/-!
# Calls on one renderer

A renderer is called in four ways: for an SVG text, for an image, by a diagram that is drawn, and by the export of a
kind of diagram (`Landscape.Studio.Call`). Between its calls anything may happen that leaves what it knows alone: files,
variables and programs come and go, models change, other renderers draw (`Landscape.Studio.Course`).

Each call is made of steps on the host, which look for no program, and of at most one drawing. So a call is as good a
service as a drawing (`Landscape.Studio.Call.keeps_work`), and what one drawing keeps a whole course of calls keeps.
That is `Landscape.Studio.knows_of_course`: however long the course is, there is one lookup of each program at most,
what is found out is found out for good, and a call that comes by no settings leaves the renderer as if it had just
been made. An export of several kinds is such a course (`Landscape.Exporter.exists_course_run`).
-/

namespace Landscape

namespace Studio

variable {r r' : RendererRef} {s t u : Studio} {k : PlantUml.Renderer} {α : Type}

/-! ### Renderers in a studio -/

/-- The studio with another renderer in the place of one, and with another host. -/
def putRenderer (s : Studio) (r : RendererRef) (k : Renderer) (h : Host) : Studio :=
  { s with renderers := s.renderers.modify r.index fun _ => k, host := h }

/-- Where no renderer is, there is the usual one. -/
theorem renderer_of_size_le (h : s.renderers.size ≤ r.index) : s.renderer r = .usualForGraphs := by
  rw [renderer, Table.get, List.getD_eq_getElem?_getD, List.getElem?_eq_none h]
  rfl

/-- A renderer that is there is replaced. -/
theorem renderer_putRenderer_of_ne_usual (hk : s.renderer r ≠ .usualForGraphs) (k' : Renderer) (h : Host) :
    (s.putRenderer r k' h).renderer r = k' := by
  refine s.renderers.get_modify_self _ ?_
  by_contra hge
  exact hk (renderer_of_size_le (Nat.le_of_not_lt hge))

theorem renderer_putRenderer_self (hk : s.renderer r = .plantUml k) (k' : Renderer) (h : Host) :
    (s.putRenderer r k' h).renderer r = k' :=
  renderer_putRenderer_of_ne_usual (by rw [hk]; exact nofun) k' h

theorem renderer_putRenderer_of_ne (hne : r' ≠ r) (k' : Renderer) (h : Host) :
    (s.putRenderer r' k' h).renderer r = s.renderer r := by
  refine s.renderers.get_modify_of_ne _ fun hindex => hne ?_
  cases r
  cases r'
  exact congrArg RendererRef.mk hindex

/-- The SVG text that a renderer makes of a text, if it is one for PlantUML. -/
def drawSvg (r : RendererRef) (text : String) : Work String := do
  match (← get).renderer r with
  | .plantUml k => (PlantUml.drawSvg text).within (fun s => (k, s.host)) fun t s => s.putRenderer r (.plantUml t.1) t.2
  | .graphviz _ => throw (.lacks "GraphvizRenderer" "render_svg")
  | .memory _ => throw (.lacks "MemoryRenderer" "render_svg")

theorem run_drawSvg (hk : s.renderer r = .plantUml k) (text : String) :
    (drawSvg r text).run s = Prod.map id (fun x => s.putRenderer r (.plantUml x.1) x.2)
      ((PlantUml.drawSvg text).run (k, s.host)) := by
  rw [drawSvg, Step.run_bind_of_ok (Step.run_get _), hk]
  rfl

theorem run_draw (hk : s.renderer r = .plantUml k) (source : String) (format : Choice) (target : FilePath) :
    (draw r source format target).run s = Prod.map id (fun x => s.putRenderer r (.plantUml x.1) x.2)
      ((PlantUml.draw source format target).run (k, s.host)) := by
  rw [draw, Step.run_within, hk, Renderer.draw, Step.run_bind_of_ok (Step.run_get _), Step.run_within]
  rfl

/-! ### Calls -/

/-- A call of a renderer. -/
inductive Call where
  /-- An SVG text is wanted of a text. -/
  | svg (r : RendererRef) (text : String)
  /-- A text is to be drawn into a file. -/
  | draw (r : RendererRef) (source : String) (format : Choice) (target : FilePath)
  /-- A diagram is drawn. -/
  | visualize (d : Diagram) (target : String)
  /-- A kind of diagram is exported. -/
  | exportOne (e : Exporter) (y : Ref .system) (directory : FilePath) (writeSource : Bool) (kind : DiagramKind)

/-- The renderer that is called. -/
def Call.renderer : Call → RendererRef
  | .svg r _ => r
  | .draw r .. => r
  | .visualize d _ => d.renderer
  | .exportOne e y _ _ kind => (e.diagram y kind).renderer

/-- What is done on a call. -/
def Call.work : Call → Work Unit
  | .svg r text => do let _ ← drawSvg r text
  | .draw r source format target => do let _ ← Studio.draw r source format target
  | .visualize d target => do let _ ← d.draw target
  | .exportOne e y directory writeSource kind => do let _ ← (e.plan y).exportOne directory writeSource kind

/-- What is asked on a call. -/
def Call.asked (c : Call) (s : Studio) : List Request :=
  (c.work.run s).2.host.requests.drop s.host.requests.length

/-! ### What a call keeps -/

/-- A relation that what is done with a renderer keeps: steps on the host that ask nothing, and drawings. -/
structure Frames (R : Studio → Studio → Prop) (r : RendererRef) : Prop where
  onHost : ∀ {α : Type} (act : Step Fault Host α), Host.Quiet act → (onHost act).Keeps R
  drawSvg : ∀ text, (drawSvg r text).Keeps R
  draw : ∀ source format target, (draw r source format target).Keeps R

section Frames

variable {R : Studio → Studio → Prop} [Std.Refl R] [IsTrans Studio R]

/-- Asking for the text of a diagram. -/
theorem Frames.keeps_source (h : Frames R r) (d : Diagram) : d.source.Keeps R := by
  refine (Step.keeps_of _).bind fun y => Step.Keeps.bind (fun s => Std.Refl.refl s) fun s => ?_
  cases d.kind
  · exact (h.onHost _ fun _ => rfl).bind fun _ => Step.keeps_of _
  · exact (h.onHost _ fun _ => rfl).bind fun _ => Step.keeps_of _

theorem Frames.keeps_visualize {d : Diagram} (h : Frames R d.renderer) (target : String) :
    (d.draw target).Keeps R := by
  cases d with
  | simple c r =>
    exact (h.onHost _ (Host.quiet_note _ _ _)).bind fun _ => (h.keeps_source _).bind fun text => h.draw _ _ _
  | uml c r =>
    exact (h.keeps_source _).bind fun text => (h.onHost _ (Host.quiet_note _ _ _)).bind fun _ => h.draw _ _ _

theorem keeps_recording {act : Work ExportResult} (hact : act.Keeps R) (x : ExportResult) :
    (ExportPlan.recording x act).Keeps R := by
  refine Step.Keeps.bind hact.attempt fun o => ?_
  split
  · exact Step.keeps_pure _
  · exact Step.keeps_pure _
  · exact Step.keeps_throw _

theorem quiet_storeSource (target : FilePath) (source : String) :
    Host.Quiet (ExportPlan.storeSource target source) := by
  intro h
  obtain ⟨o, fs, -, hrun⟩ := exists_sourceStores h target source
  rw [hrun]

theorem Frames.keeps_exportOne {e : Exporter} {y : Ref .system} {kind : DiagramKind}
    (h : Frames R (e.diagram y kind).renderer) (directory : FilePath) (writeSource : Bool) :
    ((e.plan y).exportOne directory writeSource kind).Keeps R := by
  refine Step.Keeps.bind (fun s => Std.Refl.refl s) fun name => ?_
  refine Step.Keeps.bind (h.keeps_source _).attempt fun o => ?_
  split
  · refine keeps_recording ?_ _
    cases writeSource with
    | false => exact (h.draw _ _ _).bind fun _ => Step.keeps_pure _
    | true =>
      exact (h.onHost _ (quiet_storeSource _ _)).bind fun _ => (h.draw _ _ _).bind fun _ => Step.keeps_pure _
  · exact Step.keeps_pure _
  · exact Step.keeps_throw _

/-- **What is done on a call** keeps what drawings and quiet steps keep. -/
theorem Call.keeps_work {c : Call} (h : Frames R c.renderer) : c.work.Keeps R := by
  cases c with
  | svg r text => exact (h.drawSvg text).bind fun _ => Step.keeps_pure _
  | draw r source format target => exact (h.draw _ _ _).bind fun _ => Step.keeps_pure _
  | visualize d target => exact (h.keeps_visualize target).bind fun _ => Step.keeps_pure _
  | exportOne e y directory writeSource kind =>
    exact (h.keeps_exportOne directory writeSource).bind fun _ => Step.keeps_pure _

end Frames

/-! ### Serving, and leaving alone -/

/-- A studio is **served from** another by a renderer that served on the way. -/
def ServedFrom (r : RendererRef) (s t : Studio) : Prop :=
  ∀ k, s.renderer r = .plantUml k →
    ∃ k', t.renderer r = .plantUml k' ∧ PlantUml.ServedFrom (k, s.host) (k', t.host)

instance : Std.Refl (ServedFrom r) :=
  ⟨fun _ k hk => ⟨k, hk, Std.Refl.refl _⟩⟩

instance : IsTrans Studio (ServedFrom r) where
  trans s t u hst htu k hk := by
    obtain ⟨k', hk', hserved⟩ := hst k hk
    obtain ⟨k'', hk'', hserved'⟩ := htu k' hk'
    exact ⟨k'', hk'', IsTrans.trans _ _ _ hserved hserved'⟩

/-- What is done with a renderer is a service of it. -/
theorem frames_servedFrom (r : RendererRef) : Frames (ServedFrom r) r where
  onHost act hact s k hk := ⟨k, hk, PlantUml.keeps_onHost hact (k, s.host)⟩
  drawSvg text s k hk := by
    rw [run_drawSvg hk]
    exact ⟨_, renderer_putRenderer_self hk _ _, PlantUml.keeps_drawSvg text (k, s.host)⟩
  draw source format target s k hk := by
    rw [run_draw hk]
    exact ⟨_, renderer_putRenderer_self hk _ _, PlantUml.keeps_draw source format target (k, s.host)⟩

/-- A studio in which a renderer knows what it knew in another. -/
def SameRenderer (r : RendererRef) (s t : Studio) : Prop :=
  t.renderer r = s.renderer r

instance : Std.Refl (SameRenderer r) :=
  ⟨fun _ => rfl⟩

instance : IsTrans Studio (SameRenderer r) where
  trans _ _ _ hst htu := htu.trans hst

/-- What is done with another renderer leaves a renderer alone. -/
theorem frames_sameRenderer (hne : r' ≠ r) : Frames (SameRenderer r) r' where
  onHost act _ s := rfl
  drawSvg text s := by
    cases hk : s.renderer r' with
    | plantUml k =>
      rw [run_drawSvg hk]
      exact renderer_putRenderer_of_ne hne _ _
    | graphviz engine =>
      rw [SameRenderer, drawSvg, Step.run_bind_of_ok (Step.run_get _), hk]
      rfl
    | memory m =>
      rw [SameRenderer, drawSvg, Step.run_bind_of_ok (Step.run_get _), hk]
      rfl
  draw source format target s := renderer_putRenderer_of_ne hne _ _

/-! ### Courses -/

/-- **A course of calls on a renderer**, each with the studio in which it was made. Between the calls anything may
happen that leaves the renderer alone. -/
inductive Course (r : RendererRef) : Studio → List (Call × Studio) → Studio → Prop
  | nil (s : Studio) : Course r s [] s
  | aside {s t u : Studio} {calls : List (Call × Studio)} (hsame : t.renderer r = s.renderer r)
    (hrest : Course r t calls u) : Course r s calls u
  | call {s u : Studio} {calls : List (Call × Studio)} (c : Call) (hc : c.renderer = r)
    (hrest : Course r (c.work.run s).2 calls u) : Course r s ((c, s) :: calls) u

/-- One course after the other. -/
theorem Course.append {calls calls' : List (Call × Studio)} (h : Course r s calls t) (h' : Course r t calls' u) :
    Course r s (calls ++ calls') u := by
  induction h with
  | nil s => exact h'
  | aside hsame _ ih => exact .aside hsame (ih h')
  | call c hc _ ih => exact .call c hc (ih h')

/-- What is asked on some calls. -/
def askedOn (calls : List (Call × Studio)) : List Request :=
  calls.flatMap fun x => x.1.asked x.2

/-- **Each call is a service.** -/
theorem Call.serves {c : Call} (hc : c.renderer = r) (hk : s.renderer r = .plantUml k) (hsound : k.Sound) :
    ∃ k', (c.work.run s).2.renderer r = .plantUml k' ∧ k.Serves (c.asked s) k' := by
  subst hc
  obtain ⟨k', hk', hserved⟩ := Call.keeps_work (frames_servedFrom c.renderer) s k hk
  obtain ⟨qs, hrequests, hserves⟩ := hserved hsound
  have hasked : c.asked s = qs := by
    rw [Call.asked, hrequests, List.drop_left]
  exact ⟨k', hk', hasked ▸ hserves⟩

/-- **A whole course is a service.** -/
theorem Course.serves {calls : List (Call × Studio)} (h : Course r s calls t) (hk : s.renderer r = .plantUml k)
    (hsound : k.Sound) : ∃ k', t.renderer r = .plantUml k' ∧ k.Serves (askedOn calls) k' := by
  induction h generalizing k with
  | nil s => exact ⟨k, hk, .refl k⟩
  | aside hsame _ ih => exact ih (hsame.trans hk) hsound
  | call c hc _ ih =>
    obtain ⟨k₁, hk₁, hserves⟩ := Call.serves hc hk hsound
    obtain ⟨k₂, hk₂, hserves'⟩ := ih hk₁ (hserves.sound hsound)
    exact ⟨k₂, hk₂, hserves.trans hserves'⟩

/-- Each call of a course is a service of a renderer that remembers what it knew at the beginning. -/
theorem Course.serves_of_mem {calls : List (Call × Studio)} {c : Call} {s' : Studio} (h : Course r s calls t)
    (hk : s.renderer r = .plantUml k) (hsound : k.Sound) (hmem : (c, s') ∈ calls) :
    ∃ k₁ k₂, k.Remembers k₁ ∧ k₁.Serves (c.asked s') k₂ := by
  induction h generalizing k with
  | nil s => cases hmem
  | aside hsame _ ih => exact ih (hsame.trans hk) hsound hmem
  | call c' hc _ ih =>
    obtain ⟨k₁, hk₁, hserves⟩ := Call.serves hc hk hsound
    rcases List.mem_cons.mp hmem with heq | hmem
    · cases heq
      exact ⟨k, k₁, .refl k, hserves⟩
    · obtain ⟨k₂, k₃, hremembers, hserves'⟩ := ih hk₁ (hserves.sound hsound) hmem
      exact ⟨k₂, k₃, hserves.remembers.trans hremembers, hserves'⟩

end Studio

/-! ### Exports -/

namespace Exporter

open Studio

variable {e : Exporter} {y : Ref .system} {directory : FilePath} {writeSource : Bool}

/-- The calls on a renderer that the export of some kinds of diagrams makes. -/
def callsOn (r : RendererRef) (e : Exporter) (y : Ref .system) (directory : FilePath) (writeSource : Bool)
    (kinds : List DiagramKind) : List Call :=
  (kinds.filter fun kind => (e.diagram y kind).renderer = r).map (.exportOne e y directory writeSource)

theorem callsOn_append (r : RendererRef) (kinds kinds' : List DiagramKind) :
    callsOn r e y directory writeSource (kinds ++ kinds') =
      callsOn r e y directory writeSource kinds ++ callsOn r e y directory writeSource kinds' := by
  rw [callsOn, List.filter_append, List.map_append, callsOn, callsOn]

/-- Exporting one kind of diagram is a call on its renderer, and leaves any other alone. -/
theorem exists_course_exportOne (r : RendererRef) (e : Exporter) (y : Ref .system) (directory : FilePath)
    (writeSource : Bool) (kind : DiagramKind) (s : Studio) :
    ∃ calls, calls.map Prod.fst = callsOn r e y directory writeSource [kind] ∧
      Course r s calls (((e.plan y).exportOne directory writeSource kind).run s).2 := by
  rw [callsOn, List.filter_singleton]
  by_cases hr : (e.diagram y kind).renderer = r
  · have hleft : ((Call.exportOne e y directory writeSource kind).work.run s).2 =
        (((e.plan y).exportOne directory writeSource kind).run s).2 := by
      rcases hrun : ((e.plan y).exportOne directory writeSource kind).run s with ⟨f | x, t⟩
      · exact congrArg Prod.snd (Step.run_bind_of_error hrun _)
      · exact congrArg Prod.snd (Step.run_bind_of_ok hrun _)
    refine ⟨[(.exportOne e y directory writeSource kind, s)], by simp [hr], .call _ hr ?_⟩
    rw [hleft]
    exact .nil _
  · exact ⟨[], by simp [hr], .aside ((frames_sameRenderer hr).keeps_exportOne directory writeSource s) (.nil _)⟩

/-- **Exporting some kinds of diagrams is a course of calls**, one for each kind that is attempted and that the
renderer draws. If there are results, all kinds were attempted. -/
theorem exists_course_exportAll (r : RendererRef) (e : Exporter) (y : Ref .system) (directory : FilePath)
    (writeSource : Bool) (kinds : List DiagramKind) (s : Studio) :
    ∃ attempted calls, attempted <+: kinds ∧
      calls.map Prod.fst = callsOn r e y directory writeSource attempted ∧
      Course r s calls (((e.plan y).exportAll directory writeSource kinds).run s).2 ∧
      ∀ rs, (((e.plan y).exportAll directory writeSource kinds).run s).1 = .ok rs → attempted = kinds := by
  induction kinds generalizing s with
  | nil => exact ⟨[], [], List.nil_prefix, rfl, .nil s, fun _ _ => rfl⟩
  | cons kind kinds ih =>
    obtain ⟨calls, hcalls, hcourse⟩ := exists_course_exportOne r e y directory writeSource kind s
    rcases hrun : ((e.plan y).exportOne directory writeSource kind).run s with ⟨f | x, t⟩
    · -- the first kind ends the batch
      rw [hrun] at hcourse
      refine ⟨[kind], calls, ⟨kinds, rfl⟩, hcalls, ?_, ?_⟩
      · rw [run_exportAll_of_error hrun]
        exact hcourse
      · rw [run_exportAll_of_error hrun]
        rintro rs ⟨⟩
    · -- the rest of the batch starts after a note on the first kind
      rw [hrun] at hcourse
      obtain ⟨attempted, calls', hprefix, hcalls', hcourse', hall⟩ := ih (noted y x t)
      refine ⟨kind :: attempted, calls ++ calls', List.cons_prefix_cons.mpr ⟨rfl, hprefix⟩, ?_, ?_, ?_⟩
      · rw [List.map_append, hcalls, hcalls', ← callsOn_append]
        rfl
      · rw [run_exportAll_of_ok hrun]
        have hnoted : (noted y x t).renderer r = t.renderer r := rfl
        exact hcourse.append (.aside hnoted hcourse')
      · rw [run_exportAll_of_ok hrun]
        intro rs hrs
        cases hrest : (((e.plan y).exportAll directory writeSource kinds).run (noted y x t)).1 with
        | error f => simp [hrest, Except.map] at hrs
        | ok rs' => rw [hall rs' hrest]

/-- **An export is a course of calls**, for the kinds that are asked for. -/
theorem exists_course_run (r : RendererRef) (e : Exporter) (y : Ref .system) (directory : FilePath)
    (vs : List Value) (writeSource : Bool) (s : Studio) :
    ∃ attempted calls, calls.map Prod.fst = callsOn r e y directory writeSource attempted ∧
      Course r s calls ((e.run y directory vs writeSource).run s).2 ∧
      ∀ rs, ((e.run y directory vs writeSource).run s).1 = .ok rs →
        ExportPlan.kindsOf vs = .ok attempted := by
  cases hkinds : ExportPlan.kindsOf vs with
  | error f =>
    rw [run_of_unknown hkinds]
    exact ⟨[], [], rfl, .nil s, fun rs hrs => by cases hrs⟩
  | ok kinds =>
    rw [run_of_kindsOf hkinds]
    obtain ⟨attempted, calls, -, hcalls, hcourse, hall⟩ :=
      exists_course_exportAll r e y directory writeSource kinds s
    exact ⟨attempted, calls, hcalls, hcourse, fun rs hrs => by rw [hall rs hrs]⟩

end Exporter

/-! ### What is known in the course of calls -/

namespace Studio

open PlantUml

variable {r : RendererRef} {s t u : Studio} {k : PlantUml.Renderer} {f : Fault}

/-- The calls of a course heed a decision on the archive that was made before it. -/
theorem Course.heeds_of_mem {calls : List (Call × Studio)} {b : Bool} (h : Course r s calls t)
    (hk : s.renderer r = .plantUml k) (hsound : k.Sound) (hb : k.jarUsable = some b) :
    ∀ x ∈ calls, Heeds b (x.1.asked x.2) := by
  rintro ⟨c, s'⟩ hmem
  obtain ⟨k₁, k₂, hremembers, hserves⟩ := h.serves_of_mem hk hsound hmem
  exact hserves.heeds b (hserves.remembers.jarUsable b (hremembers.jarUsable b hb))

/-- The calls of a course go by settings that were known before it. -/
theorem Course.goesBySettings_of_mem {calls : List (Call × Studio)} {S : Settings} (h : Course r s calls t)
    (hk : s.renderer r = .plantUml k) (hsound : k.Sound) (hS : k.settings = some S) :
    ∀ x ∈ calls, ∀ q ∈ x.1.asked x.2, GoesBySettings S q := by
  rintro ⟨c, s'⟩ hmem
  obtain ⟨k₁, k₂, hremembers, hserves⟩ := h.serves_of_mem hk hsound hmem
  exact hserves.goesBy S (hserves.remembers.settings S (hremembers.settings S hS))

/-- A call that finds no settings fails for want of them, and leaves the renderer as it was. -/
theorem run_of_load_error (hk : s.renderer r = .plantUml k) (hsound : k.Sound) (hS : k.settings = none)
    (hload : ((Settings.load none).run s.host).1 = .error f) :
    (∀ text, ∃ t, (drawSvg r text).run s = (.error (settingsFault f), t) ∧ t.renderer r = .plantUml k) ∧
    ∀ source target, ∃ t, (draw r source .svg target).run s = (.error (settingsFault f), t) ∧
      t.renderer r = .plantUml k := by
  refine ⟨fun text => ?_, fun source target => ?_⟩
  · obtain ⟨w, hrun, -⟩ := run_drawSvg_of_load_error hsound hS hload text
    rw [run_drawSvg hk, hrun]
    exact ⟨_, rfl, renderer_putRenderer_self hk _ _⟩
  · obtain ⟨w, hrun, -⟩ := run_draw_of_load_error hsound hS hload source target
    rw [run_draw hk, hrun]
    exact ⟨_, rfl, renderer_putRenderer_self hk _ _⟩

/-- **What is known in the course of calls.** A renderer starts with settings or without, some calls are made of it, and
then some more; between any two of them anything may happen to the files, the variables, the programs and the models.
Then there was at most one lookup of each program. What is known after the earlier calls is known in the same way
after the later ones, each of which heeds the decision on the archive and goes by the settings. Whichever call comes
next is again such a service; if it comes by no settings it leaves the renderer as it was, which is as if it had
just been made. What it draws once it has decided does not depend on the files and the variables. And an export is a
course of calls. -/
theorem knows_of_course {settings : Option Settings} {earlier later : List (Call × Studio)}
    (hfresh : s.renderer r = .plantUml { settings }) (hearlier : Course r s earlier t)
    (hlater : Course r t later u) :
    lookups "java" (askedOn (earlier ++ later)) ≤ 1 ∧ lookups "dot" (askedOn (earlier ++ later)) ≤ 1 ∧
    ∃ k k', t.renderer r = .plantUml k ∧ u.renderer r = .plantUml k' ∧ k.Remembers k' ∧
      (∀ b, k.jarUsable = some b → ∀ x ∈ later, Heeds b (x.1.asked x.2)) ∧
      (∀ S, k.settings = some S → ∀ x ∈ later, ∀ q ∈ x.1.asked x.2, GoesBySettings S q) ∧
      (∀ c : Call, c.renderer = r → ∃ k'', (c.work.run u).2.renderer r = .plantUml k'' ∧
        k'.Serves (c.asked u) k'' ∧ (k''.settings = none → k'' = k' ∧ k' = {})) ∧
      (∀ f, k'.settings = none → ((Settings.load none).run u.host).1 = .error f →
        (∀ text, ∃ v, (drawSvg r text).run u = (.error (settingsFault f), v) ∧ v.renderer r = .plantUml k') ∧
        ∀ source target, ∃ v, (draw r source .svg target).run u = (.error (settingsFault f), v) ∧
          v.renderer r = .plantUml k') ∧
      (∀ b, k.jarUsable = some b → ∀ w w' : Host, w.runs = w'.runs → w.fetches = w'.fetches →
        (k'.graphvizThere = none → w.programs.contains "dot" = w'.programs.contains "dot") → ∀ text,
          ((PlantUml.drawSvg text).run (k', w)).1 = ((PlantUml.drawSvg text).run (k', w')).1 ∧ ∃ qs,
            ((PlantUml.drawSvg text).run (k', w)).2.2.requests = w.requests ++ qs ∧
            ((PlantUml.drawSvg text).run (k', w')).2.2.requests = w'.requests ++ qs) ∧
      ∀ (e : Exporter) (y : Ref .system) (directory : FilePath) (vs : List Value) (writeSource : Bool),
        ∃ attempted calls, calls.map Prod.fst = e.callsOn r y directory writeSource attempted ∧
          Course r u calls ((e.run y directory vs writeSource).run u).2 ∧
          ∀ rs, ((e.run y directory vs writeSource).run u).1 = .ok rs →
            ExportPlan.kindsOf vs = .ok attempted := by
  have hnew : Renderer.Sound { settings } := Renderer.sound_fresh settings
  obtain ⟨k, hk, hserves⟩ := hearlier.serves hfresh hnew
  have hsound := hserves.sound hnew
  obtain ⟨k', hk', hserves'⟩ := hlater.serves hk hsound
  have hsound' := hserves'.sound hsound
  have hall := hserves.trans hserves'
  have hasked : askedOn earlier ++ askedOn later = askedOn (earlier ++ later) := List.flatMap_append.symm
  rw [hasked] at hall
  have hjava := hall.java
  have hdot := hall.dot
  refine ⟨by simp only [pending] at hjava; omega, by simp only [pending] at hdot; omega, k, k', hk, hk',
    hserves'.remembers, fun b hb => hlater.heeds_of_mem hk hsound hb,
    fun S hS => hlater.goesBySettings_of_mem hk hsound hS, ?_, ?_, ?_, fun e y directory vs writeSource =>
      Exporter.exists_course_run r e y directory vs writeSource u⟩
  · -- the next call, whichever it is
    intro c hc
    obtain ⟨k₂, hk₂, hserves₂⟩ := Call.serves hc hk' hsound'
    refine ⟨k₂, hk₂, hserves₂, fun hnone => ?_⟩
    obtain ⟨rfl, -⟩ := hserves₂.noTrace hnone
    exact ⟨rfl, hsound' hnone⟩
  · exact fun f hnone hload => run_of_load_error hk' hsound' hnone hload
  · -- nothing is decided without settings, so a renderer that has decided has some
    intro b hb w w' hruns hfetches hdot text
    have hb' := hserves'.remembers.jarUsable b hb
    cases hS : k'.settings with
    | none => simp [hsound' hS] at hb'
    | some S => exact drawSvg_congr_of_decided hS hb' hdot hruns hfetches text

/-- An SVG call asks what a drawing asks, and leaves known what a drawing leaves known. -/
theorem Call.asked_svg (hk : s.renderer r = .plantUml k) (text : String) :
    (Call.svg r text).asked s = k.requestsIn s.host text ∧
      ((Call.svg r text).work.run s).2.renderer r = .plantUml (k.afterIn s.host) := by
  obtain ⟨k', w', hrun, -, hrequests, rfl⟩ := (findsBy_drawSvg k s.host text).exists_run
  have hleft : ((Call.svg r text).work.run s).2 = s.putRenderer r (.plantUml (k.afterIn s.host)) w' := by
    have hsvg := run_drawSvg hk text
    rw [hrun] at hsvg
    cases hr : k.svgIn s.host text with
    | error f =>
      rw [hr] at hsvg
      exact congrArg Prod.snd (Step.run_bind_of_error hsvg _)
    | ok svg =>
      rw [hr] at hsvg
      exact congrArg Prod.snd (Step.run_bind_of_ok hsvg _)
  refine ⟨?_, by rw [hleft, renderer_putRenderer_self hk]⟩
  rw [Call.asked, hleft]
  show List.drop _ w'.requests = _
  rw [hrequests, List.drop_left]

/-- A studio with a renderer that was just made, an archive where its settings look for it, and something to run it. -/
def equippedStudio : Studio where
  renderers := ⟨[.plantUml { settings := some (.usual {}) }]⟩
  host :=
    { files := ⟨[(["tools"], .directory), (["tools", "plantuml"], .directory),
        (["tools", "plantuml", "plantuml.jar"], .file [])]⟩
      programs := ["java"]
      runs := .ended 0 (Utf8.encode "<svg/>".toList) [] }

theorem jarThere_equippedStudio : jarThere equippedStudio.host (Settings.usual {}).jar = .ok true := by
  have husable : Host.unusable? (Settings.usual {}).jar = none := by
    rw [Host.unusable?, FilePath.hasNul, String.contains_char_eq]
    decide +kernel
  have hfound : equippedStudio.host.found (Settings.usual {}).jar = .ok (some (.file [])) := by
    rw [Host.found, husable]
    decide +kernel
  rw [jarThere, hfound]
  rfl

/-- What the renderer of this studio knows after its first call. -/
theorem afterIn_equippedStudio : Renderer.afterIn { settings := some (.usual {}) } equippedStudio.host =
    { settings := some (.usual {}), jarUsable := some true, graphvizThere := some false } := by
  have husable : Renderer.jarUsableIn { settings := some (.usual {}) } equippedStudio.host (Settings.usual {}).jar =
      .ok true := congrArg (Except.mapError Fault.access) jarThere_equippedStudio
  have hgoes : GoesBy equippedStudio.host (.usual {}) { settings := some (.usual {}) } := rfl
  rw [Renderer.afterIn_of_usable hgoes husable, Renderer.afterProbe, jarThere_equippedStudio]
  rfl

/-- The studio without its files, variables and programs. -/
def stripped (s : Studio) : Studio :=
  { s with host := { s.host with files := {}, environment := [], programs := [] } }

/-- In such a studio a second call runs the archive that the first has found, though nothing is left of it. -/
theorem knows_of_course_equippedStudio :
    let c : Call := .svg ⟨0⟩ "@startuml"
    let t := (c.work.run equippedStudio).2
    lookups "java" (askedOn [(c, equippedStudio), (c, t.stripped)]) ≤ 1 ∧
      (c.asked t.stripped).any Request.isRun = true ∧
      ∃ k, (c.work.run t.stripped).2.renderer ⟨0⟩ = .plantUml k ∧ k.jarUsable = some true := by
  intro c t
  have hfresh : equippedStudio.renderer ⟨0⟩ = .plantUml { settings := some (.usual {}) } := rfl
  have hearlier : Course ⟨0⟩ equippedStudio [(c, equippedStudio)] t := .call c rfl (.nil t)
  have hsame : t.stripped.renderer ⟨0⟩ = t.renderer ⟨0⟩ := rfl
  have hlater : Course ⟨0⟩ t [(c, t.stripped)] (c.work.run t.stripped).2 :=
    .aside hsame (.call c rfl (.nil _))
  obtain ⟨hjava, -, k, k', hk, hk', hremembers, -⟩ := knows_of_course hfresh hearlier hlater
  obtain ⟨-, hfirst⟩ := Call.asked_svg hfresh "@startuml"
  rw [afterIn_equippedStudio] at hfirst
  obtain ⟨hasked, -⟩ := Call.asked_svg (hsame.trans hfirst) "@startuml"
  have hknown : k.jarUsable = some true := by
    cases hk.symm.trans hfirst
    rfl
  refine ⟨hjava, ?_, k', hk', hremembers.jarUsable true hknown⟩
  have hrun : (jarRequests (.usual {}) (withLayout false "@startuml")).any Request.isRun = true := by
    decide +kernel
  rw [hasked]
  show ([] ++ ([] ++ jarRequests _ _ ++ requestsAfterJar _ _ _)).any Request.isRun = true
  simp only [List.nil_append, List.any_append, Bool.or_eq_true]
  exact .inl hrun

end Studio

end Landscape
