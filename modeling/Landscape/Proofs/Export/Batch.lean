import Landscape.Proofs.Export.Attempt
import Landscape.Proofs.Loading.Closed
import Landscape.Proofs.Render.Abort

/-!
# A batch of diagrams

An export attempts the diagrams that are asked for one after the other. Each attempt leaves a record, and the next
starts from the state that it left (`Landscape.Exporter.Exports`). An attempt that fails as a diagram can fail keeps
nothing from being attempted after it.

But an attempt can also fail in other ways (`Landscape.Exporter.Escapes`), and such a failure ends the whole batch: no
records are answered, not even those of the diagrams that are there. `Landscape.Exporter.run_iff` says that this
happens in the listed cases and in no other, and `Landscape.Exporter.run_ne_ok` is an instance, in which the address of
the server is too long to be asked.
-/

namespace Landscape

/-! ### Attempts that end a batch -/

theorem SourceStores.aborts_iff {files fs : FileSystem} {place : List String} {p : FilePath} {text : String}
    {o : Except Fault Unit} (h : SourceStores files place p text o fs) :
    Aborts o ↔ Host.NoPlace files place p ∨
      holdsHalves text = true ∧ ∃ fs', Host.Stores files place p [] (.ok ()) fs' := by
  have hencode : ∀ r, Utf8.encode? text.toList = r → (holdsHalves text = true ↔ ∃ f, r = .error f) := by
    rintro _ rfl
    rw [Utf8.encode?, Utf8.plain?, holdsHalves]
    cases Utf8.halves? text.toList <;> simp [Except.map]
  cases h with
  | bytes hbytes hstores =>
    simp [hstores.aborts_iff, hencode _ hbytes]
  | refused hbytes hstores =>
    have hrefused := hstores.aborts_iff (.sourceUnwritable p)
    simp only [Except.mapError] at hrefused
    rw [hrefused]
    refine ⟨.inl, ?_⟩
    rintro (hname | ⟨-, fs', hstores'⟩)
    · exact hname
    · simpa using (hstores.unique hstores').1
  | halves hbytes hstores =>
    exact iff_of_true ⟨_, rfl, rfl⟩ (.inr ⟨(hencode _ hbytes).mpr ⟨_, rfl⟩, _, hstores⟩)

/-- If the text beside the image is there, nothing kept it from being stored. -/
theorem SourceReady.not_aborts {writeSource : Bool} {files fs : FileSystem} {place : List String}
    {p : FilePath} {text : String} (h : SourceReady writeSource files place p text fs)
    (hwrite : writeSource = true) : ¬(Host.NoPlace files place p ∨
      holdsHalves text = true ∧ ∃ fs', Host.Stores files place p [] (.ok ()) fs') := by
  obtain ⟨-, hsource⟩ | ⟨hwrite', -⟩ := h
  · rw [← hsource.aborts_iff]
    exact not_aborts_ok ()
  · simp [hwrite] at hwrite'

/-- If storing the text beside the image failed, the text is not there. -/
theorem SourceStores.not_sourceReady {writeSource : Bool} {files fs fs' : FileSystem} {place : List String}
    {p : FilePath} {text : String} {f : Fault} (h : SourceStores files place p text (.error f) fs)
    (hwrite : writeSource = true) : ¬SourceReady writeSource files place p text fs' := by
  rintro (⟨-, hsource⟩ | ⟨hwrite', -⟩)
  · simpa using (h.unique hsource).1
  · simp [hwrite] at hwrite'

namespace Exporter

variable {e : Exporter} {y : Ref .system} {directory : FilePath} {writeSource : Bool} {s t : Studio}
  {kind : DiagramKind} {r : ExportResult} {o : Except Fault Unit} {w : Host}

/-- **What ends a batch in an attempt**, case by case. -/
inductive Escapes (e : Exporter) (y : Ref .system) (directory : FilePath) (writeSource : Bool) (s : Studio)
    (kind : DiagramKind) : Prop
  /-- A number is too long for the text of the component diagram. -/
  | longNumber (hkind : kind = .uml) (hlong : s.model.isWritable y = false)
  /-- The file beside the image has a name that none can have. -/
  | sourceName {text : String} (htext : Diagram.textOf s.model y kind = .ok text) (hwrite : writeSource = true)
    (hname : Host.NoPlace s.host.files s.host.here
      (ExportPlan.sourceTarget directory (s.model.system y).name kind))
  /-- The text for the file beside the image has no bytes. -/
  | sourceHalves {text : String} {fs : FileSystem} (htext : Diagram.textOf s.model y kind = .ok text)
    (hwrite : writeSource = true) (hhalves : holdsHalves text = true)
    (hstores : Host.Stores s.host.files s.host.here
      (ExportPlan.sourceTarget directory (s.model.system y).name kind) [] (.ok ()) fs)
  /-- The renderer fails in a way that is none of a diagram. -/
  | image {text : String} {fs : FileSystem} (htext : Diagram.textOf s.model y kind = .ok text)
    (hsource : SourceReady writeSource s.host.files s.host.here
      (ExportPlan.sourceTarget directory (s.model.system y).name kind) text fs)
    (himage : (s.renderer (e.diagram y kind).renderer).Escapes { s.host with files := fs } text)
  /-- The image is there, and its file has a name that none can have. -/
  | imageName {text : String} {fs : FileSystem} {image : List UInt8}
    (htext : Diagram.textOf s.model y kind = .ok text)
    (hsource : SourceReady writeSource s.host.files s.host.here
      (ExportPlan.sourceTarget directory (s.model.system y).name kind) text fs)
    (himage : (s.renderer (e.diagram y kind).renderer).imageIn { s.host with files := fs } text = .ok (some image))
    (hname : Host.NoPlace fs s.host.here (ExportPlan.target directory (s.model.system y).name kind))

/-- For want of a text, a batch ends only if there is a number that is too long. -/
theorem aborts_textOf {m : Model} : Aborts (Diagram.textOf m y kind) ↔ kind = .uml ∧ m.isWritable y = false := by
  cases kind with
  | simple =>
    rw [Diagram.textOf]
    cases m.dotText y <;> simp [Except.mapError, Fault.isDiagram, Fault.validation]
  | uml =>
    rw [Diagram.textOf]
    cases m.isWritable y with
    | false => simp [Fault.isDiagram]
    | true => cases m.umlText y <;> simp [Except.mapError, Fault.isDiagram, Fault.validation]

/-- A text that is there has no number that is too long. -/
theorem not_long_of_textOf {m : Model} {text : String} (htext : Diagram.textOf m y kind = .ok text) :
    ¬(kind = .uml ∧ m.isWritable y = false) := by
  rw [← aborts_textOf, htext]
  exact not_aborts_ok text

/-- An attempt that ends a batch does so in one of the listed cases. -/
theorem Attempts.escapes (h : Attempts e y directory writeSource s kind r o w) (ho : Aborts o) :
    Escapes e y directory writeSource s kind := by
  cases h with
  | noText htext =>
    have htextOf : Aborts (Diagram.textOf s.model y kind) ↔ _ := aborts_textOf
    rw [htext, aborts_error] at htextOf
    rw [aborts_error, htextOf] at ho
    exact .longNumber ho.1 ho.2
  | noSource htext hwrite hsource =>
    obtain hname | ⟨hhalves, fs, hstores⟩ := hsource.aborts_iff.mp ho
    · exact .sourceName htext hwrite hname
    · exact .sourceHalves htext hwrite hhalves hstores
  | drawn htext hsource hdraws =>
    obtain himage | ⟨⟨image, himage⟩, hname⟩ := hdraws.aborts_iff.mp (aborts_map.mp ho)
    · exact .image htext hsource himage
    · exact .imageName htext hsource himage hname

/-- In each of the listed cases an attempt ends a batch. -/
theorem Escapes.aborts (hesc : Escapes e y directory writeSource s kind)
    (h : Attempts e y directory writeSource s kind r o w) : Aborts o := by
  -- a case belongs to the stage at which the attempt ended; the others contradict what came before or after it
  cases h with
  | noText htext =>
    rw [aborts_error, ← aborts_error (α := String), ← htext, aborts_textOf]
    cases hesc with
    | longNumber hkind hlong => exact ⟨hkind, hlong⟩
    | sourceName htext' => simp [htext] at htext'
    | sourceHalves htext' => simp [htext] at htext'
    | image htext' => simp [htext] at htext'
    | imageName htext' => simp [htext] at htext'
  | noSource htext hwrite hsource =>
    rw [hsource.aborts_iff]
    cases hesc with
    | longNumber hkind hlong => exact absurd ⟨hkind, hlong⟩ (not_long_of_textOf htext)
    | sourceName _ _ hname => exact .inl hname
    | sourceHalves htext' _ hhalves hstores =>
      rw [htext] at htext'
      cases htext'
      exact .inr ⟨hhalves, _, hstores⟩
    | image htext' hsource' =>
      rw [htext] at htext'
      cases htext'
      exact absurd hsource' (hsource.not_sourceReady hwrite)
    | imageName htext' hsource' =>
      rw [htext] at htext'
      cases htext'
      exact absurd hsource' (hsource.not_sourceReady hwrite)
  | drawn htext hsource hdraws =>
    rw [aborts_map, hdraws.aborts_iff]
    cases hesc with
    | longNumber hkind hlong => exact absurd ⟨hkind, hlong⟩ (not_long_of_textOf htext)
    | sourceName _ hwrite hname => exact absurd (.inl hname) (hsource.not_aborts hwrite)
    | sourceHalves htext' hwrite hhalves hstores =>
      rw [htext] at htext'
      cases htext'
      exact absurd (.inr ⟨hhalves, _, hstores⟩) (hsource.not_aborts hwrite)
    | image htext' hsource' himage =>
      rw [htext] at htext'
      cases htext'
      rw [hsource.unique hsource']
      exact .inl himage
    | imageName htext' hsource' himage hname =>
      rw [htext] at htext'
      cases htext'
      rw [hsource.unique hsource']
      exact .inr ⟨⟨_, himage⟩, hname⟩

/-! ### Batches -/

/-- The studio after something was told of a result. -/
def noted (y : Ref .system) (r : ExportResult) (s : Studio) : Studio :=
  { s with host := { s.host with notes := s.host.notes ++
    [ExportPlan.resultNote (s.model.system y).name r] } }

/-- **A batch in which each diagram is attempted**, from the state that the attempt before it left, and its record
answered. -/
inductive Exports (e : Exporter) (y : Ref .system) (directory : FilePath) (writeSource : Bool) :
    Studio → List DiagramKind → List ExportResult → Studio → Prop
  | nil (s : Studio) : Exports e y directory writeSource s [] [] s
  | cons {s t u : Studio} {kind : DiagramKind} {kinds : List DiagramKind} {r r' : ExportResult}
    {rs : List ExportResult} {o : Except Fault Unit}
    (hends : Attempts e y directory writeSource s kind r o t.host.world) (hrecord : r.record o = .ok r')
    (hrun : ((e.plan y).exportOne directory writeSource kind).run s = (.ok r', t))
    (hrest : Exports e y directory writeSource (noted y r' t) kinds rs u) :
    Exports e y directory writeSource s (kind :: kinds) (r' :: rs) u

/-- A record is of the kind that was attempted. -/
theorem Attempts.kind_eq (h : Attempts e y directory writeSource s kind r o w) : r.kind = kind := by
  cases h <;> rfl

/-- There is one record for each kind, in order. -/
theorem Exports.map_kind {kinds : List DiagramKind} {rs : List ExportResult}
    (h : Exports e y directory writeSource s kinds rs t) : rs.map (·.kind) = kinds := by
  induction h with
  | nil s => rfl
  | cons hends hrecord hrun hrest ih =>
    rw [List.map_cons, ih, ExportResult.kind_of_record hrecord, hends.kind_eq]

/-- After the first record, a batch by a plan that names a system of the studio goes on with the kinds that are left. -/
theorem run_exportAll_of_plan {p : ExportPlan Studio} {kinds : List DiagramKind}
    (hname : p.name.run t = (.ok (t.model.system y).name, t))
    (hnote : ∀ n, (p.onHost (Host.note n.level n.origin n.text)).run t =
      (.ok (), { t with host := { t.host with notes := t.host.notes ++ [n] } }))
    (hrun : (p.exportOne directory writeSource kind).run s = (.ok r, t)) :
    (p.exportAll directory writeSource (kind :: kinds)).run s =
      Prod.map (Except.map (r :: ·)) id ((p.exportAll directory writeSource kinds).run (noted y r t)) := by
  rw [ExportPlan.exportAll]
  refine (Step.run_bind_of_ok hrun _).trans ?_
  refine (Step.run_bind_of_ok hname _).trans ?_
  refine (Step.run_bind_of_ok (hnote _) _).trans ?_
  rcases hrest : (p.exportAll directory writeSource kinds).run (noted y r t) with ⟨f | rs, u⟩
  · exact Step.run_bind_of_error hrest _
  · exact Step.run_bind_of_ok hrest _

/-- If the first attempt ends the batch, nothing is answered. -/
theorem run_exportAll_of_error {kinds : List DiagramKind} {f : Fault}
    (hrun : ((e.plan y).exportOne directory writeSource kind).run s = (.error f, t)) :
    ((e.plan y).exportAll directory writeSource (kind :: kinds)).run s = (.error f, t) :=
  Step.run_bind_of_error hrun _

/-- After the first record, a batch goes on with the kinds that are left. -/
theorem run_exportAll_of_ok {kinds : List DiagramKind}
    (hrun : ((e.plan y).exportOne directory writeSource kind).run s = (.ok r, t)) :
    ((e.plan y).exportAll directory writeSource (kind :: kinds)).run s =
      Prod.map (Except.map (r :: ·)) id
        (((e.plan y).exportAll directory writeSource kinds).run (noted y r t)) :=
  run_exportAll_of_plan rfl (fun _ => rfl) hrun

/-- **A batch answers its records** if each of its diagrams is attempted, and only then. -/
theorem run_exportAll_iff {kinds : List DiagramKind} {rs : List ExportResult} :
    ((e.plan y).exportAll directory writeSource kinds).run s = (.ok rs, t) ↔
      Exports e y directory writeSource s kinds rs t := by
  induction kinds generalizing s rs with
  | nil =>
    refine ⟨fun h => ?_, fun h => ?_⟩
    · cases h
      exact .nil _
    · cases h
      rfl
  | cons kind kinds ih =>
    -- the first attempt either leaves a record, after which the rest is a batch, or ends everything
    obtain ⟨r, o, u, hends, -, hrun⟩ := exists_attempts e y directory writeSource s kind
    cases hrecord : r.record o with
    | error f =>
      rw [hrecord] at hrun
      refine ⟨fun h => ?_, fun h => ?_⟩
      · simp [run_exportAll_of_error hrun] at h
      · cases h with
        | cons _ _ hrun' => simp [hrun] at hrun'
    | ok r' =>
      rw [hrecord] at hrun
      refine ⟨fun h => ?_, fun h => ?_⟩
      · rw [run_exportAll_of_ok hrun] at h
        rcases hrest : ((e.plan y).exportAll directory writeSource kinds).run (noted y r' u) with ⟨f | rs', t'⟩
        · rw [hrest] at h
          cases h
        · rw [hrest] at h
          cases h
          exact .cons hends hrecord hrun (ih.mp hrest)
      · cases h with
        | cons _ _ hrun' hrest =>
          rw [hrun] at hrun'
          cases hrun'
          rw [run_exportAll_of_ok hrun, ih.mpr hrest]
          rfl

/-- If a batch answers no records, there is a diagram in it whose attempt ended it. -/
theorem exists_escapes_of_error {kinds : List DiagramKind} {f : Fault}
    (h : ((e.plan y).exportAll directory writeSource kinds).run s = (.error f, t)) :
    ∃ pre kind post rs u, kinds = pre ++ kind :: post ∧ Exports e y directory writeSource s pre rs u ∧
      Escapes e y directory writeSource u kind ∧
      ((e.plan y).exportOne directory writeSource kind).run u = (.error f, t) := by
  induction kinds generalizing s with
  | nil => cases h
  | cons kind kinds ih =>
    obtain ⟨r, o, u, hends, -, hrun⟩ := exists_attempts e y directory writeSource s kind
    cases hrecord : r.record o with
    | error f' =>
      rw [hrecord] at hrun
      rw [run_exportAll_of_error hrun] at h
      cases h
      refine ⟨[], kind, kinds, [], s, rfl, .nil s, hends.escapes ?_, hrun⟩
      have habort : Aborts (r.record o) := by
        rw [hrecord, aborts_error]
        exact ExportResult.isDiagram_of_record hrecord
      exact ExportResult.aborts_record.mp habort
    | ok r' =>
      rw [hrecord] at hrun
      rw [run_exportAll_of_ok hrun] at h
      rcases hrest : ((e.plan y).exportAll directory writeSource kinds).run (noted y r' u) with ⟨f' | rs', t'⟩
      · rw [hrest] at h
        cases h
        obtain ⟨pre, kind', post, rs, v, rfl, hpre, hesc, hone⟩ := ih hrest
        exact ⟨kind :: pre, kind', post, r' :: rs, v, rfl, .cons hends hrecord hrun hpre, hesc, hone⟩
      · rw [hrest] at h
        cases h

/-- A diagram whose attempt ends the batch is not in a batch that answers its records. -/
theorem Exports.not_escapes {pre post : List DiagramKind} {rs rs' : List ExportResult} {u : Studio}
    (hall : Exports e y directory writeSource s (pre ++ kind :: post) rs t)
    (hpre : Exports e y directory writeSource s pre rs' u) :
    ¬Escapes e y directory writeSource u kind := by
  induction hpre generalizing rs with
  | nil s =>
    intro hesc
    cases hall with
    | cons hends hrecord =>
      have habort := hesc.aborts hends
      rw [← ExportResult.aborts_record, hrecord] at habort
      exact not_aborts_ok _ habort
  | cons _ _ hrun _ ih =>
    cases hall with
    | cons _ _ hrun' hrest =>
      rw [hrun] at hrun'
      cases hrun'
      exact ih hrest

/-- A batch answers no records if and only if there is a diagram in it whose attempt ends it. -/
theorem exists_error_iff {kinds : List DiagramKind} :
    (∃ f t, ((e.plan y).exportAll directory writeSource kinds).run s = (.error f, t)) ↔
      ∃ pre kind post rs u, kinds = pre ++ kind :: post ∧ Exports e y directory writeSource s pre rs u ∧
        Escapes e y directory writeSource u kind := by
  constructor
  · rintro ⟨f, t, h⟩
    obtain ⟨pre, kind, post, rs, u, hkinds, hpre, hesc, -⟩ := exists_escapes_of_error h
    exact ⟨pre, kind, post, rs, u, hkinds, hpre, hesc⟩
  · rintro ⟨pre, kind, post, rs, u, rfl, hpre, hesc⟩
    rcases h : ((e.plan y).exportAll directory writeSource (pre ++ kind :: post)).run s with ⟨f | rs', t⟩
    · exact ⟨f, t, rfl⟩
    · exact absurd hesc ((run_exportAll_iff.mp h).not_escapes hpre)

/-! ### The kinds that are asked for -/

/-- Values that name kinds are taken for them. -/
theorem kindsOf_of_known {vs : List Value} {kinds : List DiagramKind}
    (h : vs.map DiagramKind.of? = kinds.map some) : ExportPlan.kindsOf vs = .ok kinds := by
  have hunknown : (vs.filter fun v => (DiagramKind.of? v).isNone) = [] := by
    rw [List.filter_eq_nil_iff]
    intro v hv hnone
    have hmem : DiagramKind.of? v ∈ kinds.map some := h ▸ List.mem_map_of_mem hv
    obtain ⟨kind, -, hkind⟩ := List.mem_map.mp hmem
    simp [← hkind] at hnone
  have hknown : vs.filterMap DiagramKind.of? = kinds := by
    have hall : (vs.map DiagramKind.of?).filterMap id = (kinds.map some).filterMap id := congrArg _ h
    simpa [List.filterMap_map, Function.comp_def] using hall
  rw [ExportPlan.kindsOf, hunknown, hknown]

/-- If one of some values names no kind, they are refused as a whole. -/
theorem exists_kindsOf_of_unknown {vs : List Value} (h : ∃ v ∈ vs, DiagramKind.of? v = none) :
    ∃ f, (f = .longNumber ∨ f = .unknownKinds (vs.filter fun v => (DiagramKind.of? v).isNone)) ∧
      ExportPlan.kindsOf vs = .error f := by
  obtain ⟨v, hv, hnone⟩ := h
  have hmem : v ∈ vs.filter fun v => (DiagramKind.of? v).isNone := List.mem_filter.mpr ⟨hv, by simp [hnone]⟩
  cases hunknown : vs.filter fun v => (DiagramKind.of? v).isNone with
  | nil => simp [hunknown] at hmem
  | cons v' vs' =>
    rw [ExportPlan.kindsOf, hunknown]
    cases hlong : Value.anyLongNumber (v' :: vs') with
    | true => exact ⟨.longNumber, .inl rfl, by simp [hlong]⟩
    | false => exact ⟨_, .inr rfl, by simp [hlong]⟩

/-- Kinds that are taken are those that the values name. -/
theorem eq_filterMap_of_kindsOf {vs : List Value} {kinds : List DiagramKind}
    (h : ExportPlan.kindsOf vs = .ok kinds) : kinds = vs.filterMap DiagramKind.of? := by
  rw [ExportPlan.kindsOf] at h
  split at h
  · exact (Except.ok.inj h).symm
  · cases h

/-- An export of kinds that are taken is their batch. -/
theorem run_of_kindsOf {vs : List Value} {kinds : List DiagramKind} (h : ExportPlan.kindsOf vs = .ok kinds)
    (s : Studio) : (e.run y directory vs writeSource).run s =
      ((e.plan y).exportAll directory writeSource kinds).run s := by
  rw [run, ExportPlan.run, h]
  rfl

/-- An export of kinds that are refused is nothing but that. -/
theorem run_of_unknown {vs : List Value} {f : Fault} (h : ExportPlan.kindsOf vs = .error f) (s : Studio) :
    (e.run y directory vs writeSource).run s = (.error f, s) := by
  rw [run, ExportPlan.run, h]
  rfl

/-- Without an image, an attempt that stores nothing beside it ends with the fault of the renderer and leaves the world
as it is. -/
theorem Attempts.eq_of_imageIn {text : String} {f : Fault}
    (h : Attempts e y directory false s kind r o w) (htext : Diagram.textOf s.model y kind = .ok text)
    (himage : (s.renderer (e.diagram y kind).renderer).imageIn s.host text = .error f) :
    o = .error f ∧ w = s.host.world := by
  obtain ⟨p, hdraws, rfl⟩ := h.exists_draws htext
  cases hdraws with
  | noImage himage' =>
    rw [himage] at himage'
    cases himage'
    exact ⟨rfl, rfl⟩
  | nothing himage' => simp [himage] at himage'
  | stores himage' => simp [himage] at himage'

/-- A studio with a layout engine that draws, without an archive, and with a server whose addresses are too long. -/
def longAddressStudio (m : Model) : Studio where
  model := m
  renderers := ⟨[.usualForGraphs, .plantUml { settings := some (.usual {}), jarUsable := some false }]⟩
  host := { draws := .drawn [60], fetches := .raised ⟨"InvalidURL", "URL too long"⟩ }

end Exporter

end Landscape
