import Landscape.Proofs.Export.Calls
import Landscape.Proofs.Export.Files

/-!
# The images of a batch

A diagram that was drawn has its image stored. What a batch does after that is done to other files, as long as no kind of
diagram comes twice: so at the end each image is still there, as the renderer produced it
(`Landscape.Exporter.Exports.exists_image`).
-/

namespace Landscape

variable {fs fs' : FileSystem} {here q : List String} {p : FilePath} {name : String}

/-- A file in a directory stays what it is, if the paths at which files change lead apart from it. -/
theorem FileSystem.ChangesOnlyAt.fileOf?_inside {ps : List FilePath} (h : FileSystem.ChangesOnlyAt here ps fs fs')
    (hname : name ≠ "..") (hapart : ∀ p' ∈ ps, (p.inside name).Apart p') {bytes : List UInt8}
    (hfile : fs.fileOf? here (p.inside name) = some bytes) : fs'.fileOf? here (p.inside name) = some bytes := by
  obtain ⟨q, hq⟩ := FileSystem.exists_leads_of_fileOf? hfile
  have hq' := FileSystem.leads_of_keepsDirectories h.keeps hq
  rw [FileSystem.fileOf?_of_leads FilePath.parts_inside hname hq] at hfile
  rw [FileSystem.fileOf?_of_leads FilePath.parts_inside hname hq', h.file?_eq q fun p' hp' => ?_, hfile]
  exact (hapart p' hp').not_leads hq'

/-! ### Renderers of images -/

namespace Studio

variable {r r' : RendererRef} {s : Studio}

/-- A renderer that draws images, and does not just remember what was to be drawn. -/
def DrawsImages (s : Studio) (r : RendererRef) : Prop :=
  ∀ m, s.renderer r ≠ .memory m

/-- Where a renderer that draws images is put, there is one, and elsewhere there is none that was not there before. -/
theorem DrawsImages.putRenderer {k : Renderer} (hr : s.DrawsImages r) (hk : r' = r → ∀ m, k ≠ .memory m) (h : Host) :
    (s.putRenderer r' k h).DrawsImages r := by
  intro m
  by_cases hsame : r' = r
  · subst hsame
    by_cases hlt : r'.index < s.renderers.size
    · have hput : (s.putRenderer r' k h).renderer r' = k := s.renderers.get_modify_self _ hlt
      rw [hput]
      exact hk rfl m
    · have hsize : (s.putRenderer r' k h).renderers.size ≤ r'.index := by
        show (s.renderers.modify _ _).size ≤ _
        rw [Table.size_modify]
        exact Nat.le_of_not_lt hlt
      rw [renderer_of_size_le hsize]
      exact nofun
  · rw [renderer_putRenderer_of_ne hsame]
    exact hr m

/-- A drawing makes no renderer of images one that remembers. -/
theorem Renderer.ne_memory_of_draw {k : Renderer} (hk : ∀ m, k ≠ .memory m) (source : String) (format : Choice)
    (target : FilePath) (h : Host) (m : Memory) :
    ((Landscape.Renderer.draw source format target).run (k, h)).2.1 ≠ .memory m := by
  rw [Landscape.Renderer.draw, Step.run_bind_of_ok (Step.run_get _)]
  rcases k with engine | k | m'
  · rintro ⟨⟩
  · rintro ⟨⟩
  · exact absurd rfl (hk m')

/-- A studio in which a renderer still draws images, if it did in another. -/
def StillDraws (r : RendererRef) (s t : Studio) : Prop :=
  s.DrawsImages r → t.DrawsImages r

instance : Std.Refl (StillDraws r) :=
  ⟨fun _ h => h⟩

instance : IsTrans Studio (StillDraws r) where
  trans _ _ _ hst htu h := htu (hst h)

/-- Whatever is done with renderers, those that draw images still do. -/
theorem frames_stillDraws (r r' : RendererRef) : Frames (StillDraws r) r' where
  onHost act _ s h := h
  drawSvg text s h := by
    rcases hk : s.renderer r' with engine | k | m
    · rw [drawSvg, Step.run_bind_of_ok (Step.run_get _), hk]
      exact h
    · rw [run_drawSvg hk]
      refine h.putRenderer (fun _ m hm => ?_) _
      cases hm
    · rw [drawSvg, Step.run_bind_of_ok (Step.run_get _), hk]
      exact h
  draw source format target s h :=
    h.putRenderer (fun hsame m => Renderer.ne_memory_of_draw (hsame ▸ h) source format target s.host m) _

end Studio

/-! ### Batches -/

namespace Exporter

open Studio ExportPlan

variable {e : Exporter} {y : Ref .system} {directory : FilePath} {writeSource : Bool} {s t : Studio}
  {kinds : List DiagramKind} {rs : List ExportResult} {r : ExportResult}

/-- What a batch leaves. -/
theorem Exports.leaves (h : Exports e y directory writeSource s kinds rs t) :
    Leaves (kinds.flatMap (filesFor directory (s.model.system y).name writeSource)) s t := by
  have hleaves := leaves_exportAll e y directory writeSource kinds s
  rwa [run_exportAll_iff.mpr h] at hleaves

/-- Renderers of images still are ones after a batch. -/
theorem Exports.drawsImages {ref : RendererRef} (h : Exports e y directory writeSource s kinds rs t)
    (hs : s.DrawsImages ref) : t.DrawsImages ref := by
  induction h with
  | nil s => exact hs
  | @cons s t u kind kinds r r' rs o hends hrecord hrun hrest ih =>
    have hkeeps := (frames_stillDraws ref (e.diagram y kind).renderer).keeps_exportOne directory writeSource s hs
    rw [hrun] at hkeeps
    exact ih hkeeps

/-- **A record of a batch comes from an attempt** after some others and before the rest. -/
theorem Exports.exists_split (h : Exports e y directory writeSource s kinds rs t) (hr : r ∈ rs) :
    ∃ pre post rs₁ rs₂ u v r₀ o, kinds = pre ++ r.kind :: post ∧
      Exports e y directory writeSource s pre rs₁ u ∧ Attempts e y directory writeSource u r.kind r₀ o v.host.world ∧
      r₀.record o = .ok r ∧ ((e.plan y).exportOne directory writeSource r.kind).run u = (.ok r, v) ∧
      Exports e y directory writeSource (noted y r v) post rs₂ t := by
  induction h with
  | nil s => cases hr
  | @cons s v t kind kinds r₀ r' rs o hends hrecord hrun hrest ih =>
    rcases List.mem_cons.mp hr with rfl | hr
    · have hkind : r.kind = kind := (ExportResult.kind_of_record hrecord).trans hends.kind_eq
      rw [← hkind] at hends hrun ⊢
      exact ⟨[], kinds, [], rs, s, v, r₀, o, rfl, .nil s, hends, hrecord, hrun, hrest⟩
    · obtain ⟨pre, post, rs₁, rs₂, u, v', r₁, o', rfl, hpre, hends', hrecord', hrun', hpost⟩ := ih hr
      exact ⟨kind :: pre, post, r' :: rs₁, rs₂, u, v', r₁, o', rfl, .cons hends hrecord hrun hpre, hends', hrecord',
        hrun', hpost⟩

/-- **An image of a batch**: after the diagrams before it, and after its text was stored if that was wanted, the renderer
of a diagram produced it from the text. -/
def Rendered (e : Exporter) (y : Ref .system) (directory : FilePath) (writeSource : Bool) (s : Studio)
    (kinds : List DiagramKind) (r : ExportResult) (image : List UInt8) : Prop :=
  ∃ pre post rs u text h, kinds = pre ++ r.kind :: post ∧ Exports e y directory writeSource s pre rs u ∧
    r.source = some text ∧
    (if writeSource then storeSource (sourceTarget directory (s.model.system y).name r.kind) text
      else pure () : Step Fault Host Unit).run u.host = (.ok (), h) ∧
    (u.renderer (e.diagram y r.kind).renderer).Produces h text image

/-- An attempt whose record says that the diagram was drawn has succeeded, and the record is its own. -/
theorem eq_of_record_isOk {r₀ : ExportResult} {o : Except Fault Unit} (hrecord : r₀.record o = .ok r)
    (hok : r.isOk = true) : o = .ok () ∧ r₀ = r := by
  rcases o with f | u
  · cases f <;> cases hrecord
    cases hok
  · cases hrecord
    exact ⟨rfl, rfl⟩

/-- **At the end of a batch every image is there**: if no kind comes twice, each diagram that was drawn has its file, and
this holds what its renderer produced. -/
theorem Exports.exists_image (h : Exports e y directory writeSource s kinds rs t) (hnodup : kinds.Nodup)
    (hdraws : ∀ kind ∈ kinds, s.DrawsImages (e.diagram y kind).renderer) (hr : r ∈ rs) (hok : r.isOk = true) :
    r.target = target directory (s.model.system y).name r.kind ∧
      ∃ image, Rendered e y directory writeSource s kinds r image ∧
        t.host.files.fileOf? s.host.here r.target = some image := by
  obtain ⟨pre, post, rs₁, rs₂, u, v, r₀, o, rfl, hpre, hends, hrecord, hrun, hpost⟩ := h.exists_split hr
  obtain ⟨rfl, rfl⟩ := eq_of_record_isOk hrecord hok
  have hleaves := hpre.leaves
  have hdrawn : u.DrawsImages (e.diagram y r₀.kind).renderer :=
    hpre.drawsImages (hdraws r₀.kind (by simp))
  obtain ⟨text, fs, image, htext, hfile, hready, hproduces, hstores⟩ := hends.exists_stores hdrawn
  obtain ⟨htarget, -, -⟩ := hends.files_eq
  rw [hleaves.model] at htarget
  refine ⟨htarget, image, ⟨pre, post, rs₁, u, text, _, rfl, hpre, htext, ?_, hproduces⟩, ?_⟩
  · rw [← hleaves.model]
    exact hready.run_eq
  · -- the image is there after the attempt, and the rest of the batch leaves it alone
    have hone := leaves_exportOne e y directory writeSource r₀.kind u
    rw [hrun] at hone
    have hmodel : v.model = s.model := hone.model.trans hleaves.model
    have hhere : v.host.here = s.host.here := hone.here.trans hleaves.here
    have hrest := hpost.leaves.files
    have hsvg : ".svg" ∈ r₀.kind.endings := List.mem_cons_self
    have hinside : r₀.target = (folder directory (s.model.system y).name).inside
        (fileName (s.model.system y).name r₀.kind ".svg") := htarget.trans (file_eq_inside hsvg)
    obtain ⟨q, hleads, himage, -⟩ := hstores.exists_leads
    rw [hinside] at hleads ⊢
    rw [hleaves.here] at hleads
    refine FileSystem.ChangesOnlyAt.fileOf?_inside (hhere ▸ hrest) (fileName_ne_up hsvg) ?_ ?_
    · intro p hp
      obtain ⟨kind, hkind, hmem⟩ := List.mem_flatMap.mp hp
      obtain ⟨ending, hending, -, rfl⟩ := mem_filesFor hmem
      have hname : ((noted y r₀ v).model.system y).name = (s.model.system y).name := by
        show (v.model.system y).name = _
        rw [hmodel]
      rw [hname, ← file_eq_inside hsvg]
      refine apart_file hsvg hending fun heq => ?_
      obtain ⟨hsame, -⟩ := Prod.mk.inj heq
      obtain ⟨-, hlast, -⟩ := List.nodup_append.mp hnodup
      rw [← hsame] at hkind
      exact (List.nodup_cons.mp hlast).1 hkind
    · exact (FileSystem.fileOf?_of_leads FilePath.parts_inside (fileName_ne_up hsvg) hleads).trans himage

end Exporter

end Landscape
