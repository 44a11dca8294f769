import Landscape.Proofs.Host.Storing
import Landscape.Proofs.Render.Drawing
import Landscape.Render.Basic

/-!
# What a renderer makes of a text

A renderer first makes an image and then stores it. The image depends on the world and on the text
(`Landscape.Renderer.imageIn`), and only after it is there as a whole is anything stored. So a drawing ends in one of
three ways (`Landscape.Renderer.Draws`): there is no image, there is nothing to store, or the image is stored for better
or worse.

Nothing of this depends on the kind of the renderer, and so what is said of drawings from here on is said of all
renderers at once.
-/

namespace Landscape

variable {w : Host} {f : Fault}

/-! ### Images -/

/-- The image that a layout engine answers. -/
def imageOfLayout (engine : Value) : LayoutOutcome → Except Fault (List UInt8)
  | .drawn image => .ok image
  | .missing => .error (.render (.noEngine engine.display))
  | .failed f => .error (.render (.layout f))
  | .raised f => .error (.foreign f)

/-- What a layout engine makes of a DOT text. -/
def dotImageIn (engine : Value) (w : Host) : Except Fault (List UInt8) := do
  let _ ← engineOf engine
  imageOfLayout engine w.draws

theorem reads_dotImage (engine : Value) (text : String) :
    Host.Reads (dotImage engine text .svg) w (dotImageIn engine w) := by
  refine Host.Reads.bind (Step.answers_pure ()) ?_
  rw [dotImageIn]
  cases hengine : engineOf engine with
  | error f => exact (hengine ▸ Host.reads_of (engineOf engine)).bind_error
  | ok name =>
    refine (hengine ▸ Host.reads_of (engineOf engine)).bind ?_
    refine (Host.reads_draw _ _ _).bind ?_
    show Host.Reads _ w (imageOfLayout engine w.draws)
    cases w.draws <;> exact Host.reads_of _

namespace PlantUml

/-- The image that a renderer makes of a PlantUML text. -/
def Renderer.imageIn (k : Renderer) (w : Host) (text : String) : Except Fault (List UInt8) := do
  let svg ← k.svgIn w text
  (charsIn svg).map Utf8.encode

theorem finds_image (k : Renderer) (w : Host) (text : String) :
    Finds (image text .svg) k w (k.imageIn w text) fun _ => True := by
  refine (finds_pure (p := (k = ·)) () rfl).bind ?_
  rintro _ rfl
  have hsvg := finds_drawSvg k w text
  rw [Renderer.imageIn]
  cases h : k.svgIn w text with
  | error f => exact (h ▸ hsvg).bind_error
  | ok svg => exact (h ▸ hsvg).bind fun k' _ => ⟨k', Step.answers_bytesOf svg, trivial⟩

end PlantUml

/-- **What a renderer makes of a text**: the image to be stored, if anything is to be stored. -/
def Renderer.imageIn (k : Renderer) (w : Host) (text : String) : Except Fault (Option (List UInt8)) :=
  match k with
  | .graphviz engine => (dotImageIn engine w).map some
  | .plantUml k => (k.imageIn w text).map some
  | .memory m => if m.writesSource then (charsIn text).map (some ∘ Utf8.encode) else .ok none

/-- A renderer of images **produces** an image from a text on a host. -/
def Renderer.Produces (k : Renderer) (h : Host) (text : String) (image : List UInt8) : Prop :=
  match k with
  | .graphviz engine => ∃ t, (dotImage engine text .svg).run h = (.ok image, t)
  | .plantUml k => ∃ t, (PlantUml.image text .svg).run (k, h) = (.ok image, t)
  | .memory _ => False

/-- What a renderer of images makes of a text is what it produces. -/
theorem Renderer.exists_produces {k : Renderer} (hk : ∀ m, k ≠ .memory m) {h : Host} {text : String}
    {image? : Option (List UInt8)} (himage : k.imageIn h text = .ok image?) :
    ∃ image, image? = some image ∧ k.Produces h text image := by
  cases k with
  | graphviz engine =>
    obtain ⟨t, hrun, -⟩ := (reads_dotImage (w := h) engine text).exists_run rfl
    have hmap : (dotImageIn engine h).map some = .ok image? := himage
    cases hdot : dotImageIn engine h with
    | error f => simp [hdot, Except.map] at hmap
    | ok image =>
      rw [hdot] at hmap hrun
      cases hmap
      exact ⟨image, rfl, t, hrun⟩
  | plantUml k =>
    obtain ⟨k', hfinds, -⟩ := PlantUml.finds_image k h text
    obtain ⟨t, hrun, -⟩ := hfinds.exists_run (s := (k, h)) rfl
    have hmap : (k.imageIn h text).map some = .ok image? := himage
    cases hsvg : k.imageIn h text with
    | error f => simp [hsvg, Except.map] at hmap
    | ok image =>
      rw [hsvg] at hmap hrun
      cases hmap
      exact ⟨image, rfl, t, hrun⟩
  | memory m => exact absurd rfl (hk m)

theorem PlantUml.Renderer.svgIn_world (k : PlantUml.Renderer) (w : Host) (text : String) :
    k.svgIn w.world text = k.svgIn w text := by
  have hsettings : k.settingsIn w.world = k.settingsIn w := by
    rw [settingsIn, settingsIn, (Settings.reads_load none w w.world rfl).1]
  rw [svgIn, svgIn, hsettings]
  rfl

/-- An image depends on the world alone. -/
theorem Renderer.imageIn_world (k : Renderer) (w : Host) (text : String) :
    k.imageIn w.world text = k.imageIn w text := by
  cases k with
  | graphviz engine => rfl
  | plantUml k =>
    rw [imageIn, imageIn, PlantUml.Renderer.imageIn, PlantUml.Renderer.imageIn, k.svgIn_world]
  | memory m => rfl

/-! ### Storing an image -/

/-- What it means for a diagram that a file cannot be stored. -/
def storingFault (refused : FileFault → RenderFault) : AccessFault → Fault
  | .file f => .render (refused f)
  | f => .access f

/-- Storing that fails ends a batch if a name was met that no file can have. -/
theorem Host.Stores.aborts_iff {files fs : FileSystem} {place : List String} {p : FilePath}
    {bytes : List UInt8} {r : Except AccessFault Unit} (hs : Stores files place p bytes r fs)
    (refused : FileFault → RenderFault) :
    Aborts (r.mapError (storingFault refused)) ↔ NoPlace files place p := by
  rw [hs.noPlace_iff]
  cases r with
  | ok u => simp [Except.mapError]
  | error f => cases f <;> simp [Except.mapError, storingFault, Fault.isDiagram, Fault.render]

/-- **Storing an image** ends as storing a file does. -/
theorem exists_run_storeImage (h : Host) (target : FilePath) (image : List UInt8) :
    ∃ r fs h', Host.Stores h.files h.here target image r fs ∧ h'.world = { h.world with files := fs } ∧
      (storeImage target image).run h =
        ((r.mapError (storingFault (.unwritable target))).map fun _ => target, h') := by
  obtain ⟨r, fs, hstores, hrun⟩ := Host.exists_stores h target image
  cases r with
  | error f =>
    refine ⟨_, fs, { h with files := fs }, hstores, rfl, ?_⟩
    refine Step.run_bind_of_error ?_ _
    rw [Step.run_blame, hrun]
    cases f <;> rfl
  | ok u =>
    have hrest : Host.Reads (do
        let place ← Host.absolute target
        Host.note .info .renderer s!"Diagram written to {place}"
        return target : Step Fault Host FilePath) { h with files := fs } (.ok target) :=
      (Host.reads_absolute _).bind ((Host.reads_note _ _ _).bind (Step.answers_pure _))
    obtain ⟨h', hrun', hworld⟩ := hrest.exists_run rfl
    refine ⟨_, fs, h', hstores, hworld, (Step.run_bind_of_ok (a := ()) ?_ _).trans hrun'⟩
    rw [Step.run_blame, hrun]
    rfl

/-! ### Drawing -/

/-- **How a drawing ends**: what the renderer answers, and the world it leaves. -/
inductive Renderer.Draws (k : Renderer) (w : Host) (text : String) (target : FilePath) :
    Except Fault FilePath → Host → Prop
  /-- There is no image. -/
  | noImage {f : Fault} (himage : k.imageIn w text = .error f) : Draws k w text target (.error f) w.world
  /-- There is nothing to store. -/
  | nothing (himage : k.imageIn w text = .ok none) : Draws k w text target (.ok target) w.world
  /-- The image is stored, or cannot be stored. -/
  | stores {image : List UInt8} {r : Except AccessFault Unit} {fs : FileSystem}
    (himage : k.imageIn w text = .ok (some image)) (hstores : Host.Stores w.files w.here target image r fs) :
    Draws k w text target ((r.mapError (storingFault (.unwritable target))).map fun _ => target)
      { w.world with files := fs }

namespace Renderer

/-- So does a drawing. -/
theorem Draws.of_world {k : Renderer} {w w' : Host} {text : String} {target : FilePath}
    {r : Except Fault FilePath} {left : Host} (h : k.Draws w text target r left)
    (hworld : w.world = w'.world) : k.Draws w' text target r left := by
  have himage : k.imageIn w text = k.imageIn w' text := by
    rw [← k.imageIn_world, hworld, k.imageIn_world]
  cases h with
  | noImage h =>
    rw [hworld]
    exact .noImage (himage ▸ h)
  | nothing h =>
    rw [hworld]
    exact .nothing (himage ▸ h)
  | stores h hstores =>
    rw [Host.files_eq_of_world hworld, Host.here_eq_of_world hworld] at hstores
    rw [hworld]
    exact .stores (himage ▸ h) hstores

variable {k : Renderer} {h : Host} {text : String}

/-- A drawing that has come by its image stores it. -/
theorem draws_storeImage {image : List UInt8} {h₁ : Host} (himage : k.imageIn h text = .ok (some image))
    (hworld : h₁.world = h.world) (target : FilePath) : ∃ r h', Draws k h text target r h'.world ∧
      (storeImage target image).run h₁ = (r, h') := by
  obtain ⟨r, fs, h', hstores, hworld', hrun⟩ := exists_run_storeImage h₁ target image
  rw [Host.files_eq_of_world hworld, Host.here_eq_of_world hworld] at hstores
  refine ⟨_, h', ?_, hrun⟩
  rw [hworld', hworld]
  exact .stores himage hstores

/-- Drawing with Graphviz. -/
theorem exists_draws_graphviz (engine : Value) (h : Host) (text : String) (target : FilePath) :
    ∃ r h', Draws (.graphviz engine) h text target r h'.world ∧
      (drawDot engine text .svg target).run h = (r, h') := by
  obtain ⟨h₁, hrun, hworld⟩ := (reads_dotImage (w := h) engine text).exists_run rfl
  have himage : imageIn (.graphviz engine) h text = (dotImageIn engine h).map some := rfl
  cases hdot : dotImageIn engine h with
  | error f =>
    rw [hdot] at hrun himage
    refine ⟨_, h₁, ?_, Step.run_bind_of_error hrun _⟩
    rw [hworld]
    exact .noImage himage
  | ok image =>
    rw [hdot] at hrun himage
    obtain ⟨r, h', hdraws, hrun'⟩ := draws_storeImage himage hworld target
    exact ⟨r, h', hdraws, (Step.run_bind_of_ok hrun _).trans hrun'⟩

/-- Drawing with PlantUML. -/
theorem exists_draws_plantUml (k : PlantUml.Renderer) (h : Host) (text : String) (target : FilePath) :
    ∃ r s, Draws (.plantUml k) h text target r s.2.world ∧
      (PlantUml.draw text .svg target).run (k, h) = (r, s) := by
  obtain ⟨k', hfinds, -⟩ := PlantUml.finds_image k h text
  obtain ⟨s₁, hrun, hs₁⟩ := hfinds.exists_run (s := (k, h)) rfl
  have hworld : s₁.2.world = h.world := congrArg Prod.snd hs₁
  have himage : imageIn (.plantUml k) h text = (k.imageIn h text).map some := rfl
  cases hsvg : k.imageIn h text with
  | error f =>
    rw [hsvg] at hrun himage
    refine ⟨_, s₁, ?_, Step.run_bind_of_error hrun _⟩
    rw [hworld]
    exact .noImage himage
  | ok image =>
    rw [hsvg] at hrun himage
    obtain ⟨r, h', hdraws, hrun'⟩ := draws_storeImage himage hworld target
    refine ⟨r, (s₁.1, h'), hdraws, (Step.run_bind_of_ok hrun _).trans ?_⟩
    rw [PlantUml.onHost, Step.run_within, hrun']

/-- Remembering what was to be drawn. -/
theorem exists_draws_memory (m : Memory) (h : Host) (text : String) (target : FilePath) :
    ∃ r s, Draws (.memory m) h text target r s.2.world ∧
      (Memory.draw text .svg target).run (m, h) = (r, s) := by
  obtain ⟨m', hstart⟩ : ∃ m', (Memory.draw text .svg target).run (m, h) = (if m.writesSource then do
      let bytes ← bytesOf text
      (storeImage target bytes).within Prod.snd fun h s => (s.1, h)
    else return target : Step Fault (Memory × Host) FilePath).run (m', h) := ⟨_, rfl⟩
  rw [hstart]
  cases hwrites : m.writesSource with
  | false => exact ⟨_, _, .nothing (by rw [imageIn, hwrites]; rfl), rfl⟩
  | true =>
    have hbytes : (bytesOf text).run (m', h) = ((charsIn text).map Utf8.encode, (m', h)) := by
      have hanswers : (bytesOf text).Answers id (m', h) _ (m', h) := Step.answers_bytesOf text
      obtain ⟨hr, hs⟩ := hanswers (m', h) rfl
      exact Prod.ext hr hs
    have himage : imageIn (.memory m) h text = (charsIn text).map (some ∘ Utf8.encode) := by
      rw [imageIn, hwrites]
      rfl
    cases hcs : charsIn text with
    | error f =>
      rw [hcs] at hbytes himage
      exact ⟨_, _, .noImage himage, Step.run_bind_of_error hbytes _⟩
    | ok cs =>
      rw [hcs] at hbytes himage
      obtain ⟨r, h', hdraws, hrun⟩ := draws_storeImage himage rfl target
      refine ⟨r, (m', h'), hdraws, (Step.run_bind_of_ok hbytes _).trans ?_⟩
      rw [Step.run_within, hrun]

/-- **Every drawing ends in one of the three ways.** -/
theorem exists_draws (k : Renderer) (h : Host) (text : String) (target : FilePath) :
    ∃ r s, Draws k h text target r s.2.world ∧ (draw text .svg target).run (k, h) = (r, s) := by
  cases k with
  | graphviz engine =>
    obtain ⟨r, h', hdraws, hrun⟩ := exists_draws_graphviz engine h text target
    refine ⟨r, (.graphviz engine, h'), hdraws, ?_⟩
    rw [draw, Step.run_bind_of_ok (Step.run_get _), Step.run_within, hrun]
  | plantUml k =>
    obtain ⟨r, s, hdraws, hrun⟩ := exists_draws_plantUml k h text target
    refine ⟨r, (.plantUml s.1, s.2), hdraws, ?_⟩
    rw [draw, Step.run_bind_of_ok (Step.run_get _), Step.run_within, hrun]
  | memory m =>
    obtain ⟨r, s, hdraws, hrun⟩ := exists_draws_memory m h text target
    refine ⟨r, (.memory s.1, s.2), hdraws, ?_⟩
    rw [draw, Step.run_bind_of_ok (Step.run_get _), Step.run_within, hrun]

end Renderer

end Landscape
