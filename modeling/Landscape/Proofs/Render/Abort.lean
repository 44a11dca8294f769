import Landscape.Proofs.Abort
import Landscape.Proofs.Render.Outcome

/-!
# What a renderer cannot tell as a fault of a diagram

Most of what can go wrong with a drawing is told as a fault of the diagram. This file lists the rest, case by case,
and shows that the list is complete: for an image of Graphviz (`Landscape.aborts_dotImageIn`), for an image of
PlantUML (`Landscape.PlantUml.Renderer.Escapes`, `Landscape.PlantUml.aborts_imageIn`) and for a whole drawing
(`Landscape.Renderer.Draws.aborts_iff`).

Three things are behind all cases. A text with halves of characters cannot be sent. A name can be one that no
file and no layout engine has. And what is outside may fail in ways of its own.
-/

namespace Landscape

variable {w : Host}

/-! ### Texts that cannot be sent -/

theorem aborts_charsIn {s : String} : Aborts (charsIn s) ↔ holdsHalves s = true := by
  rw [charsIn, Utf8.plain?, holdsHalves]
  cases Utf8.halves? s.toList with
  | none => simp [Except.mapError]
  | some f => simp [Except.mapError, Fault.isDiagram]

/-- Characters that were decoded can be sent again. -/
theorem charsIn_spelled (cs : List Char) : charsIn (String.ofList (spelled cs)) = .ok cs := by
  rw [charsIn, String.toList_ofList, Utf8.plain?_spelled]
  rfl

/-! ### Graphviz -/

theorem aborts_engineOf {engine : Value} : Aborts (engineOf engine) ↔ ∃ f, engineOf engine = .error f := by
  refine ⟨fun ⟨f, hf, _⟩ => ⟨f, hf⟩, fun ⟨f, hf⟩ => ⟨f, hf, ?_⟩⟩
  unfold engineOf at hf
  split at hf
  · cases hf
  · dsimp only at hf
    split at hf
    · cases hf
    · cases hf
      rfl
  · cases hf
    rfl

theorem aborts_imageOfLayout {engine : Value} {o : LayoutOutcome} :
    Aborts (imageOfLayout engine o) ↔ ∃ f, o = .raised f := by
  cases o <;> simp [imageOfLayout, Fault.isDiagram, Fault.render]

/-- **An image of Graphviz** ends a batch if there is no layout engine of the name, or if running it fails in a way of
its own. -/
theorem aborts_dotImageIn {engine : Value} : Aborts (dotImageIn engine w) ↔
    (∃ f, engineOf engine = .error f) ∨ ∃ f, w.draws = .raised f := by
  rw [dotImageIn, aborts_bind, aborts_engineOf]
  cases hengine : engineOf engine with
  | error f => simp
  | ok name => simp [aborts_imageOfLayout]

/-! ### PlantUML -/

namespace PlantUml

theorem aborts_svgOfRun {o : RunOutcome} : Aborts (svgOfRun o) ↔ ∃ f, o = .raised f := by
  cases o <;> simp [svgOfRun, Fault.isDiagram]

theorem aborts_svgOfAnswer {o : FetchOutcome} : Aborts (svgOfAnswer o) ↔ ∃ f, o = .raised f := by
  cases o with
  | failed message => simp [svgOfAnswer, Fault.isDiagram, Fault.render]
  | raised f => simp [svgOfAnswer, Fault.isDiagram]
  | answered status body =>
    rw [svgOfAnswer]
    split
    · simp [Fault.isDiagram, Fault.render]
    · split <;> simp [Fault.isDiagram, Fault.render]

theorem aborts_serverAddress {server : Value} :
    Aborts (serverAddress server) ↔ ∃ f, serverAddress server = .error f := by
  refine ⟨fun ⟨f, hf, _⟩ => ⟨f, hf⟩, fun ⟨f, hf⟩ => ⟨f, hf, ?_⟩⟩
  cases server <;> cases hf <;> rfl

theorem aborts_svgByJar {text : String} :
    Aborts (svgByJar w text) ↔ holdsHalves text = true ∨ ∃ f, w.runs = .raised f := by
  rw [svgByJar, aborts_bind, aborts_charsIn]
  simp only [aborts_svgOfRun]
  cases htext : holdsHalves text with
  | true => simp
  | false =>
    obtain ⟨cs, hcs⟩ := charsIn_eq_ok_iff.mpr htext
    simp [hcs]

/-- An image that the archive gives can be stored. -/
theorem exists_charsIn_of_svgByJar {text image : String} (h : svgByJar w text = .ok (some image)) :
    ∃ cs, charsIn image = .ok cs := by
  have hrun : svgOfRun w.runs = .ok (some image) := by
    rw [svgByJar] at h
    cases hcs : charsIn text with
    | error f =>
      rw [hcs] at h
      cases h
    | ok cs =>
      rw [hcs] at h
      exact h
  unfold svgOfRun at hrun
  split at hrun
  · dsimp only at hrun
    split at hrun
    · cases hrun
      exact ⟨_, charsIn_spelled _⟩
    · cases hrun
  · cases hrun
  · cases hrun

/-- **An image of the server** ends a batch if it cannot be asked, if it fails in a way of its own, or if its image cannot
be stored. -/
theorem aborts_serverImage {server : Value} {text : String} :
    Aborts (svgByServer w server text >>= fun svg => (charsIn svg).map Utf8.encode) ↔
      (∃ f, serverAddress server = .error f) ∨ holdsHalves text = true ∨ (∃ f, w.fetches = .raised f) ∨
        ∃ body, svgOfAnswer w.fetches = .ok body ∧ holdsHalves body = true := by
  rw [svgByServer, aborts_bind, aborts_bind, aborts_serverAddress]
  simp only [aborts_map, aborts_charsIn, aborts_bind, aborts_svgOfAnswer]
  cases haddress : serverAddress server with
  | error f => simp
  | ok address =>
    cases htext : holdsHalves text with
    | true => simp
    | false =>
      obtain ⟨cs, hcs⟩ := charsIn_eq_ok_iff.mpr htext
      simp [hcs]

/-- The server is asked for an image: it may be, and the archive cannot be used or gives none. -/
def Renderer.AsksServer (k : Renderer) (w : Host) (S : Settings) (text : String) : Prop :=
  S.fallback = true ∧ (k.jarUsableIn w S.jar = .ok false ∨
    k.jarUsableIn w S.jar = .ok true ∧ svgByJar w (k.layoutIn w text) = .ok none)

/-- **What ends a batch instead of being told as a fault of the diagram**, case by case. -/
inductive Renderer.Escapes (k : Renderer) (w : Host) (text : String) : Prop
  /-- The settings cannot be read, other than that they are none. -/
  | settings {f : Fault} (hS : k.settingsIn w = .error f) (hf : f.isDiagram = false)
  /-- It cannot be found out whether the archive is there. -/
  | probe {S : Settings} {f : AccessFault} (hS : k.settingsIn w = .ok S) (hk : k.jarUsable = none)
    (hjar : jarThere w S.jar = .error f)
  /-- The text cannot be sent to the archive. -/
  | unsendableToJar {S : Settings} (hS : k.settingsIn w = .ok S) (hjar : k.jarUsableIn w S.jar = .ok true)
    (htext : holdsHalves (k.layoutIn w text) = true)
  /-- Running the archive fails in a way of its own. -/
  | run {S : Settings} {f : ForeignFault} (hS : k.settingsIn w = .ok S)
    (hjar : k.jarUsableIn w S.jar = .ok true) (hruns : w.runs = .raised f)
  /-- The address of the server is none. -/
  | address {S : Settings} {f : Fault} (hS : k.settingsIn w = .ok S) (hasks : k.AsksServer w S text)
    (haddress : serverAddress S.server = .error f)
  /-- The text cannot be sent to the server. -/
  | unsendableToServer {S : Settings} (hS : k.settingsIn w = .ok S) (hasks : k.AsksServer w S text)
    (htext : holdsHalves text = true)
  /-- Asking the server fails in a way of its own. -/
  | fetch {S : Settings} {f : ForeignFault} (hS : k.settingsIn w = .ok S) (hasks : k.AsksServer w S text)
    (hfetches : w.fetches = .raised f)
  /-- The image of the server cannot be stored. -/
  | answer {S : Settings} {body : String} (hS : k.settingsIn w = .ok S) (hasks : k.AsksServer w S text)
    (hfetches : svgOfAnswer w.fetches = .ok body) (hbody : holdsHalves body = true)

variable {k : Renderer} {S : Settings} {text : String}

/-- If the server is asked, its image is the image. -/
theorem Renderer.imageIn_of_asksServer (hS : k.settingsIn w = .ok S) (hasks : k.AsksServer w S text) :
    k.imageIn w text =
      (svgByServer w S.server text >>= fun svg => (charsIn svg).map Utf8.encode) := by
  obtain ⟨hfallback, hjar | ⟨hjar, hnone⟩⟩ := hasks
  · rw [imageIn, svgIn]
    simp [hS, hjar, hfallback]
  · rw [imageIn, svgIn]
    simp [hS, hjar, hnone, hfallback]

/-- If the server is asked, what ends a batch is what does so with an image of the server. -/
theorem Renderer.aborts_imageIn_of_asksServer (hS : k.settingsIn w = .ok S) (hasks : k.AsksServer w S text) :
    Aborts (k.imageIn w text) ↔
      (∃ f, serverAddress S.server = .error f) ∨ holdsHalves text = true ∨ (∃ f, w.fetches = .raised f) ∨
        ∃ body, svgOfAnswer w.fetches = .ok body ∧ holdsHalves body = true := by
  rw [imageIn_of_asksServer hS hasks, aborts_serverImage]

/-- If the archive can be used and ends a batch, so does the image. -/
theorem aborts_of_svgByJar (hS : k.settingsIn w = .ok S) (hjar : k.jarUsableIn w S.jar = .ok true)
    (h : Aborts (svgByJar w (k.layoutIn w text))) : Aborts (k.imageIn w text) := by
  obtain ⟨f, hf, hd⟩ := h
  rw [Renderer.imageIn, Renderer.svgIn]
  simp [hS, hjar, hf, hd]

/-- With settings, an image ends a batch where the archive is looked for or run, or where the server is asked. -/
theorem Renderer.escapes_of_aborts (hS : k.settingsIn w = .ok S) (h : Aborts (k.imageIn w text)) :
    k.Escapes w text := by
  cases hjar : k.jarUsableIn w S.jar with
  | error f =>
    cases hk : k.jarUsable with
    | some b => simp [Renderer.jarUsableIn, hk] at hjar
    | none =>
      rw [Renderer.jarUsableIn, hk] at hjar
      cases hthere : jarThere w S.jar with
      | error f' => exact .probe hS hk hthere
      | ok b => simp [hthere, Except.mapError] at hjar
  | ok usable =>
    by_cases hasks : k.AsksServer w S text
    · obtain ⟨f, hf⟩ | htext | ⟨f, hf⟩ | ⟨body, hbody, hhalves⟩ :=
        (aborts_imageIn_of_asksServer hS hasks).mp h
      · exact .address hS hasks hf
      · exact .unsendableToServer hS hasks htext
      · exact .fetch hS hasks hf
      · exact .answer hS hasks hbody hhalves
    · cases usable with
      | false =>
        -- nobody is asked, and that is told as a fault of the diagram
        have hfallback : S.fallback = false := by
          by_contra hc
          exact hasks ⟨by simpa using hc, .inl hjar⟩
        rw [imageIn, svgIn] at h
        simp [hS, hjar, hfallback, Fault.isDiagram, Fault.render] at h
      | true =>
        cases hsvg : svgByJar w (k.layoutIn w text) with
        | error f =>
          have haborts : Aborts (svgByJar w (k.layoutIn w text)) := by
            rw [imageIn, svgIn] at h
            simpa [hS, hjar, hsvg] using h
          obtain htext | ⟨f, hf⟩ := aborts_svgByJar.mp haborts
          · exact .unsendableToJar hS hjar htext
          · exact .run hS hjar hf
        | ok image =>
          cases image with
          | some image =>
            obtain ⟨cs, hcs⟩ := exists_charsIn_of_svgByJar hsvg
            rw [imageIn, svgIn] at h
            simp [hS, hjar, hsvg, hcs, Except.map] at h
          | none =>
            have hfallback : S.fallback = false := by
              by_contra hc
              exact hasks ⟨by simpa using hc, .inr ⟨hjar, hsvg⟩⟩
            rw [imageIn, svgIn] at h
            simp [hS, hjar, hsvg, hfallback, Fault.isDiagram, Fault.render] at h

/-- **An image of PlantUML** ends a batch in exactly these cases. -/
theorem aborts_imageIn : Aborts (k.imageIn w text) ↔ k.Escapes w text := by
  constructor
  · intro h
    cases hS : k.settingsIn w with
    | ok S => exact Renderer.escapes_of_aborts hS h
    | error f =>
      refine .settings hS ?_
      rw [Renderer.imageIn, Renderer.svgIn] at h
      simpa [hS] using h
  · intro h
    cases h with
    | settings hS hf =>
      rw [Renderer.imageIn, Renderer.svgIn]
      simpa [hS] using hf
    | probe hS hk hjar =>
      rw [Renderer.imageIn, Renderer.svgIn]
      simp [hS, Renderer.jarUsableIn, hk, hjar, Except.mapError, Fault.isDiagram]
    | unsendableToJar hS hjar htext =>
      exact aborts_of_svgByJar hS hjar (aborts_svgByJar.mpr (.inl htext))
    | run hS hjar hruns => exact aborts_of_svgByJar hS hjar (aborts_svgByJar.mpr (.inr ⟨_, hruns⟩))
    | address hS hasks haddress =>
      exact (Renderer.aborts_imageIn_of_asksServer hS hasks).mpr (.inl ⟨_, haddress⟩)
    | unsendableToServer hS hasks htext =>
      exact (Renderer.aborts_imageIn_of_asksServer hS hasks).mpr (.inr (.inl htext))
    | fetch hS hasks hfetches =>
      exact (Renderer.aborts_imageIn_of_asksServer hS hasks).mpr (.inr (.inr (.inl ⟨_, hfetches⟩)))
    | answer hS hasks hfetches hbody =>
      exact (Renderer.aborts_imageIn_of_asksServer hS hasks).mpr (.inr (.inr (.inr ⟨_, hfetches, hbody⟩)))

end PlantUml

/-! ### All renderers -/

/-- **What ends a batch when a renderer makes an image.** -/
def Renderer.Escapes (k : Renderer) (w : Host) (text : String) : Prop :=
  match k with
  | .graphviz engine => (∃ f, engineOf engine = .error f) ∨ ∃ f, w.draws = .raised f
  | .plantUml k => k.Escapes w text
  | .memory m => m.writesSource = true ∧ holdsHalves text = true

theorem Renderer.aborts_imageIn {k : Renderer} {text : String} :
    Aborts (k.imageIn w text) ↔ k.Escapes w text := by
  cases k with
  | graphviz engine => rw [imageIn, aborts_map, aborts_dotImageIn, Escapes]
  | plantUml k => rw [imageIn, aborts_map, PlantUml.aborts_imageIn, Escapes]
  | memory m =>
    rw [imageIn, Escapes]
    cases m.writesSource with
    | true => simp [aborts_map, aborts_charsIn]
    | false => simp

/-- **A drawing ends a batch** if its image does, or if there is an image and a name for it that no file can have. -/
theorem Renderer.Draws.aborts_iff {k : Renderer} {text : String} {target : FilePath}
    {r : Except Fault FilePath} {w' : Host} (h : k.Draws w text target r w') :
    Aborts r ↔ k.Escapes w text ∨
      (∃ image, k.imageIn w text = .ok (some image)) ∧ Host.NoPlace w.files w.here target := by
  rw [← Renderer.aborts_imageIn]
  cases h with
  | noImage himage => simp [himage]
  | nothing himage => simp [himage]
  | stores himage hstores => simp [himage, aborts_map, hstores.aborts_iff]

end Landscape
