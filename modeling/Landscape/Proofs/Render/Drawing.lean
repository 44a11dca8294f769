import Landscape.Proofs.Host.Asking
import Landscape.Render.PlantUml

/-!
# What a drawing with PlantUML comes to

A drawing looks for its settings, for the archive and for Graphviz, asks the archive and then perhaps the server. All
of this only reads, and so what comes out of it is a function of the world, of what the renderer knows, and of the
text (`Landscape.PlantUml.Renderer.svgIn`), and so is what is asked on the way
(`Landscape.PlantUml.Renderer.requestsIn`), and what the renderer knows afterwards
(`Landscape.PlantUml.Renderer.afterIn`). That the steps of a drawing compute these functions is
`Landscape.PlantUml.findsBy_drawSvg`: whatever the renderer has found out earlier, and in whatever order it looks, the
settings come first.
-/

namespace Landscape

/-! ### Characters to be sent -/

/-- Whether a text holds halves of characters, for which there are no bytes. -/
def holdsHalves (s : String) : Bool :=
  (Utf8.halves? s.toList).isSome

/-- The characters of a text, if they can be sent. -/
def charsIn (s : String) : Except Fault (List Char) :=
  (Utf8.plain? s.toList).mapError fun f => .access (.unencodable f)

/-- A text can be sent if it holds no halves. -/
theorem charsIn_eq_ok_iff {s : String} : (∃ cs, charsIn s = .ok cs) ↔ holdsHalves s = false := by
  rw [charsIn, Utf8.plain?, holdsHalves]
  cases Utf8.halves? s.toList with
  | none => exact iff_of_true ⟨_, rfl⟩ rfl
  | some f =>
    refine iff_of_false ?_ (by simp)
    rintro ⟨_, ⟨⟩⟩

theorem Step.answers_charsOf {σ ν : Type} {view : σ → ν} {x : ν} (s : String) :
    Answers view (charsOf s) x (charsIn s) x :=
  answers_of _

/-- Taking the bytes of a text asks nothing. -/
theorem Step.quiet_bytesOf {σ : Type} {asked : σ → List Request} (s : String) : Quiet asked (bytesOf s) :=
  (quiet_of _).bind fun _ => quiet_pure _

theorem Step.answers_bytesOf {σ ν : Type} {view : σ → ν} {x : ν} (s : String) :
    Answers view (bytesOf s) x ((charsIn s).map Utf8.encode) x := by
  cases h : charsIn s with
  | error f => exact Answers.bind_error (h ▸ answers_charsOf s)
  | ok cs => exact Answers.bind (h ▸ answers_charsOf s) (answers_pure _)

namespace PlantUml

variable {α β : Type} {k k' : Renderer} {w : Host} {S : Settings} {f : Fault}

/-! ### The outcome -/

/-- The settings that a renderer has, or else finds. -/
def Renderer.settingsIn (k : Renderer) (w : Host) : Except Fault Settings :=
  match k.settings with
  | some S => .ok S
  | none => ((Settings.load none).run w).1.mapError settingsFault

/-- Whether there is something to run an archive at a path, and the archive. -/
def jarThere (w : Host) (jar : FilePath) : Except AccessFault Bool := do
  match ← w.found jar with
  | some (.file _) => return w.programs.contains "java"
  | _ => return false

/-- Whether a renderer takes the archive at a path for usable: it says what it said before, or else looks. -/
def Renderer.jarUsableIn (k : Renderer) (w : Host) (jar : FilePath) : Except Fault Bool :=
  match k.jarUsable with
  | some b => .ok b
  | none => (jarThere w jar).mapError .access

/-- The text that a renderer sends to the archive. -/
def Renderer.layoutIn (k : Renderer) (w : Host) (text : String) : String :=
  withLayout (k.graphvizThere.getD (w.programs.contains "dot")) text

/-- The image that a run of the archive gives, if it gives one. -/
def svgOfRun : RunOutcome → Except Fault (Option String)
  | .ended status output _ =>
    let image := spelled (Utf8.decodeLossy output)
    .ok (if status == 0 && looksLikeSvg image then some (String.ofList image) else none)
  | .raised f => .error (.foreign f)
  | _ => .ok none

/-- The image that a server answers. -/
def svgOfAnswer : FetchOutcome → Except Fault String
  | .failed message => .error (.render (.request message))
  | .raised f => .error (.foreign f)
  | .answered status body =>
    if status != 200 then .error (.render (.status status))
    else if !looksLikeSvg body.toList then .error (.render (.notImage body))
    else .ok body

/-- What the archive makes of a text. -/
def svgByJar (w : Host) (text : String) : Except Fault (Option String) := do
  let _ ← charsIn text
  svgOfRun w.runs

/-- What the server makes of a text. -/
def svgByServer (w : Host) (server : Value) (text : String) : Except Fault String := do
  let _ ← serverAddress server
  let _ ← charsIn text
  svgOfAnswer w.fetches

/-- **What a drawing comes to**, as a function of what the renderer knows, of the world and of the text. -/
def Renderer.svgIn (k : Renderer) (w : Host) (text : String) : Except Fault String := do
  let S ← k.settingsIn w
  let usable ← k.jarUsableIn w S.jar
  match ← (if usable then svgByJar w (k.layoutIn w text) else return none) with
  | some image => return image
  | none =>
    if S.fallback then svgByServer w S.server text
    else .error (.render (if usable then .jarFailed else .jarMissing S.jar.toString))

/-! ### What is asked -/

/-- What is asked about an archive at a path: for something to run it, if the archive is there. -/
def javaProbes (w : Host) (jar : FilePath) : List Request :=
  match w.found jar with
  | .ok (some (.file _)) => [.find "java"]
  | _ => []

/-- What a renderer asks about the archive at a path, which is nothing if it looked before. -/
def Renderer.jarProbes (k : Renderer) (w : Host) (jar : FilePath) : List Request :=
  match k.jarUsable with
  | some _ => []
  | none => javaProbes w jar

/-- What a renderer asks about Graphviz, which is nothing if it looked before. -/
def Renderer.layoutProbes (k : Renderer) : List Request :=
  match k.graphvizThere with
  | some _ => []
  | none => [.find "dot"]

/-- What is asked of the archive for a text, which is nothing if the text cannot be sent. -/
def jarRequests (S : Settings) (text : String) : List Request :=
  match charsIn text with
  | .ok _ => [.run (jarCommand S.jar.toString) text S.timeout]
  | .error _ => []

/-- The address at which the server has the image of a text. -/
def imageAddress (S : Settings) (text : String) : Except Fault String := do
  let server ← serverAddress S.server
  let plain ← charsIn text
  return server ++ "/svg/" ++ encode (String.ofList plain)

/-- What is asked of the server for a text, which is nothing if there is no address for it. -/
def serverRequests (S : Settings) (text : String) : List Request :=
  match imageAddress S text with
  | .ok address => [.encode text, .fetch address S.timeout]
  | .error _ => []

/-- What is asked once there is no image of the archive. -/
def fallbackRequests (S : Settings) (text : String) : List Request :=
  if S.fallback then serverRequests S text else []

/-- What is asked after the archive, by what it made of the text. -/
def requestsAfterJar (S : Settings) (text : String) : Except Fault (Option String) → List Request
  | .ok none => fallbackRequests S text
  | .ok (some _) => []
  | .error _ => []

/-- **What a drawing asks**, as a function of what the renderer knows, of the world and of the text. -/
def Renderer.requestsIn (k : Renderer) (w : Host) (text : String) : List Request :=
  match k.settingsIn w with
  | .error _ => if k.jarUsable = some true then k.layoutProbes else []
  | .ok S => k.jarProbes w S.jar ++ match k.jarUsableIn w S.jar with
    | .error _ => []
    | .ok false => fallbackRequests S text
    | .ok true => k.layoutProbes ++ jarRequests S (k.layoutIn w text) ++
      requestsAfterJar S text (svgByJar w (k.layoutIn w text))

/-! ### What is known afterwards -/

/-- A renderer that goes by some settings from now on. -/
def Renderer.goingBy (k : Renderer) (S : Settings) : Renderer :=
  { k with settings := some S }

/-- A renderer that has looked for the archive where its settings say, if it had to. -/
def Renderer.afterProbe (k : Renderer) (w : Host) (S : Settings) : Renderer :=
  match k.jarUsable with
  | some _ => k
  | none => { k with settings := some S, jarUsable := (jarThere w S.jar).toOption }

/-- A renderer that has looked for Graphviz, if it had to. -/
def Renderer.afterLayout (k : Renderer) (w : Host) : Renderer :=
  { k with graphvizThere := some (k.graphvizThere.getD (w.programs.contains "dot")) }

/-- What a renderer knows before it draws in one way or the other. -/
def Renderer.decidedIn (k : Renderer) (w : Host) : Renderer :=
  match k.settingsIn w with
  | .error _ => k
  | .ok S => (k.afterProbe w S).goingBy S

/-- **What a renderer knows after a drawing.** The layout matters only to the archive. -/
def Renderer.afterIn (k : Renderer) (w : Host) : Renderer :=
  if (k.decidedIn w).jarUsable = some true then (k.decidedIn w).afterLayout w else k.decidedIn w

/-- What a renderer has looked for is what it takes for usable. -/
theorem Renderer.jarUsable_afterProbe (k : Renderer) (w : Host) (S : Settings) :
    (k.afterProbe w S).jarUsable = (k.jarUsableIn w S.jar).toOption := by
  rw [afterProbe, jarUsableIn]
  cases hk : k.jarUsable with
  | some b => exact hk
  | none => cases jarThere w S.jar <;> rfl

@[simp] theorem Renderer.graphvizThere_afterProbe (k : Renderer) (w : Host) (S : Settings) :
    (k.afterProbe w S).graphvizThere = k.graphvizThere := by
  rw [afterProbe]
  cases k.jarUsable <;> rfl

/-! ### Steps of a drawing -/

/-- **What a step of a drawing finds and asks**: with a renderer that knows `k`, in all hosts of the world of `w`, it
answers `r`, asks `qs`, leaves the world as it is, and then knows something of which `p` holds. -/
def FindsBy (act : Drawing α) (k : Renderer) (w : Host) (r : Except Fault α) (qs : List Request)
    (p : Renderer → Prop) : Prop :=
  ∃ k', act.Asks (Prod.map id Host.world) (·.2.requests) (k, w.world) r qs (k', w.world) ∧ p k'

/-- What a step of a drawing finds, whatever it asks for it. -/
def Finds (act : Drawing α) (k : Renderer) (w : Host) (r : Except Fault α) (p : Renderer → Prop) : Prop :=
  ∃ k', act.Answers (Prod.map id Host.world) (k, w.world) r (k', w.world) ∧ p k'

variable {act : Drawing α} {next : α → Drawing β} {p q : Renderer → Prop} {qs qs' : List Request}

/-- What is asked may be left out. -/
theorem FindsBy.finds {r : Except Fault α} (h : FindsBy act k w r qs p) : Finds act k w r p := by
  obtain ⟨k', hasks, hp⟩ := h
  exact ⟨k', hasks.answers, hp⟩

/-- What comes of a step that finds and asks. -/
theorem FindsBy.exists_run {r : Except Fault α} (h : FindsBy act k w r qs p) :
    ∃ k' w', act.run (k, w) = (r, (k', w')) ∧ w'.world = w.world ∧ w'.requests = w.requests ++ qs ∧ p k' := by
  obtain ⟨k', hasks, hp⟩ := h
  obtain ⟨⟨k₁, w₁⟩, hrun, hs⟩ := hasks.answers.exists_run (s := (k, w)) rfl
  have hasked := hasks.asked_run (s := (k, w)) rfl
  rw [hrun] at hasked
  obtain ⟨rfl, hw⟩ := Prod.mk.inj hs
  exact ⟨_, w₁, hrun, hw, hasked, hp⟩

theorem FindsBy.mono {r : Except Fault α} (h : FindsBy act k w r qs p) (hpq : ∀ k', p k' → q k') :
    FindsBy act k w r qs q := by
  obtain ⟨k', hasks, hp⟩ := h
  exact ⟨k', hasks, hpq k' hp⟩

theorem findsBy_of (r : Except Fault α) (hp : p k) : FindsBy (Step.of r) k w r [] p :=
  ⟨k, (Step.answers_of r).asks (Step.quiet_of r), hp⟩

theorem findsBy_pure (a : α) (hp : p k) : FindsBy (pure a) k w (.ok a) [] p :=
  findsBy_of _ hp

theorem findsBy_learn (g : Renderer → Renderer) (hp : p (g k)) : FindsBy (learn g) k w (.ok ()) [] p := by
  refine ⟨g k, Step.Answers.asks (Step.answers_modify fun s hs => ?_) fun _ => rfl, hp⟩
  have hk : s.1 = k := congrArg Prod.fst hs
  have hw : s.2.world = w.world := congrArg Prod.snd hs
  exact Prod.ext (congrArg g hk) hw

/-- A step that only reads finds what it reads, and asks what it asks. -/
theorem findsBy_onHost {act : Step Fault Host α} {r : Except Fault α} (h : Host.ReadsBy act w r qs)
    (hp : p k) : FindsBy (onHost act) k w r qs p := by
  refine ⟨k, fun rs => Step.Answers.within (h rs) (fun s hs => ?_) fun t s hs ht => ?_, hp⟩
  · obtain ⟨hk, hrs⟩ := Prod.mk.inj hs
    exact Prod.ext (congrArg Prod.snd hk) hrs
  · -- the step leaves what the renderer knows, and its host comes back with more in the books
    obtain ⟨hk, -⟩ := Prod.mk.inj hs
    obtain ⟨hw, hrs⟩ := Prod.mk.inj ht
    have hknows : s.1 = k := congrArg Prod.fst hk
    exact Prod.ext (Prod.ext hknows hw) hrs

/-- A step that first looks at what the renderer knows. -/
theorem findsBy_get_bind {next : Renderer × Host → Drawing α} {r : Except Fault α}
    (hnext : ∀ k h h', next (k, h) = next (k, h')) (h : FindsBy (next (k, w)) k w r qs p) :
    FindsBy (get >>= next) k w r qs p := by
  obtain ⟨k', hasks, hp⟩ := h
  refine ⟨k', fun rs => Step.answers_get_bind fun s hs => ?_, hp⟩
  have hk : s.1 = k := congrArg (fun x => x.1.1) hs
  rw [← Prod.eta s, hk, hnext k s.2 w]
  exact hasks rs

/-- **One step after the other**, if the first answers. -/
theorem FindsBy.bind {a : α} {r : Except Fault β} (h : FindsBy act k w (.ok a) qs p)
    (h' : ∀ k', p k' → FindsBy (next a) k' w r qs' q) : FindsBy (act >>= next) k w r (qs ++ qs') q := by
  obtain ⟨k', hasks, hp⟩ := h
  obtain ⟨k'', hasks', hq⟩ := h' k' hp
  exact ⟨k'', hasks.bind hasks', hq⟩

/-- One step after the other, if the first answers and asks nothing. -/
theorem FindsBy.quiet_bind {a : α} {r : Except Fault β} (h : FindsBy act k w (.ok a) [] p)
    (h' : ∀ k', p k' → FindsBy (next a) k' w r qs q) : FindsBy (act >>= next) k w r qs q :=
  h.bind h'

/-- One step after the other, if the second asks nothing. -/
theorem FindsBy.bind_quiet {a : α} {r : Except Fault β} (h : FindsBy act k w (.ok a) qs p)
    (h' : ∀ k', p k' → FindsBy (next a) k' w r [] q) : FindsBy (act >>= next) k w r qs q :=
  List.append_nil qs ▸ h.bind h'

/-- One step after the other, if the first fails. -/
theorem FindsBy.bind_error (h : FindsBy act k w (.error f) qs p) :
    FindsBy (act >>= next) k w (.error f) qs p := by
  obtain ⟨k', hasks, hp⟩ := h
  exact ⟨k', hasks.bind_error, hp⟩

theorem finds_pure (a : α) (hp : p k) : Finds (pure a) k w (.ok a) p :=
  (findsBy_pure a hp).finds

theorem Finds.bind {a : α} {r : Except Fault β} (h : Finds act k w (.ok a) p)
    (h' : ∀ k', p k' → Finds (next a) k' w r q) : Finds (act >>= next) k w r q := by
  obtain ⟨k', hfinds, hp⟩ := h
  obtain ⟨k'', hfinds', hq⟩ := h' k' hp
  exact ⟨k'', hfinds.bind hfinds', hq⟩

theorem Finds.bind_error (h : Finds act k w (.error f) p) : Finds (act >>= next) k w (.error f) p := by
  obtain ⟨k', hfinds, hp⟩ := h
  exact ⟨k', hfinds.bind_error, hp⟩

/-! ### What is found out -/

/-- A renderer **goes by** some settings, if it has them or would find them. -/
def GoesBy (w : Host) (S : Settings) (k : Renderer) : Prop :=
  k.settingsIn w = .ok S

theorem goesBy_goingBy : GoesBy w S (k.goingBy S) :=
  rfl

/-- A renderer that has looked for the archive goes on by the same settings. -/
theorem GoesBy.afterProbe (h : GoesBy w S k) : GoesBy w S (k.afterProbe w S) := by
  rw [Renderer.afterProbe]
  cases k.jarUsable with
  | some b => exact h
  | none => exact rfl

/-- Loading settings reads them, in the words of a drawing, and asks nothing. -/
theorem readsBy_load (hk : k.settings = none) :
    Host.ReadsBy ((Settings.load none).blame settingsFault) w (k.settingsIn w) [] := by
  rw [Renderer.settingsIn, hk]
  exact Host.Reads.readsBy (Step.Answers.blame (Settings.reads_load none w) settingsFault)
    ((Settings.quiet_load none).blame _)

theorem findsBy_settings (h : GoesBy w S k) :
    FindsBy settings k w (.ok S) [] (· = k.goingBy S) := by
  refine findsBy_get_bind (fun _ _ _ => rfl) ?_
  cases hk : k.settings with
  | some S' =>
    simp only [GoesBy, Renderer.settingsIn, hk] at h ⊢
    cases h
    refine findsBy_pure S ?_
    rw [Renderer.goingBy, ← hk]
  | none =>
    have hload := readsBy_load (w := w) hk
    rw [h] at hload
    refine (findsBy_onHost (p := (· = k)) hload rfl).quiet_bind ?_
    rintro _ rfl
    refine (findsBy_learn (p := (· = _)) _ rfl).quiet_bind fun k' hk' => ?_
    exact findsBy_pure S hk'

theorem findsBy_settings_error (h : k.settingsIn w = .error f) :
    FindsBy settings k w (.error f) [] (· = k) := by
  refine findsBy_get_bind (fun _ _ _ => rfl) ?_
  cases hk : k.settings with
  | some S' =>
    simp only [Renderer.settingsIn, hk] at h
    cases h
  | none =>
    have hload := readsBy_load (w := w) hk
    rw [h] at hload
    exact (findsBy_onHost (p := (· = k)) hload rfl).bind_error

/-- Something that is taken from the settings. -/
theorem findsBy_map_settings (h : GoesBy w S k) (g : Settings → α) :
    FindsBy (do return g (← settings)) k w (.ok (g S)) [] (· = k.goingBy S) := by
  refine (findsBy_settings h).quiet_bind ?_
  rintro _ rfl
  exact findsBy_pure _ rfl

theorem readsBy_probeJar (jar : FilePath) :
    Host.ReadsBy (probeJar jar) w ((jarThere w jar).mapError .access) (javaProbes w jar) := by
  have hfound : Host.ReadsBy ((Host.entry? jar).blame Fault.access) w ((w.found jar).mapError .access) [] :=
    Host.Reads.readsBy (Step.Answers.blame (Host.reads_found jar) Fault.access) ((Host.quiet_entry jar).blame _)
  have htold (text : String) (b : Bool) :
      Host.ReadsBy (do Host.note .info .renderer text; return b : Step Fault Host Bool) w (.ok b) [] :=
    (Host.readsBy_note _ _ _).bind (Host.Reads.readsBy (Step.answers_pure _) (Step.quiet_pure _))
  rw [jarThere, javaProbes]
  cases h : w.found jar with
  | error f =>
    rw [h] at hfound
    exact hfound.bind_error
  | ok e =>
    rw [h] at hfound
    refine hfound.bind ?_
    rcases e with _ | _ | bytes
    · exact htold _ _
    · exact htold _ _
    · refine (Host.readsBy_hasProgram "java").bind_quiet ?_
      cases w.programs.contains "java"
      · exact htold _ _
      · exact htold _ _

theorem readsBy_probeGraphviz :
    Host.ReadsBy probeGraphviz w (.ok (w.programs.contains "dot")) [.find "dot"] := by
  have hpure (b : Bool) : Host.ReadsBy (pure b : Step Fault Host Bool) w (.ok b) [] :=
    Host.Reads.readsBy (Step.answers_pure _) (Step.quiet_pure _)
  refine (Host.readsBy_hasProgram "dot").bind_quiet ?_
  cases w.programs.contains "dot"
  · exact (Host.readsBy_note _ _ _).bind (hpure _)
  · exact hpure _

/-- What was found out about the archive is not looked for again, and needs no settings. -/
theorem findsBy_jarUsable_of_known {b : Bool} (hk : k.jarUsable = some b) :
    FindsBy jarUsable k w (.ok b) [] (· = k) := by
  refine findsBy_get_bind (fun _ _ _ => rfl) ?_
  simp only [hk]
  exact findsBy_pure b rfl

/-- If there are settings, the archive is looked for where they say. -/
theorem findsBy_jarUsable (h : GoesBy w S k) :
    FindsBy jarUsable k w (k.jarUsableIn w S.jar) (k.jarProbes w S.jar) (· = k.afterProbe w S) := by
  cases hk : k.jarUsable with
  | some b =>
    simp only [Renderer.jarUsableIn, Renderer.jarProbes, Renderer.afterProbe, hk]
    exact findsBy_jarUsable_of_known hk
  | none =>
    refine findsBy_get_bind (fun _ _ _ => rfl) ?_
    simp only [Renderer.jarUsableIn, Renderer.jarProbes, Renderer.afterProbe, hk]
    refine (findsBy_settings h).quiet_bind ?_
    rintro _ rfl
    have hprobe := readsBy_probeJar (w := w) S.jar
    cases hb : jarThere w S.jar with
    | error f =>
      rw [hb] at hprobe
      refine (findsBy_onHost hprobe ?_).bind_error
      rw [Renderer.goingBy, Except.toOption, ← hk]
    | ok b =>
      rw [hb] at hprobe
      refine (findsBy_onHost (p := (· = k.goingBy S)) hprobe rfl).bind_quiet ?_
      rintro _ rfl
      refine (findsBy_learn (p := (· = { k with settings := some S, jarUsable := some b })) _ rfl).quiet_bind
        fun k' hk' => findsBy_pure b hk'

/-- Graphviz is looked for without any settings. -/
theorem findsBy_graphvizThere :
    FindsBy graphvizThere k w (.ok (k.graphvizThere.getD (w.programs.contains "dot"))) k.layoutProbes
      (· = k.afterLayout w) := by
  refine findsBy_get_bind (fun _ _ _ => rfl) ?_
  rw [Renderer.layoutProbes, Renderer.afterLayout]
  cases hk : k.graphvizThere with
  | some b =>
    refine findsBy_pure b ?_
    rw [Option.getD_some, ← hk]
  | none =>
    refine (findsBy_onHost (p := (· = k)) readsBy_probeGraphviz rfl).bind_quiet ?_
    rintro _ rfl
    refine (findsBy_learn (p := (· = _)) _ rfl).bind fun k' hk' => findsBy_pure _ hk'

/-! ### The two ways of drawing -/

theorem findsBy_tell (level : Level) (text : String) (hp : p k) :
    FindsBy (plan.tell level text) k w (.ok ()) [] p :=
  findsBy_onHost (Host.readsBy_note _ _ _) hp

/-- **Drawing with the archive** comes to what its run gives. -/
theorem findsBy_drawByJar (h : GoesBy w S k) (text : String) :
    FindsBy (plan.drawByJar text) k w (svgByJar w (k.layoutIn w text))
      (k.layoutProbes ++ jarRequests S (k.layoutIn w text)) (· = (k.afterLayout w).goingBy S) := by
  have hlayout : GoesBy w S (k.afterLayout w) := h
  refine findsBy_graphvizThere.bind ?_
  rintro _ rfl
  refine (findsBy_map_settings hlayout _).quiet_bind ?_
  rintro _ rfl
  generalize hk' : (k.afterLayout w).goingBy S = k'
  have hgoes : GoesBy w S k' := hk' ▸ goesBy_goingBy
  have hsame : k'.goingBy S = k' := hk' ▸ rfl
  rw [svgByJar, jarRequests, Renderer.layoutIn]
  generalize withLayout _ text = text
  have hbytes : FindsBy (bytesOf text) k' w ((charsIn text).map Utf8.encode) [] (· = k') :=
    ⟨k', (Step.answers_bytesOf text).asks (Step.quiet_bytesOf text), rfl⟩
  cases hcs : charsIn text with
  | error f => exact (hcs ▸ hbytes).bind_error
  | ok cs =>
    rw [hcs] at hbytes
    refine hbytes.quiet_bind ?_
    rintro k' rfl
    refine (findsBy_map_settings hgoes _).quiet_bind ?_
    rw [hsame]
    rintro k' rfl
    refine (findsBy_onHost (p := (· = k')) (Host.readsBy_run _ _ _) rfl).bind_quiet ?_
    rintro k' rfl
    show FindsBy _ k' w (svgOfRun w.runs) [] _
    have htold (level : Level) (note : String) :
        FindsBy (do plan.tell level note; return none : Drawing (Option String)) k' w (.ok none) [] (· = k') :=
      (findsBy_tell (p := (· = k')) _ _ rfl).quiet_bind fun _ hk => findsBy_pure _ hk
    cases w.runs with
    | timedOut => exact htold _ _
    | failed message => exact htold _ _
    | raised f => exact findsBy_of _ rfl
    | ended status output errors =>
      simp only [svgOfRun]
      split
      · exact findsBy_pure _ rfl
      · exact htold _ _

/-- **Drawing with the server** comes to what it answers. -/
theorem findsBy_drawByServer (h : GoesBy w S k) (text : String) :
    FindsBy (plan.drawByServer text) k w (svgByServer w S.server text) (serverRequests S text)
      (· = k.goingBy S) := by
  have hserver : FindsBy plan.server k w (serverAddress S.server) [] (· = k.goingBy S) := by
    refine (findsBy_settings h).quiet_bind ?_
    rintro _ rfl
    exact findsBy_of _ rfl
  rw [svgByServer, serverRequests, imageAddress]
  cases haddress : serverAddress S.server with
  | error f => exact (haddress ▸ hserver).bind_error
  | ok server =>
    refine (haddress ▸ hserver).quiet_bind ?_
    rintro _ rfl
    have hchars : FindsBy (charsOf text) (k.goingBy S) w (charsIn text) [] (· = k.goingBy S) := findsBy_of _ rfl
    show FindsBy _ (k.goingBy S) w (charsIn text >>= fun _ => svgOfAnswer w.fetches) _ _
    cases hcs : charsIn text with
    | error f => exact (hcs ▸ hchars).bind_error
    | ok cs =>
      refine (hcs ▸ hchars).quiet_bind ?_
      rintro _ rfl
      refine (findsBy_onHost (p := (· = k.goingBy S)) (Host.readsBy_ask _) rfl).bind ?_
      rintro _ rfl
      refine (findsBy_tell (p := (· = k.goingBy S)) _ _ rfl).quiet_bind ?_
      rintro _ rfl
      refine (findsBy_map_settings goesBy_goingBy _).quiet_bind ?_
      rintro _ rfl
      refine (findsBy_onHost (p := (· = k.goingBy S)) (Host.readsBy_fetch _ _) rfl).bind_quiet ?_
      rintro _ rfl
      show FindsBy _ (k.goingBy S) w (svgOfAnswer w.fetches) [] _
      cases w.fetches with
      | failed message => exact findsBy_of _ rfl
      | raised f => exact findsBy_of _ rfl
      | answered status body =>
        simp only [svgOfAnswer]
        split
        · exact findsBy_of _ rfl
        · split
          · exact findsBy_of _ rfl
          · exact findsBy_pure _ rfl

/-- Without settings there is no drawing, whatever the renderer found out earlier. -/
theorem findsBy_drawSvg_error (h : k.settingsIn w = .error f) (text : String) :
    FindsBy (drawSvg text) k w (.error f) (if k.jarUsable = some true then k.layoutProbes else [])
      (· = k.afterIn w) := by
  have hdecided : k.decidedIn w = k := by
    rw [Renderer.decidedIn, h]
  rw [Renderer.afterIn, hdecided]
  cases hk : k.jarUsable with
  | none =>
    have husable : FindsBy jarUsable k w (.error f) [] (· = k) := by
      refine findsBy_get_bind (fun _ _ _ => rfl) ?_
      simp only [hk]
      exact (findsBy_settings_error h).bind_error
    exact husable.bind_error
  | some b =>
    refine (findsBy_jarUsable_of_known hk).quiet_bind ?_
    rintro k rfl
    cases b with
    | false =>
      -- the settings say whether the server may be asked
      exact (findsBy_settings_error h).bind_error.bind_error
    | true =>
      -- the settings say where the archive is
      refine FindsBy.bind_error (findsBy_graphvizThere.bind_quiet ?_)
      rintro _ rfl
      have hlayout : (k.afterLayout w).settingsIn w = .error f := h
      exact (findsBy_settings_error hlayout).bind_error.bind_error

/-- What a renderer knows once it has decided that the archive can be used. -/
theorem Renderer.afterIn_of_usable (h : GoesBy w S k) (hb : k.jarUsableIn w S.jar = .ok true) :
    k.afterIn w = ((k.afterProbe w S).afterLayout w).goingBy S := by
  have hdecided : k.decidedIn w = (k.afterProbe w S).goingBy S := by
    rw [decidedIn, h]
  have husable : (k.decidedIn w).jarUsable = some true := by
    rw [hdecided, goingBy, jarUsable_afterProbe, hb]
    rfl
  rw [afterIn, if_pos husable, hdecided]
  rfl

/-- What a renderer knows otherwise. -/
theorem Renderer.afterIn_of_not_usable (h : GoesBy w S k) (hb : k.jarUsableIn w S.jar ≠ .ok true) :
    k.afterIn w = (k.afterProbe w S).goingBy S := by
  have hdecided : k.decidedIn w = (k.afterProbe w S).goingBy S := by
    rw [decidedIn, h]
  have husable : (k.decidedIn w).jarUsable ≠ some true := by
    rw [hdecided, goingBy, jarUsable_afterProbe]
    cases hj : k.jarUsableIn w S.jar with
    | error f => simp [Except.toOption]
    | ok b => simpa [Except.toOption, hj] using hb
  rw [afterIn, if_neg husable, hdecided]

/-- **Drawing a text comes to `svgIn`, asks `requestsIn` for it, and leaves `afterIn` known.** -/
theorem findsBy_drawSvg (k : Renderer) (w : Host) (text : String) :
    FindsBy (drawSvg text) k w (k.svgIn w text) (k.requestsIn w text) (· = k.afterIn w) := by
  rw [Renderer.svgIn, Renderer.requestsIn]
  cases h : k.settingsIn w with
  | error f => exact findsBy_drawSvg_error h text
  | ok S =>
    have husable := findsBy_jarUsable h
    have hgoes : GoesBy w S (k.afterProbe w S) := GoesBy.afterProbe h
    show FindsBy _ k w (k.jarUsableIn w S.jar >>= fun usable => _) (k.jarProbes w S.jar ++ _) _
    cases hb : k.jarUsableIn w S.jar with
    | error f =>
      rw [List.append_nil]
      refine ((hb ▸ husable).bind_error).mono ?_
      rintro _ rfl
      rw [Renderer.afterIn_of_not_usable h (by simp [hb])]
      -- the archive was looked for by these settings
      cases hk : k.jarUsable with
      | some b => simp [Renderer.jarUsableIn, hk] at hb
      | none =>
        rw [Renderer.afterProbe, hk]
        rfl
    | ok b =>
      refine (hb ▸ husable).bind ?_
      rintro _ rfl
      cases b with
      | true =>
        have hjar := findsBy_drawByJar hgoes text
        -- looking for the archive has not changed what is known of Graphviz, and so the layout is the same
        rw [Renderer.layoutIn, Renderer.layoutProbes, Renderer.graphvizThere_afterProbe,
          ← Renderer.afterIn_of_usable h hb] at hjar
        show FindsBy _ _ w (svgByJar w (k.layoutIn w text) >>= fun image => _) (_ ++ requestsAfterJar S text _) _
        cases hj : svgByJar w (k.layoutIn w text) with
        | error f =>
          rw [requestsAfterJar, List.append_nil]
          exact (hj ▸ hjar).bind_error
        | ok image =>
          refine (hj ▸ hjar).bind ?_
          rintro _ rfl
          have hafter : GoesBy w S (k.afterIn w) := Renderer.afterIn_of_usable h hb ▸ goesBy_goingBy
          have hsame : (k.afterIn w).goingBy S = k.afterIn w := Renderer.afterIn_of_usable h hb ▸ rfl
          cases image with
          | some image =>
            exact (findsBy_tell (p := (· = k.afterIn w)) _ _ rfl).quiet_bind fun _ hk => findsBy_pure _ hk
          | none =>
            refine (findsBy_map_settings hafter _).quiet_bind ?_
            rw [hsame, requestsAfterJar, fallbackRequests]
            rintro _ rfl
            cases hfallback : S.fallback with
            | false => exact findsBy_of _ rfl
            | true => exact (findsBy_drawByServer hafter text).mono fun _ hk => hk.trans hsame
      | false =>
        rw [Renderer.afterIn_of_not_usable h (by simp [hb])]
        refine (findsBy_map_settings hgoes _).quiet_bind ?_
        rintro _ rfl
        rw [fallbackRequests]
        cases hfallback : S.fallback with
        | false =>
          -- the fault names the archive, for which the settings are looked at once more
          refine (findsBy_map_settings goesBy_goingBy _).quiet_bind ?_
          rintro _ rfl
          exact findsBy_of _ rfl
        | true => exact findsBy_drawByServer goesBy_goingBy text

/-- **Drawing a text comes to `svgIn`.** -/
theorem finds_drawSvg (k : Renderer) (w : Host) (text : String) :
    Finds (drawSvg text) k w (k.svgIn w text) fun _ => True :=
  ((findsBy_drawSvg k w text).mono fun _ _ => trivial).finds

end PlantUml

end Landscape
