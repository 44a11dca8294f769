import Landscape.Proofs.Host.Storing
import Landscape.Proofs.Render.Drawing
import Mathlib.Order.Defs.Unbundled

/-!
# What a renderer finds out, and keeps

A renderer fills three fields as it draws: its settings, whether the archive can be used, and whether Graphviz is there.
Each is filled once and then kept (`Landscape.PlantUml.Renderer.Remembers`). What this costs is counted by a potential:
a field that is still empty is worth one lookup (`Landscape.PlantUml.pending`), and a drawing pays for each lookup by
filling the field that wanted it. So however many drawings there are, and whatever becomes of the world between
them, there is one lookup of each program at most.

The fields are not filled in any order. Where the settings are missing, neither of the other two is there
(`Landscape.PlantUml.Renderer.Sound`): this is what lets a drawing that finds no settings leave no trace. Everything
that is said of one drawing is put together in `Landscape.PlantUml.Renderer.Serves`, which goes through from one
drawing to the next; that each drawing is so is `Landscape.PlantUml.keeps_drawSvg` and
`Landscape.PlantUml.keeps_draw`.
-/

namespace Landscape

/-! ### Lookups -/

/-- Whether a request looks for a program. -/
def Request.looksFor (program : String) : Request → Bool
  | .find p => p == program
  | _ => false

/-- Whether a request runs a program. -/
def Request.isRun : Request → Bool
  | .run .. => true
  | _ => false

/-- How often some requests look for a program. -/
def lookups (program : String) (qs : List Request) : Nat :=
  qs.countP (Request.looksFor program)

@[simp] theorem lookups_nil (program : String) : lookups program [] = 0 :=
  rfl

@[simp] theorem lookups_append (program : String) (qs qs' : List Request) :
    lookups program (qs ++ qs') = lookups program qs + lookups program qs' :=
  List.countP_append

/-- Whether a server is asked before any program was run. -/
def serverFirst : List Request → Bool
  | [] => false
  | .run .. :: _ => false
  | .fetch .. :: _ => true
  | _ :: qs => serverFirst qs

theorem serverFirst_append {qs qs' : List Request} (h : serverFirst qs = false) (h' : serverFirst qs' = false) :
    serverFirst (qs ++ qs') = false := by
  fun_induction serverFirst qs with
  | case1 => exact h'
  | case2 => rfl
  | case3 => cases h
  | case4 q qs hrun hfetch ih =>
    cases q with
    | run => exact absurd rfl (hrun _ _ _)
    | fetch => exact absurd rfl (hfetch _ _)
    | find => exact ih h
    | encode => exact ih h
    | draw => exact ih h

/-! ### Storing asks nothing -/

theorem Host.quiet_store (p : FilePath) (bytes : List UInt8) : Host.Quiet (Host.store p bytes) := by
  intro h
  obtain ⟨r, fs, -, hrun⟩ := Host.exists_stores h p bytes
  rw [hrun]

theorem quiet_storeImage (target : FilePath) (image : List UInt8) : Host.Quiet (storeImage target image) :=
  ((Host.quiet_store target image).blame _).bind fun _ =>
    (Step.quiet_get_bind fun _ => Step.quiet_pure _).bind fun _ => (Host.quiet_note _ _ _).bind fun _ =>
      Step.quiet_pure _

/-! ### Steps that keep a relation -/

namespace Step

variable {ε ε' σ α β : Type} {R : σ → σ → Prop} {act : Step ε σ α} {next : α → Step ε σ β}

/-- A step **keeps** a relation if it leads from each state to one that is so related to it. -/
def Keeps (R : σ → σ → Prop) (act : Step ε σ α) : Prop :=
  ∀ s, R s (act.run s).2

theorem keeps_of [Std.Refl R] (r : Except ε α) : Keeps R (of r) :=
  fun s => Std.Refl.refl s

theorem keeps_pure [Std.Refl R] (a : α) : Keeps R (pure a : Step ε σ α) :=
  keeps_of _

theorem keeps_throw [Std.Refl R] (e : ε) : Keeps R (throw e : Step ε σ α) :=
  keeps_of _

/-- **One step after the other.** -/
theorem Keeps.bind [IsTrans σ R] (h : Keeps R act) (h' : ∀ a, Keeps R (next a)) : Keeps R (act >>= next) := by
  intro s
  have hs := h s
  rcases hrun : act.run s with ⟨e | a, t⟩
  · rw [hrun] at hs
    rw [run_bind_of_error hrun]
    exact hs
  · rw [hrun] at hs
    rw [run_bind_of_ok hrun]
    exact IsTrans.trans _ _ _ hs (h' a t)

theorem Keeps.attempt (h : Keeps R act) : Keeps R (act.attempt : Step ε' σ (Except ε α)) :=
  h

end Step

namespace PlantUml

variable {k k' k'' : Renderer} {w : Host} {S : Settings} {qs qs' : List Request} {α : Type}

/-! ### What is kept -/

/-- A renderer that knows all that another knows, and knows it in the same way. -/
structure Renderer.Remembers (k k' : Renderer) : Prop where
  settings : ∀ S, k.settings = some S → k'.settings = some S
  jarUsable : ∀ b, k.jarUsable = some b → k'.jarUsable = some b
  graphvizThere : ∀ b, k.graphvizThere = some b → k'.graphvizThere = some b

theorem Renderer.Remembers.refl (k : Renderer) : k.Remembers k :=
  ⟨fun _ => id, fun _ => id, fun _ => id⟩

theorem Renderer.Remembers.trans (h : k.Remembers k') (h' : k'.Remembers k'') : k.Remembers k'' :=
  ⟨fun S hS => h'.settings S (h.settings S hS), fun b hb => h'.jarUsable b (h.jarUsable b hb),
    fun b hb => h'.graphvizThere b (h.graphvizThere b hb)⟩

/-- A renderer is **sound** if it knows nothing without its settings. -/
def Renderer.Sound (k : Renderer) : Prop :=
  k.settings = none → k = {}

/-- A renderer that was just made is sound, whether it was given settings or not. -/
theorem Renderer.sound_fresh (settings : Option Settings) : Sound { settings } := by
  rintro ⟨⟩
  rfl

/-- How many lookups it takes to know something for good. -/
def pending : Option Bool → Nat
  | none => 1
  | some _ => 0

/-! ### What is heeded -/

/-- Requests that heed a decision on the archive: if it cannot be used it is not run, and if it can be the server is not
asked before it. -/
structure Heeds (usable : Bool) (qs : List Request) : Prop where
  noRun : usable = false → ∀ q ∈ qs, q.isRun = false
  runFirst : usable = true → serverFirst qs = false

theorem heeds_nil (usable : Bool) : Heeds usable [] :=
  ⟨fun _ _ hq => absurd hq List.not_mem_nil, fun _ => rfl⟩

theorem Heeds.append {usable : Bool} (h : Heeds usable qs) (h' : Heeds usable qs') : Heeds usable (qs ++ qs') where
  noRun hb q hq := (List.mem_append.mp hq).elim (h.noRun hb q) (h'.noRun hb q)
  runFirst hb := serverFirst_append (h.runFirst hb) (h'.runFirst hb)

/-- A request that goes by some settings: the archive, the server and the time allowed are theirs. -/
def GoesBySettings (S : Settings) : Request → Prop
  | .run command _ timeout => command = jarCommand S.jar.toString ∧ timeout = S.timeout
  | .fetch address timeout => (∃ text, imageAddress S text = .ok address) ∧ timeout = S.timeout
  | _ => True

/-! ### What a drawing does to what is known -/

/-- **How a renderer serves.** It knew `k`, asked `qs`, and now knows `k'`. -/
structure Renderer.Serves (k : Renderer) (qs : List Request) (k' : Renderer) : Prop where
  /-- What was found out stays. -/
  remembers : k.Remembers k'
  /-- Each lookup is paid for by something that is known from then on. -/
  java : lookups "java" qs + pending k'.jarUsable ≤ pending k.jarUsable
  dot : lookups "dot" qs + pending k'.graphvizThere ≤ pending k.graphvizThere
  /-- The decision on the archive is heeded, and without one nothing is asked. -/
  heeds : ∀ b, k'.jarUsable = some b → Heeds b qs
  undecided : k'.jarUsable = none → qs = []
  /-- What is asked goes by the settings. -/
  goesBy : ∀ S, k'.settings = some S → ∀ q ∈ qs, GoesBySettings S q
  /-- Without settings there is no trace. -/
  noTrace : k'.settings = none → k' = k ∧ qs = []

namespace Renderer.Serves

theorem refl (k : Renderer) : k.Serves [] k where
  remembers := .refl k
  java := by simp
  dot := by simp
  heeds b _ := heeds_nil b
  undecided _ := rfl
  goesBy _ _ _ hq := absurd hq List.not_mem_nil
  noTrace _ := ⟨rfl, rfl⟩

/-- **One service after the other.** -/
theorem trans (h : k.Serves qs k') (h' : k'.Serves qs' k'') : k.Serves (qs ++ qs') k'' where
  remembers := h.remembers.trans h'.remembers
  java := by
    have hjava := h.java
    have hjava' := h'.java
    rw [lookups_append]
    omega
  dot := by
    have hdot := h.dot
    have hdot' := h'.dot
    rw [lookups_append]
    omega
  heeds b hb := by
    refine Heeds.append ?_ (h'.heeds b hb)
    -- the decision may have been made in either part; before it nothing was asked
    cases hk : k'.jarUsable with
    | none => exact h.undecided hk ▸ heeds_nil b
    | some b' =>
      have hb' := h'.remembers.jarUsable b' hk
      rw [hb] at hb'
      cases hb'
      exact h.heeds b hk
  undecided hk := by
    -- what is not decided in the end was not decided in between
    cases hk' : k'.jarUsable with
    | none => rw [h.undecided hk', h'.undecided hk, List.append_nil]
    | some b => simp [h'.remembers.jarUsable b hk'] at hk
  goesBy S hS q hq := by
    rcases List.mem_append.mp hq with hq | hq
    · cases hk : k'.settings with
      | none => simp [(h.noTrace hk).2] at hq
      | some S' =>
        have hS' := h'.remembers.settings S' hk
        rw [hS] at hS'
        cases hS'
        exact h.goesBy S hk q hq
    · exact h'.goesBy S hS q hq
  noTrace hk := by
    obtain ⟨rfl, rfl⟩ := h'.noTrace hk
    obtain ⟨rfl, rfl⟩ := h.noTrace hk
    exact ⟨rfl, rfl⟩

/-- A renderer stays sound. -/
theorem sound (h : k.Serves qs k') (hk : k.Sound) : k'.Sound := by
  intro hnone
  obtain ⟨rfl, -⟩ := h.noTrace hnone
  exact hk hnone

end Renderer.Serves

/-! ### What is asked on the way -/

/-- Looking for the archive costs one lookup at most, and none if the archive cannot be looked for. -/
theorem lookups_javaProbes_le (w : Host) (jar : FilePath) :
    lookups "java" (javaProbes w jar) + pending (jarThere w jar).toOption ≤ 1 := by
  rw [javaProbes, jarThere]
  cases w.found jar with
  | error f => exact Nat.le_refl 1
  | ok e =>
    rcases e with _ | _ | bytes
    · exact Nat.zero_le 1
    · exact Nat.zero_le 1
    · exact Nat.le_refl 1

theorem lookups_dot_javaProbes (w : Host) (jar : FilePath) : lookups "dot" (javaProbes w jar) = 0 := by
  rw [javaProbes]
  split <;> rfl

theorem heeds_javaProbes (w : Host) (jar : FilePath) (usable : Bool) : Heeds usable (javaProbes w jar) := by
  rw [javaProbes]
  split
  · exact ⟨fun _ q hq => List.mem_singleton.mp hq ▸ rfl, fun _ => rfl⟩
  · exact heeds_nil usable

theorem javaProbes_eq_nil {jar : FilePath} {f : AccessFault} (h : jarThere w jar = .error f) :
    javaProbes w jar = [] := by
  rw [jarThere] at h
  rw [javaProbes]
  cases hfound : w.found jar with
  | error f => rfl
  | ok e =>
    rw [hfound] at h
    rcases e with _ | _ | bytes <;> cases h

theorem goesBySettings_javaProbes (S : Settings) (w : Host) (jar : FilePath) :
    ∀ q ∈ javaProbes w jar, GoesBySettings S q := by
  intro q hq
  rw [javaProbes] at hq
  split at hq
  · exact List.mem_singleton.mp hq ▸ trivial
  · cases hq

/-- What the archive and the server are asked contains no lookups, and goes by the settings. -/
structure Plain (S : Settings) (qs : List Request) : Prop where
  lookups : ∀ program, lookups program qs = 0
  goesBy : ∀ q ∈ qs, GoesBySettings S q

theorem Plain.append (h : Plain S qs) (h' : Plain S qs') : Plain S (qs ++ qs') where
  lookups program := by rw [lookups_append, h.lookups, h'.lookups]
  goesBy q hq := (List.mem_append.mp hq).elim (h.goesBy q) (h'.goesBy q)

theorem plain_nil : Plain S [] :=
  ⟨fun _ => rfl, fun _ hq => absurd hq List.not_mem_nil⟩

theorem plain_jarRequests (S : Settings) (text : String) : Plain S (jarRequests S text) := by
  rw [jarRequests]
  split
  · exact ⟨fun _ => rfl, fun q hq => List.mem_singleton.mp hq ▸ ⟨rfl, rfl⟩⟩
  · exact plain_nil

theorem plain_fallbackRequests (S : Settings) (text : String) : Plain S (fallbackRequests S text) := by
  rw [fallbackRequests, serverRequests]
  split
  · split
    · rename_i address haddress
      refine ⟨fun _ => rfl, fun q hq => ?_⟩
      simp only [List.mem_cons, List.not_mem_nil, or_false] at hq
      rcases hq with rfl | rfl
      · trivial
      · exact ⟨⟨text, haddress⟩, rfl⟩
    · exact plain_nil
  · exact plain_nil

theorem plain_requestsAfterJar (S : Settings) (text : String) (r : Except Fault (Option String)) :
    Plain S (requestsAfterJar S text r) := by
  rcases r with f | _ | image
  · exact plain_nil
  · exact plain_fallbackRequests S text
  · exact plain_nil

/-- Without the archive, only the server is asked. -/
theorem heeds_fallbackRequests (S : Settings) (text : String) : Heeds false (fallbackRequests S text) := by
  refine ⟨fun _ q hq => ?_, fun h => absurd h (by decide)⟩
  rw [fallbackRequests, serverRequests] at hq
  split at hq
  · split at hq
    · simp only [List.mem_cons, List.not_mem_nil, or_false] at hq
      rcases hq with rfl | rfl <;> rfl
    · cases hq
  · cases hq

/-- With the archive, the server is asked only after it was run. -/
theorem heeds_jarRequests (S : Settings) (w : Host) (text layout : String) :
    Heeds true (jarRequests S layout ++ requestsAfterJar S text (svgByJar w layout)) := by
  refine ⟨fun h => absurd h (by decide), fun _ => ?_⟩
  rw [jarRequests, svgByJar]
  cases charsIn layout <;> rfl

/-! ### Each stage of a drawing -/

/-- A renderer whose settings and whose decision are made serves without finding out more. -/
theorem serves_of_plain {b : Bool} (hS : k.settings = some S) (hb : k.jarUsable = some b) (hplain : Plain S qs)
    (hheeds : Heeds b qs) : k.Serves qs k where
  remembers := .refl k
  java := by simp [hplain.lookups]
  dot := by simp [hplain.lookups]
  heeds b' hb' := by
    rw [hb] at hb'
    cases hb'
    exact hheeds
  undecided hk := by simp [hb] at hk
  goesBy S' hS' := by
    rw [hS] at hS'
    cases hS'
    exact hplain.goesBy
  noTrace hk := by simp [hS] at hk

/-- A renderer that goes by some settings has no others. -/
theorem GoesBy.remembers (h : GoesBy w S k) : k.Remembers (k.goingBy S) := by
  refine ⟨fun S' hS' => ?_, fun _ => id, fun _ => id⟩
  rw [GoesBy, Renderer.settingsIn, hS'] at h
  cases h
  rfl

/-- Coming by the settings. -/
theorem serves_goingBy (h : GoesBy w S k) : k.Serves [] (k.goingBy S) where
  remembers := h.remembers
  java := by simp [Renderer.goingBy]
  dot := by simp [Renderer.goingBy]
  heeds b _ := heeds_nil b
  undecided _ := rfl
  goesBy _ _ _ hq := absurd hq List.not_mem_nil
  noTrace hnone := by cases hnone

/-- Looking for the archive, where the settings say. -/
theorem serves_afterProbe (h : GoesBy w S k) :
    k.Serves (k.jarProbes w S.jar) ((k.afterProbe w S).goingBy S) := by
  cases hjar : k.jarUsable with
  | some b =>
    rw [Renderer.jarProbes, Renderer.afterProbe, hjar]
    exact serves_goingBy h
  | none =>
    rw [Renderer.jarProbes, Renderer.afterProbe, hjar]
    exact
      { remembers := ⟨h.remembers.settings, fun b hb => by simp [hjar] at hb, h.remembers.graphvizThere⟩
        java := by
          rw [hjar]
          exact lookups_javaProbes_le w S.jar
        dot := by simp [lookups_dot_javaProbes, Renderer.goingBy]
        heeds := fun b _ => heeds_javaProbes w S.jar b
        undecided := fun hnone => by
          -- what ends without a decision has failed before anything was looked for
          cases hj : jarThere w S.jar with
          | error f => exact javaProbes_eq_nil hj
          | ok b => simp [hj, Renderer.goingBy, Except.toOption] at hnone
        goesBy := fun S' _ => goesBySettings_javaProbes S' w S.jar
        noTrace := fun hnone => by cases hnone }

/-- Looking for Graphviz, once the archive was found usable. -/
theorem serves_afterLayout (hS : k.settings = some S) (hb : k.jarUsable = some true) :
    k.Serves k.layoutProbes (k.afterLayout w) := by
  rw [Renderer.layoutProbes]
  cases hlayout : k.graphvizThere with
  | some b =>
    have hsame : k.afterLayout w = k := by
      rw [Renderer.afterLayout, hlayout, Option.getD_some, ← hlayout]
    rw [hsame]
    exact .refl k
  | none =>
    exact
      { remembers := ⟨fun _ => id, fun _ => id, fun b hb => by simp [hlayout] at hb⟩
        java := Nat.le_of_eq (Nat.zero_add _)
        dot := by
          rw [hlayout]
          exact Nat.le_refl 1
        heeds := fun b _ => ⟨fun _ q hq => List.mem_singleton.mp hq ▸ rfl, fun _ => rfl⟩
        undecided := fun hnone => by simp [Renderer.afterLayout, hb] at hnone
        goesBy := fun S' _ q hq => List.mem_singleton.mp hq ▸ trivial
        noTrace := fun hnone => by simp [Renderer.afterLayout, hS] at hnone }

/-! ### Drawing -/

/-- Without settings, a sound renderer asks nothing and is left as it was. -/
theorem eq_of_settingsIn_error {f : Fault} (hk : k.Sound) (h : k.settingsIn w = .error f) (text : String) :
    k = {} ∧ k.requestsIn w text = [] ∧ k.afterIn w = k := by
  have hnone : k.settings = none := by
    cases hS : k.settings with
    | none => rfl
    | some S => simp [Renderer.settingsIn, hS] at h
  obtain rfl := hk hnone
  have hdecided : Renderer.decidedIn {} w = {} := by
    rw [Renderer.decidedIn, h]
  refine ⟨rfl, ?_, ?_⟩
  · rw [Renderer.requestsIn, h]
    rfl
  · rw [Renderer.afterIn, hdecided]
    rfl

/-- **What a drawing asks and leaves known is a service.** -/
theorem serves_afterIn (hk : k.Sound) (w : Host) (text : String) :
    k.Serves (k.requestsIn w text) (k.afterIn w) := by
  cases h : k.settingsIn w with
  | error f =>
    obtain ⟨-, hasked, hleft⟩ := eq_of_settingsIn_error hk h text
    rw [hasked, hleft]
    exact .refl k
  | ok S =>
    have hprobe := serves_afterProbe h
    have hjar : ((k.afterProbe w S).goingBy S).jarUsable = (k.jarUsableIn w S.jar).toOption :=
      k.jarUsable_afterProbe w S
    rw [Renderer.requestsIn, h]
    dsimp only
    cases hb : k.jarUsableIn w S.jar with
    | error f =>
      -- the drawing ends where the archive was to be looked for
      rw [Renderer.afterIn_of_not_usable h (by simp [hb]), List.append_nil]
      exact hprobe
    | ok b =>
      rw [hb] at hjar
      cases b with
      | false =>
        rw [Renderer.afterIn_of_not_usable h (by simp [hb])]
        exact hprobe.trans
          (serves_of_plain rfl hjar (plain_fallbackRequests S text) (heeds_fallbackRequests S text))
      | true =>
        -- looking for Graphviz comes in between, and goes by what was known of it before the archive was found
        have hprobes : ((k.afterProbe w S).goingBy S).layoutProbes = k.layoutProbes := by
          rw [Renderer.layoutProbes, Renderer.layoutProbes, ← k.graphvizThere_afterProbe w S]
          rfl
        have hlayout := serves_afterLayout (w := w) (k := (k.afterProbe w S).goingBy S) rfl hjar
        have hrest : (((k.afterProbe w S).goingBy S).afterLayout w).Serves _ _ := serves_of_plain rfl hjar
          ((plain_jarRequests S _).append (plain_requestsAfterJar S text _))
          (heeds_jarRequests S w text (k.layoutIn w text))
        rw [hprobes] at hlayout
        rw [Renderer.afterIn_of_usable h hb]
        dsimp only
        rw [List.append_assoc]
        exact hprobe.trans (hlayout.trans hrest)

/-- A state of a drawing is **served from** another if the renderer served on the way. -/
def ServedFrom (x y : Renderer × Host) : Prop :=
  x.1.Sound → ∃ qs, y.2.requests = x.2.requests ++ qs ∧ x.1.Serves qs y.1

instance : Std.Refl ServedFrom :=
  ⟨fun x _ => ⟨[], (List.append_nil _).symm, .refl x.1⟩⟩

instance : IsTrans (Renderer × Host) ServedFrom where
  trans x y z hxy hyz hk := by
    obtain ⟨qs, hrequests, hserves⟩ := hxy hk
    obtain ⟨qs', hrequests', hserves'⟩ := hyz (hserves.sound hk)
    exact ⟨qs ++ qs', by rw [hrequests', hrequests, List.append_assoc], hserves.trans hserves'⟩

/-- **Drawing a text is a service.** -/
theorem keeps_drawSvg (text : String) : (drawSvg text).Keeps ServedFrom := by
  rintro ⟨k, w⟩ hk
  obtain ⟨k', w', hrun, -, hrequests, rfl⟩ := (findsBy_drawSvg k w text).exists_run
  rw [hrun]
  exact ⟨_, hrequests, serves_afterIn hk w text⟩

/-- What is done on the host alone leaves a renderer as it is. -/
theorem keeps_onHost {act : Step Fault Host α} (h : Host.Quiet act) : (onHost act).Keeps ServedFrom :=
  fun x _ => ⟨[], (h x.2).trans (List.append_nil _).symm, .refl x.1⟩

/-- **Drawing a text and storing the image is a service**, in whatever format it is wanted. -/
theorem keeps_draw (source : String) (format : Choice) (target : FilePath) :
    (draw source format target).Keeps ServedFrom := by
  have hformat : (requireSvg format : Drawing Unit).Keeps ServedFrom := by
    cases format
    · exact Step.keeps_pure _
    all_goals exact Step.keeps_throw _
  have himage : (image source format).Keeps ServedFrom :=
    hformat.bind fun _ => (keeps_drawSvg source).bind fun svg => (Step.keeps_of _).bind fun _ => Step.keeps_pure _
  exact himage.bind fun bytes => keeps_onHost (quiet_storeImage target bytes)

/-! ### Drawing without settings, and drawing as decided -/

/-- **A drawing that finds no settings leaves no trace**: it fails for want of them, and what the renderer knows and
what was asked are as before. -/
theorem run_drawSvg_of_load_error {f : Fault} (hk : k.Sound) (hS : k.settings = none)
    (hload : ((Settings.load none).run w).1 = .error f) (text : String) :
    ∃ w', (drawSvg text).run (k, w) = (.error (settingsFault f), (k, w')) ∧ w'.world = w.world ∧
      w'.requests = w.requests := by
  have h : k.settingsIn w = .error (settingsFault f) := by
    rw [Renderer.settingsIn, hS]
    exact congrArg (·.mapError settingsFault) hload
  obtain ⟨-, hasked, hleft⟩ := eq_of_settingsIn_error hk h text
  obtain ⟨k', w', hrun, hworld, hrequests, rfl⟩ := (findsBy_drawSvg k w text).exists_run
  have hsvg : k.svgIn w text = .error (settingsFault f) := by
    rw [Renderer.svgIn, h]
    rfl
  rw [hsvg, hleft] at hrun
  rw [hasked, List.append_nil] at hrequests
  exact ⟨w', hrun, hworld, hrequests⟩

/-- So does a drawing whose image is to be stored. -/
theorem run_draw_of_load_error {f : Fault} (hk : k.Sound) (hS : k.settings = none)
    (hload : ((Settings.load none).run w).1 = .error f) (source : String) (target : FilePath) :
    ∃ w', (draw source .svg target).run (k, w) = (.error (settingsFault f), (k, w')) ∧ w'.world = w.world ∧
      w'.requests = w.requests := by
  obtain ⟨w', hrun, hleft⟩ := run_drawSvg_of_load_error hk hS hload source
  have himage : (image source .svg).run (k, w) = (.error (settingsFault f), (k, w')) :=
    (Step.run_bind_of_ok (Step.run_pure () _) _).trans (Step.run_bind_of_error hrun _)
  exact ⟨w', Step.run_bind_of_error himage _, hleft⟩

/-- **A renderer that has decided draws as it decided**: whatever has become of the files, the variables and the
programs, it answers the same and asks the same if the archive and the server answer the same, and if Graphviz is
there as it was or has been looked for already. -/
theorem drawSvg_congr_of_decided {b : Bool} {w' : Host} (hS : k.settings = some S) (hb : k.jarUsable = some b)
    (hdot : k.graphvizThere = none → w.programs.contains "dot" = w'.programs.contains "dot")
    (hruns : w.runs = w'.runs) (hfetches : w.fetches = w'.fetches) (text : String) :
    ((drawSvg text).run (k, w)).1 = ((drawSvg text).run (k, w')).1 ∧ ∃ qs,
      ((drawSvg text).run (k, w)).2.2.requests = w.requests ++ qs ∧
      ((drawSvg text).run (k, w')).2.2.requests = w'.requests ++ qs := by
  -- the host is asked for nothing that the renderer knows, whichever host it is
  have hsettings (w : Host) : k.settingsIn w = .ok S := by
    rw [Renderer.settingsIn, hS]
  have husable (w : Host) (jar : FilePath) : k.jarUsableIn w jar = .ok b := by
    rw [Renderer.jarUsableIn, hb]
  have hprobes (w : Host) (jar : FilePath) : k.jarProbes w jar = [] := by
    rw [Renderer.jarProbes, hb]
  -- Graphviz alone may still be unknown
  have hlayout : k.layoutIn w text = k.layoutIn w' text := by
    rw [Renderer.layoutIn, Renderer.layoutIn]
    cases hg : k.graphvizThere with
    | none => rw [hdot hg]
    | some g => rfl
  have hsvg : k.svgIn w text = k.svgIn w' text := by
    simp only [Renderer.svgIn, hsettings, husable, hlayout, svgByJar, svgByServer, hruns, hfetches]
  have hasked : k.requestsIn w text = k.requestsIn w' text := by
    simp only [Renderer.requestsIn, hsettings, husable, hprobes, hlayout, svgByJar, hruns]
  obtain ⟨_, _, hrun, -, hrequests, -⟩ := (findsBy_drawSvg k w text).exists_run
  obtain ⟨_, _, hrun', -, hrequests', -⟩ := (findsBy_drawSvg k w' text).exists_run
  refine ⟨?_, k.requestsIn w text, ?_, ?_⟩
  · rw [hrun, hrun', hsvg]
  · rw [hrun, hrequests]
  · rw [hrun', hrequests', hasked]

end PlantUml

end Landscape
