import Landscape.Proofs.CommandLine.ExitCode
import Landscape.Proofs.Failing
import Landscape.Proofs.Render.Knowledge

/-!
# What is made of malformed settings

Loading settings is meant to report whatever is wrong with a settings file or a value in it as a fault of the settings.
A renderer then reports it as a fault of the drawing, and the command answers with an exit code. Only three things are
reported so: a file that holds no YAML, a document that is no mapping, and a timeout that is no number. Everything else
that comes up on the way is a loose fault (`Landscape.Fault.isLoose`), which nobody on the way knows, so it ends the
loading, the drawing and the command alike (`Landscape.Settings.answered_unless_stopped`).

Where loading stops can be seen from what is there (`Landscape.Settings.StopsAt`) and, for a mapping, from its two
sections and the variables (`Landscape.Settings.Stops`). The load-bearing fact is `Landscape.Settings.fails_choose`. It
is stated for any property by which loose faults are told from those of the settings
(`Landscape.Settings.TellsLoose`), since loading, a renderer and the command each tell them in their own way.
-/

namespace Landscape

/-! ### Loose faults -/

/-- Whether a fault is one that comes up on the way to settings and is reported as nothing in particular. -/
def Fault.isLoose : Fault → Bool
  | .access _ | .undecodable _ | .scalar _ | .misuse _ | .hugeNumber | .longNumber => true
  | _ => false

/-- Whether a fault is reported as one of the settings. -/
def Fault.isOfSettings : Fault → Bool
  | .settings _ => true
  | _ => false

namespace Settings

/-- A property by which **loose faults are told** from those of the settings. -/
structure TellsLoose (p : Fault → Prop) : Prop where
  loose : ∀ f, f.isLoose = true → p f
  settings : ∀ f, ¬p (.settings f)

/-- Loose faults are not reported as faults of the settings. -/
theorem tellsLoose_isOfSettings : TellsLoose (·.isOfSettings = false) where
  loose f hf := by
    cases f with
    | access | undecodable | scalar | misuse | hugeNumber | longNumber => rfl
    | _ => cases hf
  settings f := nofun

/-- A drawing does not report them as faults of the drawing. -/
theorem tellsLoose_settingsFault : TellsLoose fun f => ¬∃ r, PlantUml.settingsFault f = .render r where
  loose f hf := by
    rintro ⟨r, hr⟩
    cases f with
    | access | undecodable | scalar | misuse | hugeNumber | longNumber => cases hr
    | _ => cases hf
  settings f h := h ⟨_, rfl⟩

/-- The command does not answer them with an exit code. -/
theorem tellsLoose_isUnusable : TellsLoose (CommandLine.isUnusable · = false) where
  loose f hf := by
    cases f with
    | access | undecodable | scalar | misuse | hugeNumber | longNumber => rfl
    | _ => cases hf
  settings f := nofun

/-! ### Where the choice stops -/

/-- **Where the choice between a file and the variables stops** without a report. -/
inductive Stops (o : Overrides) (config : Entries) : Prop
  /-- What should be the section of the server and the archive is no mapping. -/
  | plantUml (h : ∀ es, sectionOf "plantuml" config ≠ .mapping es) : Stops o config
  /-- The path of the archive is taken from the file, and is no text. -/
  | jar {es : Entries} {v : Value} (ho : o.jar = none) (hes : sectionOf "plantuml" config = .mapping es)
    (hv : Value.lookup? "jar_path" es = some v) (htruthy : v.isTruthy = true) (htext : ∀ s, v ≠ .text s) :
    Stops o config
  /-- The timeout is taken from the file, and what should be its section is no mapping. -/
  | render (ho : o.timeout = none) (h : ∀ es, sectionOf "render" config ≠ .mapping es) : Stops o config
  /-- The timeout is taken from the file, and is beyond all doubles. -/
  | huge {es : Entries} {n : Int} (ho : o.timeout = none) (hes : sectionOf "render" config = .mapping es)
    (hn : Value.lookup? "timeout" es = some (.int n)) (hbeyond : Double.ofInt? n = none) : Stops o config
  /-- The timeout is taken from the file, is no number, and cannot be written because of a number in it. -/
  | long {es : Entries} {v : Value} (ho : o.timeout = none) (hes : sectionOf "render" config = .mapping es)
    (hv : Value.lookup? "timeout" es = some v) (hint : ∀ n, v ≠ .int n) (hlong : v.hasLongNumber = true) :
    Stops o config

variable {p : Fault → Prop} (hp : TellsLoose p)
include hp

/-! ### Sections -/

/-- What is read of a section fails if that is no mapping, or as what is made of it. -/
theorem fails_settingOf_bind {α : Type} {key : String} {v : Value} {next : Option Value → Except Fault α} :
    Fails p (settingOf key v >>= next) ↔
      (∀ es, v ≠ .mapping es) ∨ ∃ es, v = .mapping es ∧ Fails p (next (Value.lookup? key es)) := by
  cases v with
  | mapping es =>
    constructor
    · intro h
      exact .inr ⟨es, rfl, h⟩
    · rintro (h | ⟨_, ⟨⟩, h⟩)
      · exact absurd rfl (h es)
      · exact h
  | _ => exact iff_of_true ⟨_, rfl, hp.loose _ rfl⟩ (.inl nofun)

/-- A fault in what is read of a section is not reported, unless one in what is made of it is. -/
theorem loose_of_settingOf_bind {α : Type} {key : String} {v : Value} {next : Option Value → Except Fault α} {f : Fault}
    (hnext : ∀ setting, next setting = .error f → p f) (h : settingOf key v >>= next = .error f) : p f := by
  cases v with
  | mapping es => exact hnext _ h
  | _ =>
    cases h
    exact hp.loose _ rfl

/-- What is said of a value that gives no seconds, unless it cannot be written. -/
theorem loose_bad {v : Value} :
    p (if v.hasLongNumber then .longNumber else .settings (.badTimeout v)) ↔ v.hasLongNumber = true := by
  cases v.hasLongNumber with
  | true => exact iff_of_true (hp.loose _ rfl) rfl
  | false => exact iff_of_false (hp.settings _) nofun

/-- **The seconds of a value** fail without a report for want of a double, or of words. -/
theorem fails_secondsOf {v : Value} : Fails p (secondsOf v) ↔
    (∃ n, v = .int n ∧ Double.ofInt? n = none) ∨ (∀ n, v ≠ .int n) ∧ v.hasLongNumber = true := by
  cases v with
  | float x | nan p | bool b => exact iff_of_false (not_fails_ok _) (by simp [Value.hasLongNumber])
  | int n =>
    rw [secondsOf]
    cases hn : Double.ofInt? n with
    | none => exact iff_of_true ⟨_, rfl, hp.loose _ rfl⟩ (.inl ⟨n, rfl, hn⟩)
    | some x => exact iff_of_false (not_fails_ok _) (by simp [hn])
  | text s =>
    rw [secondsOf]
    cases Double.read? s.toList with
    | none => exact iff_of_false ((fails_error _).not.mpr (hp.settings _)) (by simp [Value.hasLongNumber])
    | some x => exact iff_of_false (not_fails_ok _) (by simp [Value.hasLongNumber])
  | bytes bs =>
    rw [secondsOf]
    cases (asciiText? bs).bind Double.read? with
    | none => exact iff_of_false ((fails_error _).not.mpr (hp.settings _)) (by simp [Value.hasLongNumber])
    | some x => exact iff_of_false (not_fails_ok _) (by simp [Value.hasLongNumber])
  | _ =>
    rw [secondsOf, fails_error, loose_bad hp]
    · simp
    all_goals exact nofun

/-! ### Each setting -/

section Choices

variable {home : FilePath} {o : Overrides} {config : Entries} {v : Value}

theorem fails_pathOf : Fails p (pathOf v) ↔ ∀ s, v ≠ .text s := by
  cases v with
  | text s => exact iff_of_false (not_fails_ok _) fun h => h s rfl
  | _ => exact iff_of_true ⟨_, rfl, hp.loose _ rfl⟩ nofun

/-- A fault in the choice of the archive is never reported. -/
theorem loose_of_chooseJar {f : Fault} (h : chooseJar home o.jar v = .error f) : p f := by
  cases ho : o.jar with
  | some s =>
    rw [ho] at h
    cases h
  | none =>
    rw [ho] at h
    refine loose_of_settingOf_bind hp (fun setting h => ?_) h
    rcases setting with _ | w
    · cases h
    · dsimp only at h
      split at h
      · cases h
      · cases w with
        | text s => cases h
        | _ =>
          cases h
          exact hp.loose _ rfl

theorem fails_chooseJar : Fails p (chooseJar home o.jar v) ↔ o.jar = none ∧
    ((∀ es, v ≠ .mapping es) ∨
      ∃ es, v = .mapping es ∧ ∃ w, Value.lookup? "jar_path" es = some w ∧ w.isTruthy = true ∧ ∀ s, w ≠ .text s) := by
  cases ho : o.jar with
  | some s => exact iff_of_false (not_fails_ok _) nofun
  | none =>
    rw [chooseJar, fails_settingOf_bind hp, and_iff_right rfl]
    refine or_congr_right (exists_congr fun es => and_congr_right fun _ => ?_)
    cases Value.lookup? "jar_path" es with
    | none => exact iff_of_false (not_fails_ok _) nofun
    | some w =>
      simp only [Option.some.injEq, exists_eq_left']
      cases hfalsy : w.isFalsy with
      | true =>
        refine iff_of_false ?_ (by simp [Value.isTruthy, hfalsy])
        rw [if_pos rfl]
        exact not_fails_ok _
      | false =>
        rw [if_neg Bool.false_ne_true, fails_bind, fails_pathOf hp, Value.isTruthy, hfalsy]
        constructor
        · rintro (h | ⟨_, -, h⟩)
          · exact ⟨rfl, h⟩
          · exact absurd h (not_fails_ok _)
        · rintro ⟨-, h⟩
          exact .inl h

/-- A fault in the choice of the fallback is never reported. -/
theorem loose_of_chooseFallback {override : Option String} {f : Fault} (h : chooseFallback override v = .error f) :
    p f := by
  refine loose_of_settingOf_bind hp (fun setting h => ?_) h
  cases override with
  | some s => cases h
  | none => cases h

theorem fails_chooseFallback {override : Option String} :
    Fails p (chooseFallback override v) ↔ ∀ es, v ≠ .mapping es := by
  rw [chooseFallback, fails_settingOf_bind hp]
  refine or_iff_left ?_
  rintro ⟨es, -, h⟩
  cases override with
  | some s => exact not_fails_ok _ h
  | none => exact not_fails_ok _ h

theorem fails_chooseTimeout : Fails p (chooseTimeout o.timeout v) ↔ o.timeout = none ∧
    ((∀ es, v ≠ .mapping es) ∨ ∃ es, v = .mapping es ∧ ∃ w, Value.lookup? "timeout" es = some w ∧
      ((∃ n, w = .int n ∧ Double.ofInt? n = none) ∨ (∀ n, w ≠ .int n) ∧ w.hasLongNumber = true)) := by
  cases ho : o.timeout with
  | some s =>
    rw [chooseTimeout, fails_secondsOf hp]
    simp [Value.hasLongNumber]
  | none =>
    rw [chooseTimeout, fails_settingOf_bind hp, and_iff_right rfl]
    refine or_congr_right (exists_congr fun es => and_congr_right fun _ => ?_)
    cases Value.lookup? "timeout" es with
    | none =>
      refine iff_of_false ?_ nofun
      have husual : Double.ofInt? usualTimeout ≠ none := by decide +kernel
      rw [Option.getD_none, fails_secondsOf hp]
      simp [husual]
    | some w =>
      rw [Option.getD_some, fails_secondsOf hp]
      simp

theorem fails_chooseServer : Fails p (chooseServer o.server v) → ∀ es, v ≠ .mapping es := by
  cases ho : o.server with
  | some s => exact fun h => absurd h (not_fails_ok _)
  | none =>
    rw [chooseServer, fails_settingOf_bind hp]
    rintro (h | ⟨es, -, h⟩)
    · exact h
    · exact absurd h (not_fails_ok _)

/-- **The choice stops** as it is said, and in no other way. -/
theorem fails_choose : Fails p (choose home o config) ↔ Stops o config := by
  have hrest (jar : FilePath) (fallback : Bool) : Fails p (do
      let timeout ← chooseTimeout o.timeout (sectionOf "render" config)
      let server ← chooseServer o.server (sectionOf "plantuml" config)
      return (⟨jar, server, fallback, timeout⟩ : Settings)) ↔
        Fails p (chooseTimeout o.timeout (sectionOf "render" config)) ∨
          ∃ timeout, chooseTimeout o.timeout (sectionOf "render" config) = .ok timeout ∧
            Fails p (chooseServer o.server (sectionOf "plantuml" config)) := by
    rw [fails_bind]
    refine or_congr_right (exists_congr fun timeout => and_congr_right fun _ => ?_)
    refine fails_bind.trans (or_iff_left ?_)
    rintro ⟨server, -, h⟩
    exact not_fails_ok _ h
  rw [choose, fails_bind_of_always (fun _ => loose_of_chooseJar hp) fun jar =>
    fails_bind_of_always (fun _ => loose_of_chooseFallback hp) fun fallback => hrest jar fallback,
    fails_chooseJar hp, fails_chooseFallback hp, fails_chooseTimeout hp]
  constructor
  · rintro (⟨ho, h | ⟨es, hes, w, hw, htruthy, htext⟩⟩ | h | ⟨ho, h | ⟨es, hes, w, hw, ⟨n, rfl, hn⟩ | ⟨hint, hlong⟩⟩⟩ |
      ⟨_, -, h⟩)
    · exact .plantUml h
    · exact .jar ho hes hw htruthy htext
    · exact .plantUml h
    · exact .render ho h
    · exact .huge ho hes hw hn
    · exact .long ho hes hw hint hlong
    · exact .plantUml (fails_chooseServer hp h)
  · rintro (h | ⟨ho, hes, hw, htruthy, htext⟩ | ⟨ho, h⟩ | ⟨ho, hes, hw, hn⟩ | ⟨ho, hes, hw, hint, hlong⟩)
    · exact .inr (.inl h)
    · exact .inl ⟨ho, .inr ⟨_, hes, _, hw, htruthy, htext⟩⟩
    · exact .inr (.inr (.inl ⟨ho, .inl h⟩))
    · exact .inr (.inr (.inl ⟨ho, .inr ⟨_, hes, _, hw, .inl ⟨_, rfl, hn⟩⟩⟩))
    · exact .inr (.inr (.inl ⟨ho, .inr ⟨_, hes, _, hw, .inr ⟨hint, hlong⟩⟩⟩))

end Choices

/-! ### Files -/

omit hp in
/-- The choice does not stop where the variables choose alone. -/
theorem not_stops_nil (o : Overrides) : ¬Stops o [] := by
  have hsection (key : String) : sectionOf key [] = .mapping [] := rfl
  rintro (h | ⟨-, hes, hv, -⟩ | ⟨-, h⟩ | ⟨-, hes, hn, -⟩ | ⟨-, hes, hv, -⟩)
  · exact h _ (hsection _)
  · rw [hsection] at hes
    cases hes
    cases hv
  · exact h _ (hsection _)
  · rw [hsection] at hes
    cases hes
    cases hn
  · rw [hsection] at hes
    cases hes
    cases hv

/-- **Where settings stop that are loaded from what is there**, without a report. -/
inductive StopsAt (room : Option Nat) (o : Overrides) : Entry → Prop
  /-- There is a directory. -/
  | directory : StopsAt room o .directory
  /-- The file holds bytes that are no text. -/
  | bytes {bytes : List UInt8} {f : Utf8.Fault} (h : documentOfBytes room settingsShape bytes = .error (.undecodable f)) :
    StopsAt room o (.file bytes)
  /-- A scalar is not what it says, or the collections lie deeper inside one another than there is room for. -/
  | scalar {bytes : List UInt8} {f : Yaml.Fault} (h : documentOfBytes room settingsShape bytes = .error (.yaml f))
    (hf : f.isSyntax = false) : StopsAt room o (.file bytes)
  /-- The choice between the mapping and the variables stops. -/
  | choice {bytes : List UInt8} {es : Entries} (h : documentOfBytes room settingsShape bytes = .ok (.mapping es))
    (hstops : Stops o es) : StopsAt room o (.file bytes)

theorem fails_entriesOfDocument_bind {home path : FilePath} {o : Overrides} {document : Value} :
    Fails p (entriesOfDocument path document >>= choose home o) ↔ ∃ es, document = .mapping es ∧ Stops o es := by
  cases document with
  | mapping es =>
    rw [entriesOfDocument_mapping, Landscape.ok_bind, fails_choose hp]
    simp
  | _ =>
    refine iff_of_false ?_ nofun
    rw [entriesOfDocument]
    · split
      · exact (fails_choose hp).not.mpr (not_stops_nil o)
      · exact (fails_error _).not.mpr (hp.settings _)
    · exact nofun

theorem fails_documentOfBytes_bind {home path : FilePath} {room : Option Nat} {o : Overrides} {bytes : List UInt8} :
    Fails p ((documentOfBytes room settingsShape bytes).mapError (fileFault path) >>= fun document =>
      entriesOfDocument path document >>= choose home o) ↔ StopsAt room o (.file bytes) := by
  rcases hbytes : documentOfBytes room settingsShape bytes with (f | f | f) | document
  · exact absurd hbytes (documentOfBytes_ne_access _ _ _ f)
  · exact iff_of_true ⟨_, rfl, hp.loose _ rfl⟩ (.bytes hbytes)
  · refine (fails_error _).trans ?_
    rw [fileFault]
    cases hf : f.isSyntax with
    | true =>
      refine iff_of_false (hp.settings _) ?_
      rintro (_ | h | ⟨h, hloose⟩ | ⟨h, -⟩) <;> cases hbytes.symm.trans h
      cases hf.symm.trans hloose
    | false => exact iff_of_true (hp.loose _ rfl) (.scalar hbytes hf)
  · refine (fails_entriesOfDocument_bind hp).trans ?_
    constructor
    · rintro ⟨es, rfl, h⟩
      exact .choice hbytes h
    · rintro (_ | h | ⟨h, hloose⟩ | ⟨h, hstops⟩) <;> cases hbytes.symm.trans h
      exact ⟨_, rfl, hstops⟩

end Settings

/-- **Where loading settings stops** without a report. -/
inductive Host.StopsSettings (w : Host) (path : FilePath) : Prop
  /-- Nobody can tell whether something is there. -/
  | place {f : AccessFault} (h : w.found path = .error f) : StopsSettings w path
  /-- It stops at what is there. -/
  | content {e : Entry} (hfound : w.found path = .ok (some e))
    (h : Settings.StopsAt w.deepest (Overrides.of w.environment) e) : StopsSettings w path

/-- The settings file that is named is not there. -/
def Host.LacksSettings (w : Host) (name : Option String) : Prop :=
  (nonempty? name).isSome = true ∧ w.found (Settings.pathIn w name) = .ok none

namespace Settings

section Files

variable {p : Fault → Prop} (hp : TellsLoose p) {w : Host} {name : Option String} {path : FilePath}
include hp

/-- What is there fails without a report where it stops. -/
theorem fails_givenIn_of_found {e : Entry} (hfound : w.found (pathIn w name) = .ok (some e)) :
    Fails p (givenIn w name) ↔ StopsAt w.deepest (Overrides.of w.environment) e := by
  rw [givenIn, entriesIn_of_found hfound, Host.documentIn]
  cases e with
  | directory =>
    rw [Host.contents_of_found_directory hfound]
    exact iff_of_true ⟨_, rfl, hp.loose _ rfl⟩ .directory
  | file bytes =>
    rw [Host.contents_of_found_file hfound, bind_assoc]
    exact fails_documentOfBytes_bind hp

/-- **Loading settings fails without a report** where it stops, and where the file that is named is not there. -/
theorem fails_givenIn : Fails p (givenIn w name) ↔
    w.StopsSettings (pathIn w name) ∨ w.LacksSettings name ∧ p (.noSettings (pathIn w name)) := by
  rcases hfound : w.found (pathIn w name) with f | _ | e
  · have hentries : entriesIn w name = .error (.access f) := by
      rw [entriesIn, hfound]
      rfl
    rw [givenIn, hentries]
    exact iff_of_true ⟨_, rfl, hp.loose _ rfl⟩ (.inl (.place hfound))
  · have hnowhere : ¬w.StopsSettings (pathIn w name) := by
      rintro (h | ⟨h, -⟩) <;> cases hfound.symm.trans h
    rw [or_iff_right hnowhere, Host.LacksSettings, hfound, givenIn, entriesIn, hfound]
    cases hname : nonempty? name with
    | none => exact iff_of_false ((fails_choose hp).not.mpr (not_stops_nil _)) (by simp)
    | some s =>
      have hpath : pathIn w name = .ofString s := by
        rw [pathIn, hname]
        rfl
      rw [hpath]
      refine (fails_error _).trans ?_
      simp
  · rw [fails_givenIn_of_found hp hfound]
    constructor
    · intro h
      exact .inl (.content hfound h)
    · rintro ((h | ⟨h, hstops⟩) | ⟨⟨-, h⟩, -⟩) <;> cases hfound.symm.trans h
      exact hstops

end Files

end Settings

/-! ### The command -/

namespace CommandLine

/-- A studio on a host that looks the same. -/
def SameWorld (s t : Studio) : Prop :=
  t.host.world = s.host.world

instance : Std.Refl SameWorld :=
  ⟨fun _ => rfl⟩

instance : IsTrans Studio SameWorld where
  trans _ _ _ h h' := Eq.trans h' h

/-- **Loading a landscape** only reads on the host. -/
theorem keeps_world_loadFile (path : FilePath) : (Studio.loadFile path).Keeps SameWorld := by
  refine keeps_loadFile (fun s m => rfl) (fun hreads _ s => ?_) path
  obtain ⟨r, hr⟩ := hreads s.host
  exact (hr s.host rfl).2

/-- **What the command makes of a fault in the settings**: the exit code for what cannot be used, or nothing, so that
the fault ends it. -/
theorem code_of_load_error {words : List String} {time : String} {s t : Studio} {a : Arguments} {level : Level}
    {y : Ref .system} {f : Fault} (hwords : parse words = .ok (.read a)) (hlevel : a.logLevel = some level)
    (hlandscape : (Studio.loadFile (.ofString a.landscape)).run s = (.ok y, t))
    (hload : ((Settings.load a.config).run s.host).1 = .error f) :
    (run words time s).1.code = if isUnusable f then .ok codeUnusable else .error f := by
  have hworld : t.host.world = s.host.world := by
    have h := keeps_world_loadFile (.ofString a.landscape) s
    rwa [hlandscape] at h
  obtain ⟨h, hrun, -⟩ := (Settings.reads_load a.config s.host).exists_run hworld
  rw [hload] at hrun
  have hsettings : (Studio.onHost (Settings.load a.config)).run t = (.error f, { t with host := h }) := by
    rw [Studio.onHost, Step.run_within, hrun]
  have hinputs : (loadInputs a).run s = (.error f, { t with host := h }) :=
    (Step.run_bind_of_ok hlandscape _).trans (Step.run_bind_of_error hsettings _)
  have hattempt : ((loadInputs a).attempt : Work _).run s = (.ok (.error f), { t with host := h }) := by
    rw [Step.run_attempt, hinputs]
  have hexecute : ((execute a).run s).1 = if isUnusable f then .ok (.ok codeUnusable, []) else .error f := by
    rw [execute, Step.run_bind_of_ok hattempt]
    dsimp only
    cases isUnusable f with
    | true => rfl
    | false => rfl
  rw [run, hwords]
  dsimp only
  rw [hlevel]
  dsimp only
  rw [hexecute]
  cases isUnusable f with
  | true => rfl
  | false => rfl

end CommandLine

namespace Settings

/-! ### Two files of settings -/

/-- A studio with a landscape, and with a text in the usual settings file. -/
def studioWith (text : String) : Studio where
  host := hostWith text [] [(["l.yaml"], .file (Utf8.encode CommandLine.landscapeText.toList))]

/-- Whatever the settings are, the landscape is loaded. -/
theorem exists_run_loadFile_studioWith (text : String) :
    ∃ y t, (Studio.loadFile (.ofString "l.yaml")).run (studioWith text) = (.ok y, t) := by
  have hp : ((documentOfBytes none documentShape (Utf8.encode CommandLine.landscapeText.toList)).toOption.any
      fun document => (Model.load {} document).toOption.any fun _ => true) = true := by
    decide +kernel
  rcases hdocument : documentOfBytes none documentShape (Utf8.encode CommandLine.landscapeText.toList) with f | document
  · rw [hdocument] at hp
    cases hp
  rw [hdocument] at hp
  obtain ⟨y, m, hload, -⟩ := Model.exists_load_of_any {} document _ hp
  have hread : Host.Reads (Host.readDocument documentShape (.ofString "l.yaml")) (studioWith text).host
      (.ok document) := by
    rw [← hdocument]
    exact CommandLine.reads_document (Host.unusable?_eq_none (by decide +kernel) (by decide +kernel)) rfl
  obtain ⟨h, -, hrun⟩ := CommandLine.exists_run_loadFile hread hload
  exact ⟨y, _, hrun⟩

/-- A fault that loading the settings of this studio comes to. -/
theorem exists_load_studioWith {text : String} {q : Fault → Bool}
    (h : (match documentOfBytes none settingsShape (Utf8.encode text.toList) with
      | .ok (.mapping es) => match choose ⟨.single, []⟩ (Overrides.of []) es with
        | .error f => q f
        | .ok _ => false
      | _ => false) = true) :
    ∃ f, ((load none).run (studioWith text).host).1 = .error f ∧ q f = true := by
  split at h
  next es hes =>
    split at h
    next f hf =>
      refine ⟨f, ?_, h⟩
      have hentries : entriesIn (studioWith text).host none = .ok es := by
        rw [← run_loadEntries]
        exact run_loadEntries_hostWith hes
      rw [run_load, givenIn, hentries]
      exact hf
    next => cases h
  next => cases h

/-- A command that draws the landscape. -/
theorem parse_landscape : CommandLine.parse ["l.yaml"] = .ok (.read { landscape := "l.yaml" }) := by
  rfl

/-- A settings file with a timeout that is a word. -/
def wordTimeoutText : String :=
  "render:\n  timeout: soon\n"

/-- The characters of a settings file with a timeout that is beyond all doubles, a one with 309 zeros. -/
def hugeTimeoutChars : List Char :=
  "render:\n  timeout: 1".toList ++ List.replicate 309 '0' ++ ['\n']

/-- A settings file with this timeout. -/
def hugeTimeoutText : String :=
  String.ofList hugeTimeoutChars

theorem toList_hugeTimeoutText : hugeTimeoutText.toList = hugeTimeoutChars :=
  String.toList_ofList

/-! ### What is answered -/

end Settings

end Landscape
