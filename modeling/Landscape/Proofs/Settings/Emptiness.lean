import Landscape.Proofs.Settings.Masking
import Mathlib.Logic.Relation

/-!
# Settings with nothing in them

A key of the settings file may be null and a variable may be empty. Mostly this says nothing: taking such a key or such a
variable away (`Landscape.Settings.DropsEmpty`) leaves what the settings come to as it is, one by one
(`Landscape.Settings.DropsEmpty.choose_eq`) and so however many are taken away
(`Landscape.Settings.empty_says_nothing`).

The fallback is different. Its variable says something whenever it is there, and an empty one turns the fallback on. A key
that is null and hidden by its variable may be taken away, whichever it is. Not so a null fallback and a null timeout that
are not hidden: they are not the same as none (`Landscape.Settings.empty_ne_unset`).
-/

namespace Landscape

/-- A table **lacks a key** of another one: nothing is found under it, and the rest is as it was. -/
def LacksKey {ν : Type} (key : String) (look look' : String → Option ν) : Prop :=
  look' key = none ∧ ∀ k, k ≠ key → look' k = look k

/-- Whether a value is the text of a key. -/
def isKey (key : String) : Value → Bool
  | .text k => k == key
  | _ => false

theorem lookup_filter {ν : Type} (k key : String) (table : List (String × ν)) :
    (table.filter (·.1 != key)).lookup k = if k = key then none else table.lookup k := by
  induction table with
  | nil => simp
  | cons entry table ih => grind

theorem lookup?_filter (k key : String) (es : Entries) :
    Value.lookup? k (es.filter fun e => !isKey key e.1) = if k = key then none else Value.lookup? k es := by
  induction es with
  | nil => simp [Value.lookup?]
  | cons e es ih =>
    obtain ⟨k', v⟩ := e
    cases k' with
    | text k' => grind [isKey, Value.lookup?]
    | _ => simpa [isKey, Value.lookup?, List.filter_cons] using ih

/-- Taking a variable away leaves variables that lack it. -/
theorem lacksKey_filter {ν : Type} (key : String) (table : List (String × ν)) :
    LacksKey key (List.lookup · table) (List.lookup · (table.filter (·.1 != key))) := by
  simp +contextual [LacksKey, lookup_filter]

/-- Taking a key away leaves entries that lack it. -/
theorem lacksKey_filter_entries (key : String) (es : Entries) :
    LacksKey key (Value.lookup? · es) (Value.lookup? · (es.filter fun e => !isKey key e.1)) := by
  simp +contextual [LacksKey, lookup?_filter]

/-! ### Sections -/

section Sections

variable {key : String} {config config' : Entries}

theorem sectionOf_congr (h : Value.lookup? key config' = Value.lookup? key config) :
    sectionOf key config' = sectionOf key config := by
  rw [sectionOf, sectionOf, Entries.get, Entries.get, h]

theorem sectionOf_of_null (h : Value.lookup? key config = some .null) : sectionOf key config = .mapping [] := by
  rw [sectionOf, Entries.get, h]
  rfl

theorem sectionOf_of_none (h : Value.lookup? key config = none) : sectionOf key config = .mapping [] := by
  rw [sectionOf, Entries.get, h]
  rfl

theorem sectionOf_of_mapping {es : Entries} (h : Value.lookup? key config = some (.mapping es)) :
    sectionOf key config = .mapping es := by
  rw [sectionOf, Entries.get, h]
  cases es with
  | nil => rfl
  | cons e es => rfl

end Sections

theorem Setting.key_injective : Function.Injective Setting.key := by
  intro x y h
  cases x <;> cases y <;> first | rfl | exact absurd h (by decide)

namespace Settings

/-! ### Taking away what is empty -/

/-- What settings are chosen from: the mapping of the file, and the variables. -/
structure Sources where
  config : Entries
  environment : List (String × String)

/-- **Something empty is taken away**, in one of three ways. -/
inductive DropsEmpty : Sources → Sources → Prop
  /-- A section that is null. -/
  | ofSection {s : Sources} {config : Entries} (x : Setting)
    (hnull : Value.lookup? x.title s.config = some .null)
    (hlacks : LacksKey x.title (Value.lookup? · s.config) (Value.lookup? · config)) :
    DropsEmpty s { s with config }
  /-- A key that is null, in a section. The fallback and the timeout have to be hidden by their variables. -/
  | ofKey {s : Sources} {config es es' : Entries} (x : Setting)
    (hkind : x = .jar ∨ x = .server ∨ x.Overridden s.environment)
    (hsection : Value.lookup? x.title s.config = some (.mapping es)) (hnull : Value.lookup? x.key es = some .null)
    (hsection' : Value.lookup? x.title config = some (.mapping es'))
    (hlacks : LacksKey x.key (Value.lookup? · es) (Value.lookup? · es'))
    (hothers : ∀ title, title ≠ x.title → Value.lookup? title config = Value.lookup? title s.config) :
    DropsEmpty s { s with config }
  /-- A variable that is empty, but not that of the fallback. -/
  | ofVariable {s : Sources} {environment : List (String × String)} (x : Setting) (hkind : x ≠ .fallback)
    (hempty : s.environment.lookup x.variableName = some "")
    (hlacks : LacksKey x.variableName (List.lookup · s.environment) (List.lookup · environment)) :
    DropsEmpty s { s with environment }

/-! ### Settings that are read alike -/

section Choice

variable {home : FilePath} {o : Overrides} {config config' : Entries}

/-- A setting is **read alike** twice: the same is read, or it is null once and then is not there, and there is leave
for this. -/
def ReadAlike (leave : Prop) (r r' : Except Fault (Option Value)) : Prop :=
  r = r' ∨ r = .ok (some .null) ∧ r' = .ok none ∧ leave

section ReadAlike

variable {leave : Prop} {override : Option String} {v v' : Value}

theorem ReadAlike.mono {leave' : Prop} {r r' : Except Fault (Option Value)} (h : ReadAlike leave r r')
    (hleave : leave → leave') : ReadAlike leave' r r' :=
  h.imp_right fun ⟨hnull, hnone, hl⟩ => ⟨hnull, hnone, hleave hl⟩

theorem chooseJar_of_readAlike (h : ReadAlike leave (settingOf "jar_path" v) (settingOf "jar_path" v')) :
    chooseJar home override v = chooseJar home override v' := by
  obtain hsame | ⟨hnull, hnone, -⟩ := h
  · exact chooseJar_congr fun _ => hsame
  · cases override with
    | some s => rfl
    | none =>
      rw [chooseJar, chooseJar, hnull, hnone]
      rfl

theorem chooseServer_of_readAlike (h : ReadAlike leave (settingOf "server_url" v) (settingOf "server_url" v')) :
    chooseServer override v = chooseServer override v' := by
  obtain hsame | ⟨hnull, hnone, -⟩ := h
  · exact chooseServer_congr fun _ => hsame
  · cases override with
    | some s => rfl
    | none =>
      rw [chooseServer, chooseServer, hnull, hnone]
      rfl

/-- A fallback that is hidden is read, and then dropped. -/
theorem chooseFallback_of_readAlike
    (h : ReadAlike (override.isSome = true) (settingOf "http_fallback" v) (settingOf "http_fallback" v')) :
    chooseFallback override v = chooseFallback override v' := by
  rw [chooseFallback, chooseFallback]
  obtain hsame | ⟨hnull, hnone, hgiven⟩ := h
  · rw [hsame]
  · obtain ⟨s, rfl⟩ := Option.isSome_iff_exists.mp hgiven
    rw [hnull, hnone]
    rfl

theorem chooseTimeout_of_readAlike
    (h : ReadAlike (override.isSome = true) (settingOf "timeout" v) (settingOf "timeout" v')) :
    chooseTimeout override v = chooseTimeout override v' := by
  obtain hsame | ⟨-, -, hgiven⟩ := h
  · exact chooseTimeout_congr fun _ => hsame
  · obtain ⟨s, rfl⟩ := Option.isSome_iff_exists.mp hgiven
    rfl

end ReadAlike

/-- **Mappings that are read alike lead to the same settings**, or to the same fault. -/
theorem choose_eq_of_readAlike (h : ∀ x : Setting, ReadAlike (x = .jar ∨ x = .server ∨ o.gives x = true)
      (settingOf x.key (sectionOf x.title config)) (settingOf x.key (sectionOf x.title config'))) :
    choose home o config = choose home o config' := by
  have hjar : chooseJar home o.jar (sectionOf "plantuml" config) =
      chooseJar home o.jar (sectionOf "plantuml" config') :=
    chooseJar_of_readAlike (h .jar)
  have hfallback : chooseFallback o.fallback (sectionOf "plantuml" config) =
      chooseFallback o.fallback (sectionOf "plantuml" config') :=
    chooseFallback_of_readAlike ((h .fallback).mono fun hl => (hl.resolve_left nofun).resolve_left nofun)
  have htimeout : chooseTimeout o.timeout (sectionOf "render" config) =
      chooseTimeout o.timeout (sectionOf "render" config') :=
    chooseTimeout_of_readAlike ((h .timeout).mono fun hl => (hl.resolve_left nofun).resolve_left nofun)
  have hserver : chooseServer o.server (sectionOf "plantuml" config) =
      chooseServer o.server (sectionOf "plantuml" config') :=
    chooseServer_of_readAlike (h .server)
  rw [choose, hjar, hfallback, htimeout, hserver, choose]

/-- An override for the fallback replaces it, and nothing else. -/
theorem choose_of_fallback (s : String) : choose home { o with fallback := some s } config =
    (choose home { o with fallback := none } config).map fun S => { S with fallback := !saysOff s } := by
  rw [choose, choose]
  dsimp only
  cases chooseJar home o.jar (sectionOf "plantuml" config) with
  | error f => rfl
  | ok jar =>
    rw [Landscape.ok_bind, Landscape.ok_bind, chooseFallback, chooseFallback]
    cases settingOf "http_fallback" (sectionOf "plantuml" config) with
    | error f => rfl
    | ok v =>
      cases chooseTimeout o.timeout (sectionOf "render" config) with
      | error f => rfl
      | ok timeout =>
        cases chooseServer o.server (sectionOf "plantuml" config) with
        | error f => rfl
        | ok server => rfl

end Choice

/-! ### One step, and all of them -/

/-- What the variables say, by their settings. -/
theorem overrides_of (environment : List (String × String)) : Overrides.of environment =
    { jar := nonempty? (environment.lookup Setting.jar.variableName)
      server := nonempty? (environment.lookup Setting.server.variableName)
      fallback := environment.lookup Setting.fallback.variableName
      timeout := nonempty? (environment.lookup Setting.timeout.variableName) } :=
  rfl

/-- Without an empty variable, the variables say the same, unless it was that of the fallback. -/
theorem overrides_of_lacksKey {x : Setting} {environment environment' : List (String × String)} (hkind : x ≠ .fallback)
    (hempty : environment.lookup x.variableName = some "")
    (hlacks : LacksKey x.variableName (List.lookup · environment) (List.lookup · environment')) :
    Overrides.of environment' = Overrides.of environment := by
  have hgone : environment'.lookup x.variableName = none := hlacks.1
  have hothers (y : Setting) (hy : y ≠ x) : environment'.lookup y.variableName = environment.lookup y.variableName :=
    hlacks.2 _ fun h => hy (Setting.variableName_injective h)
  have hsame (y : Setting) : nonempty? (environment'.lookup y.variableName) =
      nonempty? (environment.lookup y.variableName) := by
    by_cases hy : y = x
    · rw [hy, hgone, hempty]
      rfl
    · rw [hothers y hy]
  rw [overrides_of, overrides_of, hsame .jar, hsame .server, hsame .timeout, hothers .fallback hkind.symm]

variable {s s' : Sources} {home : FilePath}

/-- **Taking away something empty changes nothing.** -/
theorem DropsEmpty.choose_eq (h : DropsEmpty s s') :
    choose home (Overrides.of s.environment) s.config = choose home (Overrides.of s'.environment) s'.config := by
  cases h with
  | ofSection x hnull hlacks =>
    refine choose_eq_of_readAlike fun y => .inl ?_
    by_cases hy : y.title = x.title
    · rw [hy, sectionOf_of_null hnull, sectionOf_of_none hlacks.1]
    · rw [sectionOf_congr (hlacks.2 _ hy)]
  | @ofKey config es es' x hkind hsection hnull hsection' hlacks hothers =>
    refine choose_eq_of_readAlike fun y => ?_
    by_cases hy : y = x
    · refine .inr ?_
      rw [hy, sectionOf_of_mapping hsection, sectionOf_of_mapping hsection']
      exact ⟨congrArg Except.ok hnull, congrArg Except.ok hlacks.1, hkind.imp_right (.imp_right Overrides.gives_of.mpr)⟩
    · refine .inl ?_
      by_cases htitle : y.title = x.title
      · rw [htitle, sectionOf_of_mapping hsection, sectionOf_of_mapping hsection']
        exact congrArg Except.ok (hlacks.2 y.key fun h => hy (Setting.key_injective h)).symm
      · rw [sectionOf_congr (hothers _ htitle)]
  | ofVariable x hkind hempty hlacks => rw [overrides_of_lacksKey hkind hempty hlacks]

/-- So does taking away any number of such things. -/
theorem choose_eq_of_drops (h : Relation.ReflTransGen DropsEmpty s s') :
    choose home (Overrides.of s.environment) s.config = choose home (Overrides.of s'.environment) s'.config := by
  induction h with
  | refl => rfl
  | tail _ hstep ih => exact ih.trans hstep.choose_eq

/-! ### Loading -/

/-- A variable of the fallback that is empty turns it on, and changes nothing else. -/
theorem run_load_of_emptyFallback {w : Host} {environment : List (String × String)} (name : Option String)
    (hempty : w.environment.lookup Setting.fallback.variableName = some "")
    (hlacks : LacksKey Setting.fallback.variableName (List.lookup · w.environment) (List.lookup · environment)) :
    ((load name).run w).1 = ((load name).run { w with environment }).1.map fun S => { S with fallback := true } := by
  have hgone : environment.lookup Setting.fallback.variableName = none := hlacks.1
  have hsame (y : Setting) (hy : y ≠ .fallback) :
      environment.lookup y.variableName = w.environment.lookup y.variableName :=
    hlacks.2 _ fun h => hy (Setting.variableName_injective h)
  have hentries : entriesIn { w with environment } name = entriesIn w name := rfl
  have hwords : (!saysOff "") = true := by decide
  rw [run_load, run_load, givenIn, givenIn, hentries, overrides_of, overrides_of, hempty, hgone,
    hsame .jar (by decide), hsame .server (by decide), hsame .timeout (by decide)]
  cases entriesIn w name with
  | error f => rfl
  | ok config =>
    rw [Landscape.ok_bind, Landscape.ok_bind]
    refine (choose_of_fallback (o := Overrides.of w.environment) "").trans ?_
    rw [hwords]
    rfl

/-! ### Three files of settings -/

/-- What a file with two sections holds. -/
def sections (plantUml render : Entries) : Entries :=
  [(.text "plantuml", .mapping plantUml), (.text "render", .mapping render)]

/-- Two such files with the same second section say the same of everything but the first. -/
theorem lookup?_sections_left {title : String} (h : title ≠ "plantuml") (es es' fs : Entries) :
    Value.lookup? title (sections es' fs) = Value.lookup? title (sections es fs) := by
  simp [sections, Value.lookup?, h.symm]

theorem lookup?_sections_right {title : String} (h : title ≠ "render") (es fs fs' : Entries) :
    Value.lookup? title (sections es fs') = Value.lookup? title (sections es fs) := by
  simp [sections, Value.lookup?, h.symm]

/-- A section with one key, that is null or a truth value. -/
def sectionWith (key : String) (b : Option Bool) : Entries :=
  [(.text key, b.elim .null .bool)]

/-- Whether a section is such a one. -/
def isSectionWith (key : String) (b : Option Bool) : Entries → Bool
  | [(.text k, .null)] => k == key && b == none
  | [(.text k, .bool c)] => k == key && b == some c
  | _ => false

theorem eq_sectionWith {key : String} {b : Option Bool} {es : Entries} (h : isSectionWith key b es = true) :
    es = sectionWith key b := by
  unfold isSectionWith at h
  split at h
  next k =>
    obtain ⟨rfl, rfl⟩ : k = key ∧ b = none := by simpa using h
    rfl
  next k c =>
    obtain ⟨rfl, rfl⟩ : k = key ∧ b = some c := by simpa using h
    rfl
  next => cases h

/-- Whether a file holds two sections of some kind. -/
def isSections (p r : Entries → Bool) : Except DocumentFileFault Value → Bool
  | .ok (.mapping [(.text k, .mapping es), (.text k', .mapping fs)]) =>
    k == "plantuml" && k' == "render" && p es && r fs
  | _ => false

/-- What is read of a file that holds two sections of some kind. -/
theorem exists_sections {p r : Entries → Bool} {text : String}
    (h : isSections p r (documentOfBytes none settingsShape (Utf8.encode text.toList)) = true)
    (environment : List (String × String)) :
    ∃ es fs, ((loadEntries none).run (hostWith text environment [])).1 = .ok (sections es fs) ∧
      p es = true ∧ r fs = true := by
  unfold isSections at h
  split at h
  next k es k' fs hdocument =>
    obtain ⟨⟨⟨rfl, rfl⟩, hes⟩, hfs⟩ : ((k = "plantuml" ∧ k' = "render") ∧ p es = true) ∧ r fs = true := by
      simpa using h
    exact ⟨es, fs, run_loadEntries_hostWith hdocument, hes, hfs⟩
  next => cases h

/-- A settings file with a null fallback and a null timeout. -/
def nullText : String :=
  "plantuml:\n  http_fallback:\nrender:\n  timeout:\n"

/-- The same file without these two keys. -/
def bareText : String :=
  "plantuml: \x7b\x7d\nrender: \x7b\x7d\n"

/-- A settings file that turns the fallback off. -/
def offText : String :=
  "plantuml:\n  http_fallback: false\nrender: \x7b\x7d\n"

theorem run_loadEntries_nullText (environment : List (String × String)) :
    ((loadEntries none).run (hostWith nullText environment [])).1 =
      .ok (sections (sectionWith "http_fallback" none) (sectionWith "timeout" none)) := by
  have hkind : isSections (isSectionWith "http_fallback" none) (isSectionWith "timeout" none)
      (documentOfBytes none settingsShape (Utf8.encode nullText.toList)) = true := by
    decide +kernel
  obtain ⟨es, fs, hentries, hes, hfs⟩ := exists_sections hkind environment
  rw [hentries, eq_sectionWith hes, eq_sectionWith hfs]

theorem run_loadEntries_bareText (environment : List (String × String)) :
    ((loadEntries none).run (hostWith bareText environment [])).1 = .ok (sections [] []) := by
  have hkind : isSections List.isEmpty List.isEmpty
      (documentOfBytes none settingsShape (Utf8.encode bareText.toList)) = true := by
    decide +kernel
  obtain ⟨es, fs, hentries, hes, hfs⟩ := exists_sections hkind environment
  rw [hentries, List.isEmpty_iff.mp hes, List.isEmpty_iff.mp hfs]

theorem run_loadEntries_offText (environment : List (String × String)) :
    ((loadEntries none).run (hostWith offText environment [])).1 =
      .ok (sections (sectionWith "http_fallback" (some false)) []) := by
  have hkind : isSections (isSectionWith "http_fallback" (some false)) List.isEmpty
      (documentOfBytes none settingsShape (Utf8.encode offText.toList)) = true := by
    decide +kernel
  obtain ⟨es, fs, hentries, hes, hfs⟩ := exists_sections hkind environment
  rw [hentries, eq_sectionWith hes, List.isEmpty_iff.mp hfs]

/-! ### What empty settings say -/

/-- **An empty setting says nothing**, but for the variable of the fallback. What loading settings comes to, settings or a
fault, stays the same if sections, keys and variables that are empty are taken away, as many as one likes: null sections,
null keys of the archive and of the server, null keys that a variable hides, and empty variables. The variable of the
fallback says something even if it is empty: then settings are loaded as without it, but with the fallback turned on. -/
theorem empty_says_nothing :
    (∀ (w w' : Host) (name name' : Option String) (config config' : Entries), w'.home = w.home →
      ((loadEntries name).run w).1 = .ok config → ((loadEntries name').run w').1 = .ok config' →
      Relation.ReflTransGen DropsEmpty ⟨config, w.environment⟩ ⟨config', w'.environment⟩ →
      ((load name).run w).1 = ((load name').run w').1) ∧
    ∀ (w : Host) (environment : List (String × String)) (name : Option String),
      w.environment.lookup Setting.fallback.variableName = some "" →
      LacksKey Setting.fallback.variableName (List.lookup · w.environment) (List.lookup · environment) →
      ((load name).run w).1 =
        ((load name).run { w with environment }).1.map fun S => { S with fallback := true } := by
  constructor
  · intro w w' name name' config config' hhome hconfig hconfig' h
    rw [run_load_of_entries hconfig, run_load_of_entries hconfig', hhome]
    exact choose_eq_of_drops h
  · intro w environment name hempty hlacks
    exact run_load_of_emptyFallback name hempty hlacks

/-- Variables that hide a null fallback and a null timeout. -/
def hidingVariables : List (String × String) :=
  [("MSVIZ_HTTP_FALLBACK", "off"), ("MSVIZ_RENDER_TIMEOUT", "5")]

/-- Where both are hidden, a file with a null fallback and a null timeout leads to the same as one without them, and an
empty variable for the archive makes no difference. An empty variable for the fallback turns it on. -/
theorem empty_says_nothing_hidden :
    (∃ S, ((load none).run (hostWith nullText (("PLANTUML_JAR_PATH", "") :: hidingVariables) [])).1 = .ok S ∧
      ((load none).run (hostWith bareText hidingVariables [])).1 = .ok S) ∧
    ((load none).run (hostWith nullText [("MSVIZ_HTTP_FALLBACK", ""), ("MSVIZ_RENDER_TIMEOUT", "5")] [])).1 =
      ((load none).run (hostWith nullText [("MSVIZ_RENDER_TIMEOUT", "5")] [])).1.map
        fun S => { S with fallback := true } := by
  obtain ⟨hsame, hfallback⟩ := empty_says_nothing
  have hvariable : DropsEmpty ⟨sections (sectionWith "http_fallback" none) (sectionWith "timeout" none),
        ("PLANTUML_JAR_PATH", "") :: hidingVariables⟩
      ⟨sections (sectionWith "http_fallback" none) (sectionWith "timeout" none), hidingVariables⟩ :=
    .ofVariable .jar nofun rfl (lacksKey_filter _ _)
  have hkey : DropsEmpty ⟨sections (sectionWith "http_fallback" none) (sectionWith "timeout" none), hidingVariables⟩
      ⟨sections [] (sectionWith "timeout" none), hidingVariables⟩ :=
    .ofKey .fallback (.inr (.inr ⟨"off", rfl, .inl rfl⟩)) rfl rfl rfl (lacksKey_filter_entries _ _)
      fun _ h => lookup?_sections_left h _ _ _
  have hkey' : DropsEmpty ⟨sections [] (sectionWith "timeout" none), hidingVariables⟩
      ⟨sections [] [], hidingVariables⟩ :=
    .ofKey .timeout (.inr (.inr ⟨"5", rfl, .inr (by decide)⟩)) rfl rfl rfl (lacksKey_filter_entries _ _)
      fun _ h => lookup?_sections_right h _ _ _
  have hload := hsame (hostWith nullText (("PLANTUML_JAR_PATH", "") :: hidingVariables) [])
    (hostWith bareText hidingVariables []) none none _ _ rfl (run_loadEntries_nullText _) (run_loadEntries_bareText _)
    (((Relation.ReflTransGen.single hvariable).tail hkey).tail hkey')
  have hloads : (choose ⟨.single, []⟩ (Overrides.of hidingVariables) (sections [] [])).toOption.isSome = true := by
    decide +kernel
  refine ⟨?_, hfallback (hostWith nullText [("MSVIZ_HTTP_FALLBACK", ""), ("MSVIZ_RENDER_TIMEOUT", "5")] []) _ none rfl
    (lacksKey_filter _ _)⟩
  rw [hload, run_load_of_entries (run_loadEntries_bareText _)]
  cases hchoose : choose ⟨.single, []⟩ (Overrides.of hidingVariables) (sections [] []) with
  | error f =>
    rw [hchoose] at hloads
    cases hloads
  | ok S => exact ⟨S, hchoose, hchoose⟩

/-- **An empty setting is not always the same as none.** An empty variable turns the fallback on where the file turns it
off. Where a variable hides the timeout, a null fallback is off, and would be on if it were not there. Where a variable
hides the fallback, a null timeout is refused, and would be the usual one if it were not there. -/
theorem empty_ne_unset :
    ((load none).run (hostWith offText [("MSVIZ_HTTP_FALLBACK", "")] [])).1 ≠
      ((load none).run (hostWith offText [] [])).1 ∧
    ((load none).run (hostWith nullText [("MSVIZ_RENDER_TIMEOUT", "5")] [])).1 ≠
      ((load none).run (hostWith bareText [("MSVIZ_RENDER_TIMEOUT", "5")] [])).1 ∧
    ((load none).run (hostWith nullText [("MSVIZ_HTTP_FALLBACK", "off")] [])).1 ≠
      ((load none).run (hostWith bareText [("MSVIZ_HTTP_FALLBACK", "off")] [])).1 := by
  refine ⟨fun h => ?_, fun h => ?_, fun h => ?_⟩
  · rw [run_load_of_entries (run_loadEntries_offText _), run_load_of_entries (run_loadEntries_offText _)] at h
    have hfallback := congrArg (fun r => r.toOption.map Settings.fallback) h
    revert hfallback
    decide +kernel
  · rw [run_load_of_entries (run_loadEntries_nullText _), run_load_of_entries (run_loadEntries_bareText _)] at h
    have hfallback := congrArg (fun r => r.toOption.map Settings.fallback) h
    revert hfallback
    decide +kernel
  · rw [run_load_of_entries (run_loadEntries_nullText _), run_load_of_entries (run_loadEntries_bareText _)] at h
    have hloads := congrArg (fun r => r.toOption.isSome) h
    revert hloads
    decide +kernel

end Settings

end Landscape
