import Landscape.Proofs.Settings.Reading

/-!
# Variables hide the file

Each setting comes from a variable, if that says something, and from a key of the settings file if not
(`Landscape.Setting`). So a variable hides the value of its key altogether: two files that say the same of all other
settings lead to the same, settings or fault, whatever they say of this one
(`Landscape.Settings.choose_congr`). The other way round, a variable gives its own setting and no other
(`Landscape.Settings.variables_hide`).

Settings are chosen one by one (`Landscape.Settings.choose_eq_ok_iff`), and the load-bearing fact is that the choice of
each uses what the file says of it only where its variable says nothing. What is hidden is not even converted. The
fallback is the only setting of which the value is read although it is hidden, and then it is dropped.
-/

namespace Landscape

/-! ### Paths -/

theorem FilePath.join_of_isAbsolute {p q : FilePath} (h : q.isAbsolute = true) : p.join q = q :=
  if_pos h

/-- A path is absolute if it is seen from an absolute one, or is absolute itself. -/
theorem FilePath.isAbsolute_join (p q : FilePath) : (p.join q).isAbsolute = (q.isAbsolute || p.isAbsolute) := by
  rw [join]
  cases hq : q.isAbsolute with
  | true => rw [if_pos rfl, hq, Bool.true_or]
  | false =>
    rw [if_neg Bool.false_ne_true, Bool.false_or]
    rfl

/-! ### Four settings -/

/-- The four settings, each with a variable and with a key in a section of the settings file. -/
inductive Setting where
  | jar | server | fallback | timeout
  deriving DecidableEq, Repr

namespace Setting

/-- The variable that gives a setting. -/
def variableName : Setting → String
  | .jar => "PLANTUML_JAR_PATH"
  | .server => "PLANTUML_SERVER_URL"
  | .fallback => "MSVIZ_HTTP_FALLBACK"
  | .timeout => "MSVIZ_RENDER_TIMEOUT"

/-- The section of a file that a setting is in. -/
def title : Setting → String
  | .jar | .server | .fallback => "plantuml"
  | .timeout => "render"

/-- The key of a setting in its section. -/
def key : Setting → String
  | .jar => "jar_path"
  | .server => "server_url"
  | .fallback => "http_fallback"
  | .timeout => "timeout"

/-- Whether the variable of a setting says something. An empty one does only for the fallback. -/
def Overridden (x : Setting) (environment : List (String × String)) : Prop :=
  ∃ s, environment.lookup x.variableName = some s ∧ (x = .fallback ∨ s ≠ "")

/-- What a mapping says of a setting. -/
def valueIn? (x : Setting) (config : Entries) : Option Value :=
  match sectionOf x.title config with
  | .mapping es => Value.lookup? x.key es
  | _ => none

/-- **Two mappings that differ in one setting** at most: in its value, or in whether there is one. -/
structure AgreeBut (x : Setting) (config config' : Entries) : Prop where
  /-- All sections are mappings. -/
  sections : ∀ y : Setting, (∃ es, sectionOf y.title config = .mapping es) ∧
    ∃ es, sectionOf y.title config' = .mapping es
  /-- They say the same of the other settings. -/
  others : ∀ y, y ≠ x → y.valueIn? config = y.valueIn? config'

/-- **Two settings that differ in one field** at most. -/
structure SameBut (x : Setting) (S S' : Settings) : Prop where
  jar : x ≠ .jar → S.jar = S'.jar
  server : x ≠ .server → S.server = S'.server
  fallback : x ≠ .fallback → S.fallback = S'.fallback
  timeout : x ≠ .timeout → S.timeout = S'.timeout

end Setting

/-! ### What variables say -/

/-- Whether there is an override for a setting. -/
def Overrides.gives (o : Overrides) : Setting → Bool
  | .jar => o.jar.isSome
  | .server => o.server.isSome
  | .fallback => o.fallback.isSome
  | .timeout => o.timeout.isSome

theorem nonempty?_eq_some {v : Option String} {s : String} : nonempty? v = some s ↔ v = some s ∧ s ≠ "" := by
  rw [nonempty?, Option.filter_eq_some_iff]
  simp

/-- There is an override for a setting exactly if its variable says something. -/
theorem Overrides.gives_of {x : Setting} {environment : List (String × String)} :
    (Overrides.of environment).gives x = true ↔ x.Overridden environment := by
  cases x <;> simp [gives, Overrides.of, Setting.Overridden, Option.isSome_iff_exists, nonempty?_eq_some,
    Setting.variableName]

theorem Setting.variableName_injective : Function.Injective Setting.variableName := by
  intro x y h
  cases x <;> cases y <;> first | rfl | exact absurd h (by decide)

namespace Settings

/-! ### What a choice looks at -/

section Choice

variable {home : FilePath} {o o' : Overrides} {config config' : Entries} {S S' : Settings}

/-- **Settings are chosen** one by one. -/
theorem choose_eq_ok_iff : choose home o config = .ok S ↔
    chooseJar home o.jar (sectionOf "plantuml" config) = .ok S.jar ∧
    chooseFallback o.fallback (sectionOf "plantuml" config) = .ok S.fallback ∧
    chooseTimeout o.timeout (sectionOf "render" config) = .ok S.timeout ∧
    chooseServer o.server (sectionOf "plantuml" config) = .ok S.server := by
  rw [choose]
  cases chooseJar home o.jar (sectionOf "plantuml" config) with
  | error f => exact iff_of_false nofun nofun
  | ok jar =>
    cases chooseFallback o.fallback (sectionOf "plantuml" config) with
    | error f => exact iff_of_false nofun nofun
    | ok fallback =>
      cases chooseTimeout o.timeout (sectionOf "render" config) with
      | error f => exact iff_of_false nofun nofun
      | ok timeout =>
        cases chooseServer o.server (sectionOf "plantuml" config) with
        | error f => exact iff_of_false nofun nofun
        | ok server =>
          constructor
          · rintro ⟨⟩
            exact ⟨rfl, rfl, rfl, rfl⟩
          · rintro ⟨⟨⟩, ⟨⟩, ⟨⟩, ⟨⟩⟩
            rfl

/-- What is read of a section that is a mapping. -/
theorem settingOf_sectionOf {x : Setting} (h : ∃ es, sectionOf x.title config = .mapping es) :
    settingOf x.key (sectionOf x.title config) = .ok (x.valueIn? config) := by
  obtain ⟨es, hes⟩ := h
  rw [Setting.valueIn?, hes]
  rfl

/-- A mapping that says something of a setting has its section. -/
theorem exists_section_of_valueIn? {x : Setting} {v : Value} (h : x.valueIn? config = some v) :
    ∃ es, sectionOf x.title config = .mapping es := by
  rw [Setting.valueIn?] at h
  split at h
  · exact ⟨_, ‹_›⟩
  · cases h

section Congr

variable {override : Option String} {v v' : Value}

theorem chooseJar_congr (h : override = none → settingOf "jar_path" v = settingOf "jar_path" v') :
    chooseJar home override v = chooseJar home override v' := by
  cases override with
  | some s => rfl
  | none => rw [chooseJar, chooseJar, h rfl]

/-- The value of the fallback is read also if there is an override, but then it is dropped. -/
theorem chooseFallback_congr (hv : ∃ es, v = .mapping es) (hv' : ∃ es, v' = .mapping es)
    (h : override = none → settingOf "http_fallback" v = settingOf "http_fallback" v') :
    chooseFallback override v = chooseFallback override v' := by
  cases override with
  | some s =>
    obtain ⟨es, rfl⟩ := hv
    obtain ⟨es', rfl⟩ := hv'
    rfl
  | none => rw [chooseFallback, chooseFallback, h rfl]

theorem chooseTimeout_congr (h : override = none → settingOf "timeout" v = settingOf "timeout" v') :
    chooseTimeout override v = chooseTimeout override v' := by
  cases override with
  | some s => rfl
  | none => rw [chooseTimeout, chooseTimeout, h rfl]

theorem chooseServer_congr (h : override = none → settingOf "server_url" v = settingOf "server_url" v') :
    chooseServer override v = chooseServer override v' := by
  cases override with
  | some s => rfl
  | none => rw [chooseServer, chooseServer, h rfl]

end Congr

/-- **The choice does not depend on what is overridden**: it is the same for two mappings that say the same of all
settings for which there is no override. -/
theorem choose_congr (hc : ∀ x : Setting, ∃ es, sectionOf x.title config = .mapping es)
    (hc' : ∀ x : Setting, ∃ es, sectionOf x.title config' = .mapping es)
    (h : ∀ x, o.gives x = false → x.valueIn? config = x.valueIn? config') :
    choose home o config = choose home o config' := by
  have hsame (x : Setting) (hx : o.gives x = false) :
      settingOf x.key (sectionOf x.title config) = settingOf x.key (sectionOf x.title config') := by
    rw [settingOf_sectionOf (hc x), settingOf_sectionOf (hc' x), h x hx]
  have hjar : chooseJar home o.jar (sectionOf "plantuml" config) =
      chooseJar home o.jar (sectionOf "plantuml" config') :=
    chooseJar_congr fun ho => hsame .jar (by simp [Overrides.gives, ho])
  have hfallback : chooseFallback o.fallback (sectionOf "plantuml" config) =
      chooseFallback o.fallback (sectionOf "plantuml" config') :=
    chooseFallback_congr (hc .fallback) (hc' .fallback) fun ho => hsame .fallback (by simp [Overrides.gives, ho])
  have htimeout : chooseTimeout o.timeout (sectionOf "render" config) =
      chooseTimeout o.timeout (sectionOf "render" config') :=
    chooseTimeout_congr fun ho => hsame .timeout (by simp [Overrides.gives, ho])
  have hserver : chooseServer o.server (sectionOf "plantuml" config) =
      chooseServer o.server (sectionOf "plantuml" config') :=
    chooseServer_congr fun ho => hsame .server (by simp [Overrides.gives, ho])
  rw [choose, hjar, hfallback, htimeout, hserver, choose]

/-- **An override gives its own setting** and no other: choices from one mapping differ at most in the setting for which
the overrides differ. -/
theorem sameBut_of_choose {x : Setting} (hjar : x ≠ .jar → o.jar = o'.jar)
    (hserver : x ≠ .server → o.server = o'.server) (hfallback : x ≠ .fallback → o.fallback = o'.fallback)
    (htimeout : x ≠ .timeout → o.timeout = o'.timeout) (hS : choose home o config = .ok S) (hS' : choose home o' config = .ok S') : x.SameBut S S' := by
  obtain ⟨hj, hf, ht, hs⟩ := choose_eq_ok_iff.mp hS
  obtain ⟨hj', hf', ht', hs'⟩ := choose_eq_ok_iff.mp hS'
  refine ⟨fun hx => ?_, fun hx => ?_, fun hx => ?_, fun hx => ?_⟩
  · rw [hjar hx, hj'] at hj
    exact (Except.ok.inj hj).symm
  · rw [hserver hx, hs'] at hs
    exact (Except.ok.inj hs).symm
  · rw [hfallback hx, hf'] at hf
    exact (Except.ok.inj hf).symm
  · rw [htimeout hx, ht'] at ht
    exact (Except.ok.inj ht).symm

/-- An override for the archive is taken as it is. -/
theorem jar_of_override {s : String} (ho : o.jar = some s) (hS : choose home o config = .ok S) :
    S.jar = .ofString s := by
  obtain ⟨hj, -⟩ := choose_eq_ok_iff.mp hS
  rw [ho] at hj
  exact (Except.ok.inj hj).symm

/-- Without an override, the path of the archive is seen from the directory of the library. -/
theorem jar_of_file {s : String} (ho : o.jar = none) (hvalue : Setting.jar.valueIn? config = some (.text s))
    (hs : s ≠ "") (hS : choose home o config = .ok S) : S.jar = home.join (.ofString s) := by
  obtain ⟨hj, -⟩ := choose_eq_ok_iff.mp hS
  have hread : settingOf "jar_path" (sectionOf "plantuml" config) = .ok (some (.text s)) :=
    (settingOf_sectionOf (exists_section_of_valueIn? hvalue)).trans (congrArg Except.ok hvalue)
  have hfalsy : (Value.text s).isFalsy = false := by simpa [Value.isFalsy] using hs
  rw [ho, chooseJar, hread, Landscape.ok_bind] at hj
  dsimp only at hj
  rw [hfalsy, if_neg Bool.false_ne_true] at hj
  exact (Except.ok.inj hj).symm

end Choice

/-! ### Loading -/

section Loading

variable {w w' : Host} {name name' : Option String} {config config' : Entries} {S S' : Settings} {x : Setting}

/-- What loading settings chooses from. -/
theorem run_load_of_entries (h : ((loadEntries name).run w).1 = .ok config) :
    ((load name).run w).1 = choose w.home (Overrides.of w.environment) config := by
  rw [run_loadEntries] at h
  rw [run_load, givenIn, h]
  rfl

/-- Settings that are loaded are chosen from some mapping. -/
theorem exists_entries_of_run_load (h : ((load name).run w).1 = .ok S) :
    ∃ config, ((loadEntries name).run w).1 = .ok config ∧
      choose w.home (Overrides.of w.environment) config = .ok S := by
  rcases hentries : ((loadEntries name).run w).1 with f | config
  · rw [run_loadEntries] at hentries
    rw [run_load, givenIn, hentries] at h
    cases h
  · exact ⟨config, rfl, (run_load_of_entries hentries).symm.trans h⟩

/-- **A variable hides the file**: with the same variables, two files that differ in the setting of one that says
something lead to the same, settings or fault. -/
theorem run_load_congr (henvironment : w'.environment = w.environment) (hhome : w'.home = w.home)
    (hx : x.Overridden w.environment) (hconfig : ((loadEntries name).run w).1 = .ok config)
    (hconfig' : ((loadEntries name').run w').1 = .ok config') (h : x.AgreeBut config config') :
    ((load name).run w).1 = ((load name').run w').1 := by
  rw [run_load_of_entries hconfig, run_load_of_entries hconfig', henvironment, hhome]
  refine choose_congr (fun y => (h.sections y).1) (fun y => (h.sections y).2) fun y hy => h.others y ?_
  rintro rfl
  exact absurd (Overrides.gives_of.mpr hx) (by simp [hy])

/-- **A variable gives its own setting and no other**: where two lists of variables differ in one of them, the settings
differ in its setting. -/
theorem sameBut_of_run_load {environment : List (String × String)}
    (hvariables : ∀ v, v ≠ x.variableName → environment.lookup v = w.environment.lookup v)
    (hS : ((load name).run w).1 = .ok S) (hS' : ((load name).run { w with environment }).1 = .ok S') :
    x.SameBut S S' := by
  obtain ⟨config, hconfig, hchoose⟩ := exists_entries_of_run_load hS
  have hconfig' : ((loadEntries name).run { w with environment }).1 = .ok config := by
    rw [← hconfig, run_loadEntries, run_loadEntries]
    rfl
  rw [run_load_of_entries hconfig'] at hS'
  have hsame (y : Setting) (hy : x ≠ y) : environment.lookup y.variableName = w.environment.lookup y.variableName :=
    hvariables _ fun h => hy (Setting.variableName_injective h).symm
  refine sameBut_of_choose (fun hx => ?_) (fun hx => ?_) (fun hx => ?_) (fun hx => ?_) hchoose hS'
  · exact congrArg nonempty? (hsame .jar hx).symm
  · exact congrArg nonempty? (hsame .server hx).symm
  · exact (hsame .fallback hx).symm
  · exact congrArg nonempty? (hsame .timeout hx).symm

end Loading

/-! ### Two files of settings -/

/-- A settings file with an archive and with a timeout that is a list. -/
def listedTimeoutText : String :=
  "plantuml:\n  jar_path: p.jar\nrender:\n  timeout: [1, 2]\n"

/-- A settings file with the same archive, and with no timeout. -/
def noTimeoutText : String :=
  "plantuml:\n  jar_path: p.jar\n"

/-- The section that both files have. -/
def archiveSection : Value × Value :=
  (.text "plantuml", .mapping [(.text "jar_path", .text "p.jar")])

/-- What the first file holds. -/
def listedTimeoutEntries : Entries :=
  [archiveSection, (.text "render", .mapping [(.text "timeout", .list [.int 1, .int 2])])]

/-- Whether a file gives the document of the first file. -/
def isListedTimeout : Except DocumentFileFault Value → Bool
  | .ok (.mapping [(.text p, .mapping [(.text j, .text s)]), (.text r, .mapping [(.text t, .list [.int m, .int n])])]) =>
    p == "plantuml" && j == "jar_path" && s == "p.jar" && r == "render" && t == "timeout" && m == 1 && n == 2
  | _ => false

theorem documentOfBytes_listedTimeout : documentOfBytes none settingsShape (Utf8.encode listedTimeoutText.toList) =
    .ok (.mapping listedTimeoutEntries) := by
  have h : isListedTimeout (documentOfBytes none settingsShape (Utf8.encode listedTimeoutText.toList)) = true := by
    decide +kernel
  unfold isListedTimeout at h
  split at h
  next hdocument =>
    simp only [Bool.and_eq_true, beq_iff_eq] at h
    obtain ⟨⟨⟨⟨⟨⟨rfl, rfl⟩, rfl⟩, rfl⟩, rfl⟩, rfl⟩, rfl⟩ := h
    exact hdocument
  next => cases h

/-- Whether a file gives the document of the second file. -/
def isNoTimeout : Except DocumentFileFault Value → Bool
  | .ok (.mapping [(.text p, .mapping [(.text j, .text s)])]) => p == "plantuml" && j == "jar_path" && s == "p.jar"
  | _ => false

theorem documentOfBytes_noTimeout : documentOfBytes none settingsShape (Utf8.encode noTimeoutText.toList) =
    .ok (.mapping [archiveSection]) := by
  have h : isNoTimeout (documentOfBytes none settingsShape (Utf8.encode noTimeoutText.toList)) = true := by
    decide +kernel
  unfold isNoTimeout at h
  split at h
  next hdocument =>
    simp only [Bool.and_eq_true, beq_iff_eq] at h
    obtain ⟨⟨rfl, rfl⟩, rfl⟩ := h
    exact hdocument
  next => cases h

/-! ### What variables hide -/

/-- **Variables hide the file, setting by setting.** While a variable says something, files that differ in its setting
alone lead to the same settings or to the same fault, whatever each of them would lead to without the variable. Between
two values of one variable under which settings are loaded, nothing but its setting changes. An archive that a variable
gives is taken as it is; one that the file gives is seen from the directory of the library, unless it is absolute. -/
theorem variables_hide (x : Setting) :
    (∀ (w w' : Host) (name name' : Option String) (config config' : Entries), w'.environment = w.environment →
      w'.home = w.home → x.Overridden w.environment → ((loadEntries name).run w).1 = .ok config →
      ((loadEntries name').run w').1 = .ok config' → x.AgreeBut config config' →
      ((load name).run w).1 = ((load name').run w').1) ∧
    (∀ (w : Host) (environment : List (String × String)) (name : Option String) (S S' : Settings),
      (∀ v, v ≠ x.variableName → environment.lookup v = w.environment.lookup v) → ((load name).run w).1 = .ok S →
      ((load name).run { w with environment }).1 = .ok S' → x.SameBut S S') ∧
    ∀ (w : Host) (name : Option String) (config : Entries) (S : Settings) (s : String),
      ((loadEntries name).run w).1 = .ok config → ((load name).run w).1 = .ok S → s ≠ "" →
      (w.environment.lookup Setting.jar.variableName = some s → S.jar = .ofString s) ∧
      (¬Setting.jar.Overridden w.environment → Setting.jar.valueIn? config = some (.text s) →
        S.jar = w.home.join (.ofString s) ∧ ((FilePath.ofString s).isAbsolute = true → S.jar = .ofString s) ∧
        (w.home.isAbsolute = true → S.jar.isAbsolute = true)) := by
  refine ⟨?_, ?_, ?_⟩
  · intro w w' name name' config config' henvironment hhome hx hconfig hconfig' h
    exact run_load_congr henvironment hhome hx hconfig hconfig' h
  · intro w environment name S S' hvariables hS hS'
    exact sameBut_of_run_load hvariables hS hS'
  · intro w name config S s hconfig hS hs
    rw [run_load_of_entries hconfig] at hS
    constructor
    · intro hv
      exact jar_of_override (nonempty?_eq_some.mpr ⟨hv, hs⟩) hS
    · intro hx hvalue
      have hgives : (Overrides.of w.environment).jar = none := by
        simpa [Overrides.gives] using mt Overrides.gives_of.mp hx
      have hjar := jar_of_file hgives hvalue hs hS
      refine ⟨hjar, fun habsolute => ?_, fun hhome => ?_⟩
      · rw [hjar, FilePath.join_of_isAbsolute habsolute]
      · rw [hjar, FilePath.isAbsolute_join, hhome, Bool.or_true]

/-- A timeout that is a list makes loading fail, but not while a variable gives the timeout: then the file leads to what
it leads to without this timeout, another value of the variable changes the timeout alone, and the archive of the file is
seen from the directory of the library. -/
theorem variables_hide_listedTimeout :
    (¬∃ S, ((load none).run (hostWith listedTimeoutText [] [])).1 = .ok S) ∧
    ((load none).run (hostWith listedTimeoutText [("MSVIZ_RENDER_TIMEOUT", "5")] [])).1 =
      ((load none).run (hostWith noTimeoutText [("MSVIZ_RENDER_TIMEOUT", "5")] [])).1 ∧
    ∃ S S', ((load none).run (hostWith listedTimeoutText [("MSVIZ_RENDER_TIMEOUT", "5")] [])).1 = .ok S ∧
      ((load none).run (hostWith listedTimeoutText [("MSVIZ_RENDER_TIMEOUT", "9")] [])).1 = .ok S' ∧
      Setting.timeout.SameBut S S' ∧ S.jar = ⟨.single, ["p.jar"]⟩ := by
  obtain ⟨hhides, hown, hjar⟩ := variables_hide .timeout
  have hentries (environment : List (String × String)) :
      ((loadEntries none).run (hostWith listedTimeoutText environment [])).1 = .ok listedTimeoutEntries :=
    run_loadEntries_hostWith documentOfBytes_listedTimeout
  have hentries' : ((loadEntries none).run (hostWith noTimeoutText [("MSVIZ_RENDER_TIMEOUT", "5")] [])).1 =
      .ok [archiveSection] :=
    run_loadEntries_hostWith documentOfBytes_noTimeout
  have hloads (s : String) (hs : (choose ⟨.single, []⟩ (Overrides.of [("MSVIZ_RENDER_TIMEOUT", s)])
      listedTimeoutEntries).toOption.isSome = true) :
      ∃ S, ((load none).run (hostWith listedTimeoutText [("MSVIZ_RENDER_TIMEOUT", s)] [])).1 = .ok S := by
    rw [run_load_of_entries (hentries _)]
    cases hchoose : choose ⟨.single, []⟩ (Overrides.of [("MSVIZ_RENDER_TIMEOUT", s)]) listedTimeoutEntries with
    | error f =>
      rw [hchoose] at hs
      cases hs
    | ok S => exact ⟨S, hchoose⟩
  obtain ⟨S, hS⟩ := hloads "5" (by decide +kernel)
  obtain ⟨S', hS'⟩ := hloads "9" (by decide +kernel)
  refine ⟨?_, ?_, S, S', hS, hS', ?_, ?_⟩
  · rintro ⟨S, hS⟩
    have hfails : (choose ⟨.single, []⟩ (Overrides.of []) listedTimeoutEntries).toOption.isNone = true := by
      decide +kernel
    rw [run_load_of_entries (hentries _)] at hS
    rw [show choose ⟨.single, []⟩ (Overrides.of []) listedTimeoutEntries = .ok S from hS] at hfails
    cases hfails
  · refine hhides _ _ none none _ _ rfl rfl ⟨"5", rfl, .inr (by decide)⟩ (hentries _) hentries' ⟨?_, ?_⟩
    · intro y
      cases y <;> exact ⟨⟨_, rfl⟩, _, rfl⟩
    · intro y hy
      cases y with
      | timeout => exact absurd rfl hy
      | jar | server | fallback => rfl
  · refine hown _ [("MSVIZ_RENDER_TIMEOUT", "9")] none S S' (fun v hv => ?_) hS hS'
    have hother : (v == "MSVIZ_RENDER_TIMEOUT") = false := by simpa [Setting.variableName] using hv
    simp [hostWith, List.lookup_cons, hother]
  · obtain ⟨-, hfile⟩ := hjar _ none _ S "p.jar" (hentries _) hS (by decide)
    have hnone :
        ¬Setting.jar.Overridden (hostWith listedTimeoutText [("MSVIZ_RENDER_TIMEOUT", "5")] []).environment := by
      rintro ⟨s, hs, -⟩
      cases hs
    rw [(hfile hnone rfl).1]
    decide +kernel

end Settings

end Landscape
