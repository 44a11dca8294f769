import Landscape.Proofs.Abort
import Landscape.Proofs.Render.Layout

/-!
# The course of a drawing

A drawing with PlantUML runs the archive if it is there, and asks the server if that gives no image
(`Landscape.PlantUml.Renderer.Course`). This file says when each of the two happens, what exactly is asked, and which
of them the image comes from (`Landscape.PlantUml.course_of_drawSvg`).

Two things can keep a drawing from both. A text with halves of characters cannot be sent, be it to the archive or to
the server. And if the name of the archive is longer than a name can be, looking for it fails, and so does the
drawing: such an archive is not there, but the server is not asked either
(`Landscape.PlantUml.Renderer.CannotLook`).
-/

namespace Landscape

variable {w : Host}

/-! ### Outcomes -/

/-- A run **gives** an image: it ends well, and its output reads as one. -/
def RunOutcome.Gives (svg : String) : RunOutcome → Prop
  | .ended status output _ =>
    status = 0 ∧ String.ofList (spelled (Utf8.decodeLossy output)) = svg ∧ looksLikeSvg svg.toList = true
  | _ => False

/-- A run **fails**: it takes too long, there is none, it does not end well, or its output does not read as an image.
A failure that the library does not know is not meant. -/
def RunOutcome.Fails : RunOutcome → Prop
  | .timedOut | .failed _ => True
  | .ended status output _ => status ≠ 0 ∨ looksLikeSvg (spelled (Utf8.decodeLossy output)) = false
  | .raised _ => False

/-- A server **gives** an image: it answers well, and with one. -/
def FetchOutcome.Gives (svg : String) : FetchOutcome → Prop
  | .answered status body => status = 200 ∧ body = svg ∧ looksLikeSvg svg.toList = true
  | _ => False

theorem RunOutcome.Gives.looksLikeSvg {o : RunOutcome} {svg : String} (h : o.Gives svg) :
    looksLikeSvg svg.toList = true := by
  cases o with
  | ended status output errors => exact h.2.2
  | _ => exact h.elim

theorem FetchOutcome.Gives.looksLikeSvg {o : FetchOutcome} {svg : String} (h : o.Gives svg) :
    looksLikeSvg svg.toList = true := by
  cases o with
  | answered status body => exact h.2.2
  | _ => exact h.elim

/-! ### Looking for a file -/

/-- Following a path fails with this path. -/
theorem FileSystem.path_of_follow {fs : FileSystem} {here : List String} {p : FilePath} {f : FileFault}
    (h : fs.follow here p = .error f) : f.path = p.toString := by
  rw [follow] at h
  split at h
  · cases h
    rfl
  · generalize fs.followFrom _ p.parts = r at h
    cases r <;> cases h
    rfl

/-- **Looking for a file fails only if its name is too long.** -/
theorem Host.found_eq_error {p : FilePath} {f : AccessFault} (h : w.found p = .error f) :
    f = .file ⟨.nameTooLong, p.toString⟩ := by
  rw [found] at h
  split at h
  · cases h
  · obtain ⟨f', hf', rfl⟩ := mapError_eq_error_iff.mp h
    rw [FileSystem.entry?] at hf'
    cases hfollow : w.files.follow w.here p with
    | ok e =>
      rw [hfollow] at hf'
      cases hf'
    | error f'' =>
      have hpath := FileSystem.path_of_follow hfollow
      rw [hfollow] at hf'
      dsimp only at hf'
      split at hf'
      · next hreason =>
        cases hf'
        rw [← eq_of_beq hreason, ← hpath]
      · cases hf'

namespace PlantUml

/-! ### Images of outcomes -/

theorem svgOfRun_eq_some_iff {o : RunOutcome} {svg : String} : svgOfRun o = .ok (some svg) ↔ o.Gives svg := by
  cases o with
  | ended status output errors =>
    simp only [svgOfRun, RunOutcome.Gives]
    generalize spelled (Utf8.decodeLossy output) = image
    constructor
    · intro h
      split at h
      · next hgood =>
        obtain ⟨hstatus, himage⟩ : status = 0 ∧ looksLikeSvg image = true := by simpa using hgood
        cases h
        exact ⟨hstatus, rfl, by rwa [String.toList_ofList]⟩
      · cases h
    · rintro ⟨hstatus, rfl, himage⟩
      rw [String.toList_ofList] at himage
      simp [hstatus, himage]
  | _ => simp [svgOfRun, RunOutcome.Gives]

theorem svgOfRun_eq_none_iff {o : RunOutcome} : svgOfRun o = .ok none ↔ o.Fails := by
  cases o with
  | ended status output errors =>
    simp only [svgOfRun, RunOutcome.Fails]
    by_cases hstatus : status = 0
    · simp [hstatus]
    · simp [hstatus]
  | _ => simp [svgOfRun, RunOutcome.Fails]

/-- A run that fails gives no image. -/
theorem not_gives_of_fails {o : RunOutcome} (h : o.Fails) (svg : String) : ¬o.Gives svg := by
  rw [← svgOfRun_eq_some_iff, svgOfRun_eq_none_iff.mpr h]
  simp

theorem svgOfAnswer_eq_ok_iff {o : FetchOutcome} {svg : String} : svgOfAnswer o = .ok svg ↔ o.Gives svg := by
  cases o with
  | answered status body =>
    simp only [svgOfAnswer, FetchOutcome.Gives]
    constructor
    · intro h
      split at h
      · cases h
      · next hstatus =>
        split at h
        · cases h
        · next himage =>
          cases h
          exact ⟨by simpa using hstatus, rfl, by simpa using himage⟩
    · rintro ⟨rfl, rfl, himage⟩
      simp [himage]
  | _ => simp [svgOfAnswer, FetchOutcome.Gives]

/-! ### Looking for the archive -/

/-- The archive **is there**: it was found before, or else it is a file and there is something to run it. -/
def Renderer.HasJar (k : Renderer) (w : Host) (S : Settings) : Prop :=
  k.jarUsable = some true ∨
    k.jarUsable = none ∧ (∃ bytes, w.found S.jar = .ok (some (.file bytes))) ∧ "java" ∈ w.programs

/-- The archive **cannot be looked for**, since its name is too long, and nobody looked for it before. -/
def Renderer.CannotLook (k : Renderer) (w : Host) (S : Settings) : Prop :=
  k.jarUsable = none ∧ w.found S.jar = .error (.file ⟨.nameTooLong, S.jar.toString⟩)

theorem jarThere_eq_error_iff {jar : FilePath} {f : AccessFault} :
    jarThere w jar = .error f ↔ w.found jar = .error f := by
  rw [jarThere]
  rcases w.found jar with f | _ | _ | bytes <;> simp [pure, Except.pure]

theorem jarThere_eq_true_iff {jar : FilePath} :
    jarThere w jar = .ok true ↔ (∃ bytes, w.found jar = .ok (some (.file bytes))) ∧ "java" ∈ w.programs := by
  rw [jarThere]
  rcases w.found jar with f | _ | _ | bytes <;> simp [pure, Except.pure]

variable {k : Renderer} {S : Settings} {text : String}

theorem Renderer.hasJar_iff : k.HasJar w S ↔ k.jarUsableIn w S.jar = .ok true := by
  rw [HasJar, jarUsableIn, ← jarThere_eq_true_iff]
  cases k.jarUsable with
  | some b => simp
  | none => simp [mapError_eq_ok_iff]

theorem Renderer.cannotLook_iff : k.CannotLook w S ↔
    k.jarUsableIn w S.jar = .error (.access (.file ⟨.nameTooLong, S.jar.toString⟩)) := by
  rw [CannotLook, jarUsableIn, ← jarThere_eq_error_iff]
  cases k.jarUsable with
  | some b => simp
  | none => simp [mapError_eq_error_iff]

theorem Renderer.cannotLook_of_error {f : Fault} (h : k.jarUsableIn w S.jar = .error f) : k.CannotLook w S := by
  rw [jarUsableIn] at h
  cases hk : k.jarUsable with
  | some b => simp [hk] at h
  | none =>
    rw [hk] at h
    obtain ⟨f', hthere, -⟩ := mapError_eq_error_iff.mp h
    have hfound := jarThere_eq_error_iff.mp hthere
    exact ⟨hk, Host.found_eq_error hfound ▸ hfound⟩

/-! ### The course -/

/-- The archive **is run** for a text: it is there, and the text can be sent. -/
def Renderer.RunsJar (k : Renderer) (w : Host) (S : Settings) (text : String) : Prop :=
  k.HasJar w S ∧ holdsHalves text = false

/-- The server **is needed** for a text: the archive is not there, or its run fails. -/
def Renderer.NeedsServer (k : Renderer) (w : Host) (S : Settings) (text : String) : Prop :=
  ¬k.CannotLook w S ∧ (¬k.HasJar w S ∨ k.RunsJar w S text ∧ w.runs.Fails)

/-- The server **is asked** for a text at an address: it may be, it is needed, and the address is the one for the
text. -/
def Renderer.AsksAt (k : Renderer) (w : Host) (S : Settings) (text address : String) : Prop :=
  S.fallback = true ∧ k.NeedsServer w S text ∧ imageAddress S text = .ok address

/-- **The course of a drawing** that answers `r`, with what is asked of the archive and then of the server. -/
structure Renderer.Course (k : Renderer) (w : Host) (S : Settings) (text : String) (r : Except Fault String)
    (runs fetches : List Request) : Prop where
  /-- The archive is run at most once, with the text in its layout. -/
  run : k.RunsJar w S text ∧ runs = [.run (jarCommand S.jar.toString) (k.layoutIn w text) S.timeout] ∨
    ¬k.RunsJar w S text ∧ runs = []
  /-- The server is asked at most once, with the text as it was given. -/
  fetch : (∃ address, k.AsksAt w S text address ∧ fetches = [.encode text, .fetch address S.timeout]) ∨
    (¬∃ address, k.AsksAt w S text address) ∧ fetches = []
  /-- The image is that of the archive, or else that of the server. -/
  gives : ∀ svg, r = .ok svg ↔ k.RunsJar w S text ∧ w.runs.Gives svg ∨
    (∃ address, k.AsksAt w S text address) ∧ w.fetches.Gives svg
  /-- An archive that cannot be looked for fails the drawing. -/
  cannotLook : k.CannotLook w S → r = .error (.access (.file ⟨.nameTooLong, S.jar.toString⟩))

/-- Unless the archive gives no image, nothing is asked after it. -/
theorem requestsAfterJar_eq_nil {r : Except Fault (Option String)} (h : r ≠ .ok none) :
    requestsAfterJar S text r = [] := by
  rcases r with f | _ | image
  · rfl
  · contradiction
  · rfl

namespace Renderer

/-- What is asked of a server that is needed. -/
theorem NeedsServer.fetch (h : k.NeedsServer w S text) :
    (∃ address, k.AsksAt w S text address ∧ fallbackRequests S text = [.encode text, .fetch address S.timeout]) ∨
      (¬∃ address, k.AsksAt w S text address) ∧ fallbackRequests S text = [] := by
  simp only [AsksAt, h, fallbackRequests, serverRequests, true_and]
  cases S.fallback with
  | false => simp
  | true => cases imageAddress S text <;> simp

/-- What comes of a server that is needed. -/
theorem NeedsServer.gives (h : k.NeedsServer w S text) (f : Fault) (svg : String) :
    (if S.fallback then svgByServer w S.server text else .error f) = .ok svg ↔
      (∃ address, k.AsksAt w S text address) ∧ w.fetches.Gives svg := by
  simp only [AsksAt, h, true_and, ← svgOfAnswer_eq_ok_iff, svgByServer, imageAddress]
  cases S.fallback with
  | false => simp
  | true =>
    cases serverAddress S.server with
    | error f => simp
    | ok address => cases charsIn text <;> simp [pure, Except.pure]

/-- If the archive cannot be looked for, nothing is asked. -/
theorem course_of_cannotLook (h : k.CannotLook w S) :
    k.Course w S text (.error (.access (.file ⟨.nameTooLong, S.jar.toString⟩))) [] [] := by
  have hjar : ¬k.HasJar w S := by
    rw [hasJar_iff, cannotLook_iff.mp h]
    simp
  have hrun : ¬k.RunsJar w S text := fun hrun => hjar hrun.1
  have hasks : ¬∃ address, k.AsksAt w S text address := fun ⟨_, _, hneeds, _⟩ => hneeds.1 h
  exact ⟨.inr ⟨hrun, rfl⟩, .inr ⟨hasks, rfl⟩, by simp [hrun, hasks], fun _ => rfl⟩

/-- If the archive is not there, the server is needed at once. -/
theorem course_of_not_hasJar (hlook : ¬k.CannotLook w S) (h : ¬k.HasJar w S) (f : Fault) :
    k.Course w S text (if S.fallback then svgByServer w S.server text else .error f) []
      (fallbackRequests S text) := by
  have hrun : ¬k.RunsJar w S text := fun hrun => h hrun.1
  have hneeds : k.NeedsServer w S text := ⟨hlook, .inl h⟩
  refine ⟨.inr ⟨hrun, rfl⟩, hneeds.fetch, fun svg => ?_, fun hcannot => absurd hcannot hlook⟩
  rw [hneeds.gives]
  simp [hrun]

/-- If the archive is there, a text that can be sent is sent to it, and the server is needed if the run fails. -/
theorem course_of_hasJar (h : k.HasJar w S) (f : Fault) :
    k.Course w S text
      (do
        match ← svgByJar w (k.layoutIn w text) with
        | some image => return image
        | none => if S.fallback then svgByServer w S.server text else .error f)
      (jarRequests S (k.layoutIn w text))
      (requestsAfterJar S text (svgByJar w (k.layoutIn w text))) := by
  have hlook : ¬k.CannotLook w S := by
    rw [cannotLook_iff, hasJar_iff.mp h]
    simp
  have hneeds : k.NeedsServer w S text ↔ k.RunsJar w S text ∧ w.runs.Fails := by simp [NeedsServer, hlook, h]
  have hasks (hnot : ¬k.NeedsServer w S text) : ¬∃ address, k.AsksAt w S text address :=
    fun ⟨_, _, hasks, _⟩ => hnot hasks
  have hlayout : holdsHalves (k.layoutIn w text) = holdsHalves text := holdsHalves_withLayout _ text
  cases hcs : charsIn (k.layoutIn w text) with
  | error f' =>
    -- the text cannot be sent, and then neither the archive nor the server gets it
    have hrun : ¬k.RunsJar w S text := by
      rintro ⟨-, htext⟩
      obtain ⟨cs, hcs'⟩ := charsIn_eq_ok_iff.mpr (hlayout.trans htext)
      rw [hcs] at hcs'
      cases hcs'
    have hnone := hasks fun hn => hrun (hneeds.mp hn).1
    simp only [svgByJar, jarRequests, hcs, error_bind]
    exact ⟨.inr ⟨hrun, rfl⟩, .inr ⟨hnone, rfl⟩, by simp [hrun, hnone], fun hcannot => absurd hcannot hlook⟩
  | ok cs =>
    have hrun : k.RunsJar w S text := ⟨h, hlayout ▸ charsIn_eq_ok_iff.mp ⟨cs, hcs⟩⟩
    simp only [svgByJar, jarRequests, hcs, ok_bind]
    by_cases hfails : w.runs.Fails
    · -- the run fails, so what comes of the drawing is what comes of the server
      have hneeds' := hneeds.mpr ⟨hrun, hfails⟩
      rw [svgOfRun_eq_none_iff.mpr hfails]
      refine ⟨.inl ⟨hrun, rfl⟩, hneeds'.fetch, fun svg => ?_, fun hcannot => absurd hcannot hlook⟩
      rw [ok_bind, hneeds'.gives]
      simp [not_gives_of_fails hfails]
    · -- the run decides alone: it gives the image, or ends in a fault of another kind
      have hnone := hasks fun hn => hfails (hneeds.mp hn).2
      rw [← svgOfRun_eq_none_iff] at hfails
      refine ⟨.inl ⟨hrun, rfl⟩, .inr ⟨hnone, requestsAfterJar_eq_nil hfails⟩, fun svg => ?_,
        fun hcannot => absurd hcannot hlook⟩
      rw [← svgOfRun_eq_some_iff]
      rcases himage : svgOfRun w.runs with f' | _ | image
      · simp [hnone]
      · contradiction
      · simp [hrun, hnone, pure, Except.pure]

end Renderer

/-! ### What is asked beforehand -/

theorem exists_find_of_mem_jarProbes {jar : FilePath} {q : Request} (h : q ∈ k.jarProbes w jar) :
    ∃ program, q = .find program := by
  rw [Renderer.jarProbes, javaProbes] at h
  split at h
  · cases h
  · split at h
    · exact ⟨_, List.mem_singleton.mp h⟩
    · cases h

theorem exists_find_of_mem_layoutProbes {q : Request} (h : q ∈ k.layoutProbes) : ∃ program, q = .find program := by
  rw [Renderer.layoutProbes] at h
  split at h
  · cases h
  · exact ⟨_, List.mem_singleton.mp h⟩

/-! ### Every drawing -/

theorem Renderer.svgIn_of_cannotLook (hS : k.settingsIn w = .ok S) (h : k.CannotLook w S) :
    k.svgIn w text = .error (.access (.file ⟨.nameTooLong, S.jar.toString⟩)) := by
  simp only [svgIn, hS, cannotLook_iff.mp h, ok_bind, error_bind]

theorem Renderer.requestsIn_of_cannotLook (hS : k.settingsIn w = .ok S) (h : k.CannotLook w S) :
    k.requestsIn w text = [] := by
  simp only [requestsIn, hS, cannotLook_iff.mp h, jarProbes, h.1, javaProbes, h.2, List.append_nil]

/-- What a drawing asks, in parts, and what it comes to. -/
theorem exists_course (hS : k.settingsIn w = .ok S) (text : String) : ∃ probes runs fetches,
    k.requestsIn w text = probes ++ runs ++ fetches ∧ (∀ q ∈ probes, ∃ program, q = .find program) ∧
      k.Course w S text (k.svgIn w text) runs fetches := by
  rcases hjar : k.jarUsableIn w S.jar with f | _ | _
  · have hlook := Renderer.cannotLook_of_error hjar
    rw [Renderer.requestsIn_of_cannotLook hS hlook, Renderer.svgIn_of_cannotLook hS hlook]
    exact ⟨[], [], [], rfl, by simp, Renderer.course_of_cannotLook hlook⟩
  -- from here on it is known whether the archive is there
  all_goals simp only [Renderer.requestsIn, Renderer.svgIn, hS, hjar, ok_bind]
  · have hlook : ¬k.CannotLook w S := by simp [Renderer.cannotLook_iff, hjar]
    have hnot : ¬k.HasJar w S := by simp [Renderer.hasJar_iff, hjar]
    exact ⟨k.jarProbes w S.jar, [], _, by simp only [List.append_nil], fun _ => exists_find_of_mem_jarProbes,
      Renderer.course_of_not_hasJar hlook hnot _⟩
  · refine ⟨k.jarProbes w S.jar ++ k.layoutProbes, _, _, ?_, fun q hq => ?_,
      Renderer.course_of_hasJar (Renderer.hasJar_iff.mpr hjar) _⟩
    · simp only [List.append_assoc]
    · exact (List.mem_append.mp hq).elim exists_find_of_mem_jarProbes exists_find_of_mem_layoutProbes

/-- **The course of every drawing**, for a renderer that has settings or finds some. An image is one, and without leave
to ask the server nobody asks it. -/
theorem course_of_drawSvg (hS : k.settingsIn w = .ok S) (text : String) :
    ∃ r k' w' probes runs fetches, (drawSvg text).run (k, w) = (r, (k', w')) ∧ w'.world = w.world ∧
      w'.requests = w.requests ++ (probes ++ runs ++ fetches) ∧ (∀ q ∈ probes, ∃ program, q = .find program) ∧
      k.Course w S text r runs fetches ∧ (∀ svg, r = .ok svg → looksLikeSvg svg.toList = true) ∧
      (S.fallback = false → fetches = []) := by
  obtain ⟨k', w', hrun, hworld, hrequests, -⟩ := (findsBy_drawSvg k w text).exists_run
  obtain ⟨probes, runs, fetches, hparts, hprobes, hcourse⟩ := exists_course hS text
  refine ⟨_, k', w', probes, runs, fetches, hrun, hworld, by rw [hrequests, hparts], hprobes, hcourse,
    fun svg hsvg => ?_, fun hoff => ?_⟩
  · obtain ⟨-, hgives⟩ | ⟨-, hgives⟩ := (hcourse.gives svg).mp hsvg
    · exact hgives.looksLikeSvg
    · exact hgives.looksLikeSvg
  · obtain ⟨-, ⟨hon, -⟩, -⟩ | ⟨-, hnone⟩ := hcourse.fetch
    · rw [hoff] at hon
      cases hon
    · exact hnone

/-- A renderer that has found the archive. -/
def jarFinder : Renderer :=
  { settings := some (Settings.usual ⟨.single, []⟩), jarUsable := some true }

/-- A host without Graphviz, on which the archive fails and the server has an image. -/
def failing : Host :=
  { runs := .ended 1 [] [], fetches := .answered 200 "<svg/>" }

/-- Where the archive fails, the server is asked after it, for the text without the layout. -/
theorem course_of_drawSvg_failing : jarFinder.settingsIn failing = .ok (Settings.usual ⟨.single, []⟩) ∧
    ∃ s probes address, (drawSvg "@startuml\n@enduml\n").run (jarFinder, failing) = (.ok "<svg/>", s) ∧
      s.2.requests = probes ++ [.run (jarCommand "/tools/plantuml/plantuml.jar")
          "@startuml\n!pragma layout smetana\n@enduml\n" (.int 60)] ++
        [.encode "@startuml\n@enduml\n", .fetch address (.int 60)] := by
  have hS : jarFinder.settingsIn failing = .ok (Settings.usual ⟨.single, []⟩) := rfl
  have hjar : (Settings.usual ⟨.single, []⟩).jar.toString = "/tools/plantuml/plantuml.jar" := by decide
  have hlayout : jarFinder.layoutIn failing "@startuml\n@enduml\n" =
    "@startuml\n!pragma layout smetana\n@enduml\n" := by decide
  refine ⟨hS, ?_⟩
  obtain ⟨r, k', w', probes, runs, fetches, hrun, -, hrequests, -, hcourse, -, -⟩ :=
    course_of_drawSvg hS "@startuml\n@enduml\n"
  have hruns : jarFinder.RunsJar failing (Settings.usual ⟨.single, []⟩) "@startuml\n@enduml\n" :=
    ⟨.inl rfl, by decide⟩
  have hneeds : jarFinder.NeedsServer failing (Settings.usual ⟨.single, []⟩) "@startuml\n@enduml\n" :=
    ⟨(fun hlook => by cases hlook.1), .inr ⟨hruns, .inl (by decide)⟩⟩
  have hasks : ∃ address,
      jarFinder.AsksAt failing (Settings.usual ⟨.single, []⟩) "@startuml\n@enduml\n" address :=
    ⟨_, rfl, hneeds, rfl⟩
  obtain rfl := (hcourse.gives "<svg/>").mpr (.inr ⟨hasks, rfl, rfl, by decide⟩)
  obtain ⟨-, rfl⟩ | ⟨hnot, -⟩ := hcourse.run
  · obtain ⟨address, -, rfl⟩ | ⟨hnone, -⟩ := hcourse.fetch
    · rw [hjar, hlayout] at hrequests
      exact ⟨_, probes, address, hrun, hrequests⟩
    · exact absurd hasks hnone
  · exact absurd hruns hnot

/-! ### An archive with a long name -/

theorem toString_name (name : String) : FilePath.toString ⟨.none, [name]⟩ = name := by
  rw [FilePath.toString, if_neg (by simp)]
  exact String.empty_append

/-- A name with more bytes than a name can have leads nowhere. -/
theorem follow_of_longName {fs : FileSystem} {here : List String} {name : String}
    (h : FileSystem.longestName < (FileName.bytes name).length) :
    fs.follow here ⟨.none, [name]⟩ = .error ⟨.nameTooLong, name⟩ := by
  rw [FileSystem.follow, toString_name]
  split
  · rfl
  · rw [FileSystem.followFrom, if_pos h]
    rfl

/-- A name with one letter more than a name can have. -/
def longName : String :=
  String.ofList (List.replicate 256 'a')

theorem longestName_lt_longName : FileSystem.longestName < (FileName.bytes longName).length := by
  decide +kernel

/-- Settings with an archive of this name. -/
def longNamed : Settings :=
  { Settings.usual ⟨.single, []⟩ with jar := ⟨.none, [longName]⟩ }

/-- A host without files, and with a server that has an image. -/
def serving : Host :=
  { fetches := .answered 200 "<svg/>" }

theorem cannotLook_longNamed (h : k.jarUsable = none) : k.CannotLook serving longNamed := by
  have htext : longName.toList = List.replicate 256 'a' := String.toList_ofList
  have husable : Host.unusable? ⟨.none, [longName]⟩ = none := by
    rw [Host.unusable?, FilePath.hasNul, String.contains_char_eq, toString_name, htext]
    decide +kernel
  have hentry : serving.files.entry? serving.here ⟨.none, [longName]⟩ = .error ⟨.nameTooLong, longName⟩ := by
    rw [FileSystem.entry?, follow_of_longName longestName_lt_longName]
    rfl
  refine ⟨h, ?_⟩
  rw [longNamed, Host.found, husable, hentry, toString_name]
  rfl

/-- **The server does not make good an archive whose name is too long**: that archive is not there, the server may be
asked and has an image, and still the drawing fails and asks nothing. -/
theorem drawSvg_longNamed :
    ¬({ settings := some longNamed } : Renderer).HasJar serving longNamed ∧ longNamed.fallback = true ∧
      serving.fetches.Gives "<svg/>" ∧
      ∃ s, (drawSvg "@startuml\n@enduml\n").run ({ settings := some longNamed }, serving) =
        (.error (.access (.file ⟨.nameTooLong, longNamed.jar.toString⟩)), s) ∧ s.2.requests = [] := by
  -- a name for the renderer keeps the long name from being spelled out
  obtain ⟨k, hk⟩ : ∃ k : Renderer, k = { settings := some longNamed } := ⟨_, rfl⟩
  rw [← hk]
  have hsettings : k.settingsIn serving = .ok longNamed := by rw [hk, Renderer.settingsIn]
  have hlook : k.CannotLook serving longNamed := cannotLook_longNamed (by rw [hk])
  have hjar := Renderer.cannotLook_iff.mp hlook
  obtain ⟨k', w', hrun, -, hrequests, -⟩ := (findsBy_drawSvg k serving "@startuml\n@enduml\n").exists_run
  rw [Renderer.svgIn_of_cannotLook hsettings hlook] at hrun
  rw [Renderer.requestsIn_of_cannotLook hsettings hlook] at hrequests
  exact ⟨by simp [Renderer.hasJar_iff, hjar], rfl, ⟨rfl, rfl, by decide⟩, _, hrun, hrequests⟩

end PlantUml

end Landscape
