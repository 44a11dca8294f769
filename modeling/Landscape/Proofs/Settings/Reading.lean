import Landscape.Proofs.Failing
import Landscape.Proofs.Host.Storing
import Landscape.Settings.Load

/-!
# Loading settings only reads

Loading settings looks for a file, reads it and looks at the variables. So what it comes to depends on the world
alone (`Landscape.Settings.givenIn`), and it leaves the world as it is (`Landscape.Settings.reads_load`).
-/

namespace Landscape

variable {w : Host}

/-- The document in a file, or why it gives none. -/
def Host.documentIn (w : Host) (shape : Shape) (p : FilePath) : Except DocumentFileFault Value :=
  (w.contents p).mapError .access >>= documentOfBytes w.deepest shape

theorem Host.reads_readDocument (shape : Shape) (p : FilePath) :
    Reads (readDocument shape p) w (w.documentIn shape p) :=
  Reads.bind_result (Step.Answers.blame (reads_readFile p) DocumentFileFault.access) fun _ =>
    reads_get_bind (fun _ => rfl) (reads_of _)

/-- Bytes that are there have been reached. -/
theorem documentOfBytes_ne_access (room : Option Nat) (shape : Shape) (bytes : List UInt8) (f : AccessFault) :
    documentOfBytes room shape bytes ≠ .error (.access f) := by
  intro h
  rw [documentOfBytes] at h
  obtain ⟨e, -, he⟩ := mapError_eq_error_iff.mp h
  split at he <;> cases he

namespace Settings

open Host

/-- The settings file that is looked at: the one that is named, or the usual one. -/
def pathIn (w : Host) (name : Option String) : FilePath :=
  ((nonempty? name).map FilePath.ofString).getD w.usualSettings

/-- The mapping in the settings file that is looked at, or why there is none. -/
def entriesIn (w : Host) (name : Option String) : Except Fault Entries := do
  match ← (w.found (pathIn w name)).mapError .access with
  | some _ =>
    let document ← (w.documentIn settingsShape (pathIn w name)).mapError (fileFault (pathIn w name))
    entriesOfDocument (pathIn w name) document
  | none =>
    match (nonempty? name).map FilePath.ofString with
    | some p => .error (.noSettings p)
    | none => .ok []

theorem entriesOfDocument_mapping (p : FilePath) (es : Entries) : entriesOfDocument p (.mapping es) = .ok es := by
  cases es with
  | nil => rfl
  | cons x es => rfl

/-- **What loading settings comes to**: a choice between the mapping in the file and the variables. -/
def givenIn (w : Host) (name : Option String) : Except Fault Settings :=
  entriesIn w name >>= choose w.home (Overrides.of w.environment)

/-- What is in the settings file, if something is there. -/
theorem entriesIn_of_found {name : Option String} {e : Entry} (h : w.found (pathIn w name) = .ok (some e)) :
    entriesIn w name = (w.documentIn settingsShape (pathIn w name)).mapError (fileFault (pathIn w name)) >>=
      entriesOfDocument (pathIn w name) := by
  rw [entriesIn, h]
  rfl

theorem reads_readEntries (p : FilePath) : Reads (readEntries p) w
    ((w.documentIn settingsShape p).mapError (fileFault p) >>= entriesOfDocument p) := by
  refine Reads.bind_result (Step.Answers.blame (reads_readDocument settingsShape p) _) fun document => ?_
  refine Reads.bind_passing (reads_of _) fun config => ?_
  exact (reads_note _ _ _).bind (Step.answers_pure _)

theorem reads_loadEntries (name : Option String) (w : Host) : Reads (loadEntries name) w (entriesIn w name) := by
  refine reads_get_bind (fun _ => rfl) ?_
  refine Reads.bind_result (Step.Answers.blame (reads_found _) _) fun entry => ?_
  cases entry with
  | some e => exact reads_readEntries _
  | none =>
    cases (nonempty? name).map FilePath.ofString with
    | some p => exact Step.answers_throw _
    | none => exact (reads_note _ _ _).bind (Step.answers_pure _)

/-- What is in the settings file, as loading settings reads it. -/
theorem run_loadEntries (name : Option String) (w : Host) : ((loadEntries name).run w).1 = entriesIn w name :=
  (reads_loadEntries name w).run_eq

theorem reads_givenIn (name : Option String) (w : Host) : Reads (load name) w (givenIn w name) :=
  (reads_loadEntries name w).bind_result fun _ => reads_get_bind (fun _ => rfl) (reads_of _)

/-- What loading settings answers. -/
theorem run_load (name : Option String) (w : Host) : ((load name).run w).1 = givenIn w name :=
  (reads_givenIn name w).run_eq

/-- **Loading settings only reads**: what it comes to depends on nothing but the world. -/
theorem reads_load (name : Option String) (w : Host) :
    Reads (load name) w ((load name).run w).1 := by
  rw [run_load]
  exact reads_givenIn name w

/-- Where no settings file is, the settings are those that the variables give. -/
theorem reads_load_of_missing (h : w.found w.usualSettings = .ok none) :
    Reads (load none) w (choose w.home (Overrides.of w.environment) []) := by
  have hentries : entriesIn w none = .ok [] := by
    rw [entriesIn, show pathIn w none = w.usualSettings from rfl, h]
    rfl
  have hgiven : givenIn w none = choose w.home (Overrides.of w.environment) [] := by
    rw [givenIn, hentries]
    rfl
  rw [← hgiven]
  exact reads_givenIn none w

/-! ### A settings file that is there -/

/-- A host with a text in the usual settings file, with some variables and with other files. -/
def hostWith (text : String) (environment : List (String × String)) (others : List (List String × Entry)) : Host where
  files := ⟨(["config"], .directory) :: (["config", "msviz.yaml"], .file (Utf8.encode text.toList)) :: others⟩
  environment := environment

section HostWith

variable {text : String} {environment : List (String × String)} {others : List (List String × Entry)}

theorem found_hostWith : (hostWith text environment others).found (pathIn (hostWith text environment others) none) =
    .ok (some (.file (Utf8.encode text.toList))) := by
  have hpath : pathIn (hostWith text environment others) none = ⟨.single, ["config", "msviz.yaml"]⟩ := rfl
  rw [hpath, found, unusable?_eq_none (by decide +kernel) (by decide +kernel)]
  rfl

/-- What is read of this file is what its text holds. -/
theorem run_loadEntries_hostWith {config : Entries}
    (h : documentOfBytes none settingsShape (Utf8.encode text.toList) = .ok (.mapping config)) :
    ((loadEntries none).run (hostWith text environment others)).1 = .ok config := by
  have hdocument : (hostWith text environment others).documentIn settingsShape
      (pathIn (hostWith text environment others) none) = .ok (.mapping config) := by
    rw [documentIn, contents_of_found_file found_hostWith, ← h]
    rfl
  rw [run_loadEntries, entriesIn_of_found found_hostWith, hdocument]
  exact entriesOfDocument_mapping (pathIn (hostWith text environment others) none) config

end HostWith

end Settings

end Landscape
