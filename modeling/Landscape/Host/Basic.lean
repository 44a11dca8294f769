import Landscape.Host.FileSystem
import Landscape.Host.Note
import Landscape.Host.Outside
import Landscape.Step
import Landscape.Text.Utf8

/-!
# The host

The host is all that a run of the library meets outside itself (`Landscape.Host`): files and a current
directory, variables, programs and services. It also keeps what was asked and what was told, in order.
The operations here are the only ones that touch it; each is a step, so an operation that fails
leaves what was done before it.
-/

namespace Landscape

/-- Why a file cannot be reached: its name or its text is none, or the file system refuses. -/
inductive AccessFault where
  /-- The path holds the character that no name can hold. -/
  | nul
  /-- The path, or the text that is to go into the file or to be shown, has no bytes. -/
  | unencodable (f : Utf8.HalfFault)
  | file (f : FileFault)
  deriving DecidableEq, Repr

/-- Why a file cannot be reached, in words. -/
def AccessFault.message : AccessFault → String
  | .nul => "embedded null byte"
  | .unencodable f => f.message
  | .file f => f.message

/-- What a run meets. -/
structure Host where
  files : FileSystem := {}
  /-- The current directory, an absolute path. -/
  directory : FilePath := ⟨.single, []⟩
  environment : List (String × String) := []
  /-- Where the library is installed. -/
  home : FilePath := ⟨.single, []⟩
  /-- Where settings are looked for if nobody says where. -/
  usualSettings : FilePath := ⟨.single, ["config", "msviz.yaml"]⟩
  /-- How many collections of a document may lie inside one another before there is no more room to read on, if
  there is a bound. -/
  deepest : Option Nat := none
  /-- Whether a text that has no bytes is refused where it is to be shown. -/
  strictOutput : Bool := false
  programs : List String := []
  runs : RunOutcome := .failed "no process scripted"
  fetches : FetchOutcome := .failed "no server scripted"
  draws : LayoutOutcome := .missing
  requests : List Request := []
  notes : List Note := []
  deriving Inhabited

namespace Host

variable {ε : Type}

/-! ### Notes and requests -/

/-- Tells something. -/
def note (level : Level) (origin : Origin) (text : String) : Step ε Host Unit :=
  modify fun h => { h with notes := h.notes ++ [⟨level, origin, text⟩] }

/-- Tells several things of no great matter. -/
def debugAll (origin : Origin) (texts : List String) : Step ε Host Unit :=
  modify fun h => { h with notes := h.notes ++ texts.map fun t => ⟨.debug, origin, t⟩ }

/-- Keeps a request. -/
def ask (r : Request) : Step ε Host Unit :=
  modify fun h => { h with requests := h.requests ++ [r] }

/-! ### Programs and services -/

/-- Whether there is a program of this name. -/
def hasProgram (name : String) : Step ε Host Bool := do
  ask (.find name)
  return (← get).programs.contains name

/-- Runs a program. -/
def run (command : List String) (input : String) (timeout : Value) : Step ε Host RunOutcome := do
  ask (.run command input timeout)
  return (← get).runs

/-- Fetches what is at an address. -/
def fetch (address : String) (timeout : Value) : Step ε Host FetchOutcome := do
  ask (.fetch address timeout)
  return (← get).fetches

/-- Lets a layout engine draw a graph. -/
def draw (engine format source : String) : Step ε Host LayoutOutcome := do
  ask (.draw engine format source)
  return (← get).draws

/-! ### Files -/

/-- The place of the current directory. -/
def here (h : Host) : List String :=
  h.directory.parts

/-- The path as seen from the root. -/
def absolute (p : FilePath) : Step ε Host FilePath := do
  return (← get).directory.join p

/-- Why a path is none: it holds a half that stands for no byte, or the character that no name can hold. -/
def unusable? (p : FilePath) : Option AccessFault :=
  match FileName.stray? p.toString.toList with
  | some f => some (.unencodable f)
  | none => if p.hasNul then some .nul else none

/-- What is at a path, which is nothing if the path is none. -/
def entry? (p : FilePath) : Step AccessFault Host (Option Entry) := do
  let h ← get
  if (unusable? p).isSome then return none
  else Step.of ((h.files.entry? h.here p).mapError .file)

/-- The bytes of a file. -/
def readFile (p : FilePath) : Step AccessFault Host (List UInt8) := do
  let h ← get
  if let some f := unusable? p then throw f
  else Step.of ((h.files.read h.here p).mapError .file)

/-- Makes a file, or fills it anew. -/
def writeFile (p : FilePath) (bytes : List UInt8) : Step AccessFault Host Unit := do
  let h ← get
  if let some f := unusable? p then throw f
  else
    let files ← Step.of ((h.files.write h.here p bytes).mapError .file)
    set { h with files }

/-- Makes a directory with all that lead to it, unless it is there. -/
def ensureDirectory (p : FilePath) : Step AccessFault Host Unit := do
  let h ← get
  if let some f := unusable? p then throw f
  else
    let (files, fault) := h.files.ensureDirectory h.here p
    set { h with files }
    if let some f := fault then throw (.file f)

/-- Makes a file, or fills it anew, with the directories that lead to it. -/
def store (p : FilePath) (bytes : List UInt8) : Step AccessFault Host Unit := do
  ensureDirectory p.parent
  writeFile p bytes

/-- Makes a file with a text, or fills it anew, with the directories that lead to it. If the text has no bytes, the
file is left empty. -/
def storeText (p : FilePath) (s : String) : Step AccessFault Host Unit := do
  match Utf8.encode? s.toList with
  | .ok bytes => store p bytes
  | .error f => do
    store p []
    throw (.unencodable f)

end Host

end Landscape
