import Landscape.CommandLine.Arguments
import Landscape.Export

/-!
# Running the command

The command loads a landscape and the settings, exports the diagrams that are asked for, and writes the path of
each image with a line feed behind it (`Landscape.CommandLine.run`). Its exit code says whether all of them were drawn.
What it tells of its progress goes to another channel, from the level on that is asked for.

A path may hold halves of characters, which have no bytes as a text. Where those are refused, such a path ends the
command when its turn comes to be written (`Landscape.CommandLine.refusal?`). The other channel refuses nothing.
-/

namespace Landscape.CommandLine

/-! ### Exit codes -/

/-- All that was asked for was done. -/
def codeOk : Nat := 0

/-- A diagram was not drawn. -/
def codeFailed : Nat := 1

/-- There was nothing to draw from, or nothing was asked for. -/
def codeUnusable : Nat := 2

/-! ### Steps -/

/-- Whether a fault means that the landscape or the settings cannot be used; any other fault ends the
command. -/
def isUnusable : Fault → Bool
  | .document (.teamNotKey _) => false
  | .document _ | .landscapeFile .. | .landscapeYaml .. | .settings _ | .noSettings _ => true
  | _ => false

/-- Loads what the arguments name. -/
def loadInputs (a : Arguments) : Work (Ref .system × Settings) := do
  let s ← Studio.loadFile (.ofString a.landscape)
  let settings ← Studio.onHost (Settings.load a.config)
  return (s, settings)

/-- Where the diagrams go. -/
def outputDirectory (a : Arguments) : Except Fault FilePath :=
  match a.outputDir with
  | some s => .ok (.ofString s)
  | none => .error (.misuse (.notPath Value.Kind.list.name))

/-- Why a line cannot be written. -/
def refusal? (h : Host) (line : String) : Option Fault :=
  if h.strictOutput then (Utf8.halves? line.toList).map fun f => .access (.unencodable f) else none

/-- Tells of the results, and answers the lines that are written; where a line is refused, nothing comes after it. -/
def report : List ExportResult → Work (List String × Option Fault)
  | [] => pure ([], none)
  | r :: rs =>
    match r.fault with
    | none => do
      if let some f := refusal? (← get).host r.target.toString then return ([], some f)
      let (lines, fault) ← report rs
      return (r.target.toString :: lines, fault)
    | some f => do
      Studio.onHost (Host.note .error .commandLine s!"{r.kind.name} diagram failed: {f.message}")
      report rs

/-- Does what the arguments ask for, and answers the lines that are written and the exit code, or the fault that comes
after them. -/
def execute (a : Arguments) : Work (Except Fault Nat × List String) := do
  match ← (loadInputs a).attempt with
  | .error f =>
    if isUnusable f then
      Studio.onHost (Host.note .error .commandLine f.message)
      return (.ok codeUnusable, [])
    else throw f
  | .ok (s, settings) =>
    let e ← Exporter.create (some settings) none none
    let kinds := a.kinds.elim [.list []] (·.map fun k => Value.text k.name)
    let results ← (e.plan s).run (outputDirectory a) kinds a.writeSource
    let (lines, fault) ← report results
    match fault with
    | some f => return (.error f, lines)
    | none => return (.ok (if results.all ExportResult.isOk then codeOk else codeFailed), lines)

/-! ### The command -/

/-- What a run of the command comes to: its exit code, or the fault that ended it, and what it wrote. -/
structure Outcome where
  code : Except Fault Nat
  output : String := ""
  errors : String := ""

/-- What a listener at a level is told, a line for each note. -/
def toldLines (time : String) (level : Level) (notes : List Note) : String :=
  linesText ((notes.filter fun n => n.reaches level).map (Note.line time))

/-- **Runs the command**; `time` is the time that notes show. -/
def run (words : List String) (time : String) (s : Studio) : Outcome × Studio :=
  match parse words with
  | .error f => ({ code := .ok codeUnusable, errors := f.text }, s)
  | .ok .help => ({ code := .ok codeOk, output := helpText }, s)
  | .ok (.read a) =>
    match a.logLevel with
    | none => ({ code := .error (.lacks Value.Kind.list.name "upper") }, s)
    | some level =>
      let (r, t) := (execute a).run s
      let errors := toldLines time level (t.host.notes.drop s.host.notes.length)
      match r with
      | .ok (code, lines) => ({ code, output := linesText lines, errors }, t)
      | .error f => ({ code := .error f, errors }, t)

end Landscape.CommandLine
