import Landscape.Diagram.Fault
import Landscape.Document
import Landscape.Misuse

/-!
# Faults

Everything that can go wrong in this library is a fault (`Landscape.Fault`), and every fault has its
words (`Landscape.Fault.message`). The faults of diagrams are one case among them, so that a batch of
diagrams can go on after one of those and after nothing else.
-/

namespace Landscape

/-- The layout engines of Graphviz, by their names. -/
def layoutEngines : List String :=
  ["circo", "dot", "fdp", "neato", "osage", "patchwork", "sfdp", "twopi"]

/-- What can go wrong. -/
inductive Fault where
  /-- A document describes no landscape. -/
  | document (f : DocumentFault)
  /-- A landscape file cannot be read. -/
  | landscapeFile (path : FilePath) (f : FileFault)
  /-- A landscape file holds no YAML. -/
  | landscapeYaml (path : FilePath) (f : Yaml.Fault)
  /-- A settings file gives no settings. -/
  | settings (f : SettingsFault)
  /-- A settings file that was named does not exist. -/
  | noSettings (path : FilePath)
  /-- There is no diagram. -/
  | diagram (f : DiagramFault)
  /-- A batch was asked for kinds of diagrams that do not exist. -/
  | unknownKinds (kinds : List Value)
  /-- There is no layout engine of this name at all. -/
  | unknownEngine (name : String)
  /-- A file cannot be reached. -/
  | access (f : AccessFault)
  /-- A file holds bytes that are no text. -/
  | undecodable (f : Utf8.Fault)
  /-- A document is well formed and cannot be read all the same, such as one with a scalar that is not what its tag
  says. -/
  | scalar (f : Yaml.Fault)
  /-- Something is asked of a thing in vain. -/
  | misuse (f : Misuse)
  /-- A whole number is too large for a double. -/
  | hugeNumber
  /-- A whole number has too many digits to be written. -/
  | longNumber
  /-- Something outside failed in a way of its own. -/
  | foreign (f : ForeignFault)
  deriving Repr

namespace Fault

/-- What went wrong, in words. -/
def message : Fault → String
  | .document f => f.message
  | .landscapeFile path f => s!"Cannot read landscape file {path}: {f.message}"
  | .landscapeYaml path f => s!"Invalid YAML in {path}: {f.message}"
  | .settings f => f.message
  | .noSettings path => s!"Settings file not found: {path}"
  | .diagram f => f.message
  | .unknownKinds kinds =>
    "Unknown diagram kind(s) " ++ Value.literal (.list kinds) ++ ". Must be one of: simple, uml"
  | .unknownEngine name =>
    s!"unknown engine: {quoted name} (must be one of " ++ describedList (layoutEngines.map quoted) ++ ")"
  | .access f => f.message
  | .undecodable f => f.message
  | .scalar f => f.message
  | .misuse f => f.message
  | .hugeNumber => "int too large to convert to float"
  | .longNumber =>
    s!"Exceeds the limit ({mostWholeDigits} digits) for integer string conversion; " ++
      "use sys.set_int_max_str_digits() to increase the limit"
  | .foreign f => f.message

/-- A fault of a configuration. -/
def configuration (f : ConfigurationFault) : Fault :=
  .diagram (.configuration f)

/-- A fault of a model. -/
def validation (f : ValidationFault) : Fault :=
  .diagram (.validation f)

/-- A fault of an image. -/
def render (f : RenderFault) : Fault :=
  .diagram (.render f)

/-- The fault that things of a kind lack a field. -/
def lacks (kind field : String) : Fault :=
  .misuse (.lacks kind field)

end Fault

end Landscape
