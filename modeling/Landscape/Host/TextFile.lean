import Landscape.Fault
import Landscape.Yaml.Document

/-!
# Texts and documents in files

A file of a landscape or of settings is read as UTF-8 with any line breaks, and holds one YAML
document. What can go wrong on the way is told apart here (`Landscape.DocumentFileFault`); what it means
depends on what the file is for.
-/

namespace Landscape

/-- Why a file gives no document. -/
inductive DocumentFileFault where
  | access (f : AccessFault)
  | undecodable (f : Utf8.Fault)
  | yaml (f : Yaml.Fault)
  deriving Repr

/-- The document that the bytes of a file hold, as far as somebody is going to look at it. There may be room for so many
collections inside one another only. -/
def documentOfBytes (room : Option Nat) (shape : Shape) (bytes : List UInt8) : Except DocumentFileFault Value :=
  let (text, fault) := Utf8.decodeFile bytes
  let source := (Yaml.Source.of text fault).map fun s => { s with text := spelled s.text }
  (source >>= Yaml.read room shape).mapError fun
    | .undecodable f => .undecodable f
    | f => .yaml f

/-- The document in a file. -/
def Host.readDocument (shape : Shape) (p : FilePath) : Step DocumentFileFault Host Value := do
  let bytes ← (Host.readFile p).blame .access
  Step.of (documentOfBytes (← get).deepest shape bytes)

end Landscape
