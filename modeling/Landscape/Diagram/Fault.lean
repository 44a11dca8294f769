import Landscape.Settings.Basic
import Landscape.Text.Blank
import Landscape.Text.Utf8

/-!
# Why a diagram cannot be drawn

A diagram is drawn in an output format and, if it is a component diagram, as a type of diagram. Callers
may leave either out or hand in something else (`Landscape.Choice`); only one format and one
type are supported. This file holds those choices, and the reasons for which there is no diagram: the
configuration is not enough (`Landscape.ConfigurationFault`), the model has none
(`Landscape.ValidationFault`), or nothing can turn its text into an image
(`Landscape.RenderFault`). Together they are the faults of a diagram (`Landscape.DiagramFault`), which
are told apart from everything else that can go wrong.
-/

namespace Landscape

/-- What a caller asks for where a format or a type is expected: the one format there is, the one
type there is, or any other value, null if nothing was asked for. -/
inductive Choice where
  | svg
  | component
  | other (v : Value)
  deriving Repr, Inhabited

namespace Choice

/-- Nothing was asked for. -/
def isNone : Choice → Bool
  | .other .null => true
  | _ => false

/-- The name of the one format. -/
def svgName : String :=
  "SVG"

/-- What the one format is asked for by. -/
def svgValue : String :=
  "svg"

/-- The name of the one type. -/
def componentName : String :=
  "COMPONENT"

/-- What the one type is asked for by. -/
def componentValue : String :=
  "component"

/-- The text of a choice. -/
def display : Choice → String
  | .svg => "OutputFormat." ++ svgName
  | .component => "UmlDiagramType." ++ componentName
  | .other v => v.display

/-- The literal of a choice. -/
def literal : Choice → String
  | .other v => v.literal
  | .svg => "<" ++ display .svg ++ ": " ++ quoted svgValue ++ ">"
  | .component => "<" ++ display .component ++ ": " ++ quoted componentValue ++ ">"

/-- Sameness of choices. -/
def same : Choice → Choice → Bool
  | .svg, .svg => true
  | .component, .component => true
  | .other v, .other w => v.same w
  | _, _ => false

/-- The format of a name. -/
def format? (v : Value) : Option Choice :=
  if v.asText? == some svgValue then some .svg else none

/-- The diagram type of a name. -/
def type? (v : Value) : Option Choice :=
  if v.asText? == some componentValue then some .component else none

end Choice

/-- Why a configuration is not enough for a diagram. -/
inductive ConfigurationFault where
  /-- A simple diagram without a format. -/
  | noFormat
  /-- A simple diagram in another format. -/
  | formatOfSimple
  /-- A simple diagram without a system. -/
  | noSystemOfSimple
  /-- A component diagram without a type or without a format. -/
  | noTypeOrFormat
  /-- A component diagram of another type; this is its literal. -/
  | unknownType (literal : String)
  /-- A component diagram in another format. -/
  | formatOfUml
  /-- A component diagram without a system. -/
  | noSystemOfUml
  deriving Repr

/-- What is missing, in words. -/
def ConfigurationFault.message : ConfigurationFault → String
  | .noFormat => "Need to set output format!"
  | .formatOfSimple => "Unsupported output format for simple diagrams!"
  | .noSystemOfSimple => "No system declared for visualization!"
  | .noTypeOrFormat => "Need to set type and output format!"
  | .unknownType literal => s!"Unsupported UML diagram type: {literal}"
  | .formatOfUml => "Unsupported output format for UML diagrams!"
  | .noSystemOfUml => "No system found to visualize."

/-- Why a model has no diagram. -/
inductive ValidationFault where
  /-- Nobody provides the interface of a contract. -/
  | noProvider (interface : String)
  /-- An end of a contract lies outside the system. -/
  | undefinedContract
  deriving Repr, DecidableEq

/-- What the model violates, in words. -/
def ValidationFault.message : ValidationFault → String
  | .noProvider i => s!"Interface '{i}' of a contract has no providing microservice"
  | .undefinedContract => "Owner or consumer of a contract were not previously defined."

/-- Why the text of a diagram does not become an image. -/
inductive RenderFault where
  /-- The image cannot be stored. -/
  | unwritable (path : FilePath) (f : FileFault)
  /-- The text cannot be stored beside the image. -/
  | sourceUnwritable (path : FilePath) (f : FileFault)
  /-- Another format was asked for; this is its literal. -/
  | format (literal : String)
  /-- There is no such layout engine. -/
  | noEngine (engine : String)
  /-- The layout engine failed. -/
  | layout (f : CommandFault)
  /-- There are no settings to draw by. -/
  | settings (f : SettingsFault)
  /-- The archive failed, and no server may be asked. -/
  | jarFailed
  /-- There is no archive to use, and no server may be asked. -/
  | jarMissing (path : String)
  /-- The server did not answer. -/
  | request (message : String)
  /-- The server answered with another status than that of success. -/
  | status (status : Int)
  /-- The server answered with something that is no image. -/
  | notImage (body : String)
  deriving Repr

/-- How much of an answer that is no image is shown. -/
def shownOfAnswer : Nat := 200

/-- A text cut off after some points. -/
def cut (n : Nat) (s : String) : String :=
  String.ofList (firstPoints n s.toList)

/-- What a failed command wrote to its errors, blanks around it taken off; the command in words, if that
is nothing. -/
def CommandFault.reason (f : CommandFault) : String :=
  let errors := String.ofList (trim (spelled (Utf8.decodeLossy (f.errors.getD []))))
  if errors.isEmpty then f.message else errors

/-- What went wrong with an image, in words. -/
def RenderFault.message : RenderFault → String
  | .unwritable path f => s!"Cannot write diagram to {path}: {f.message}"
  | .sourceUnwritable path f => s!"Cannot write diagram source to {path}: {f.message}"
  | .format literal => s!"Renderer only supports SVG output, got {literal}"
  | .noEngine engine =>
    s!"Graphviz '{engine}' executable not found; install Graphviz to render graph diagrams"
  | .layout f => s!"Graphviz failed to render DOT source: {f.reason}"
  | .settings f => s!"Cannot load PlantUML renderer settings: {f.message}"
  | .jarFailed => "PlantUML JAR failed to render and HTTP fallback is disabled"
  | .jarMissing path => s!"PlantUML JAR not available at {path} and HTTP fallback is disabled"
  | .request message => s!"PlantUML server request failed: {message}"
  | .status n => s!"PlantUML server returned {n}"
  | .notImage body => s!"PlantUML server returned unexpected content: {cut shownOfAnswer body}"

/-- Why there is no diagram. -/
inductive DiagramFault where
  | configuration (f : ConfigurationFault)
  | validation (f : ValidationFault)
  | render (f : RenderFault)
  deriving Repr

/-- Why there is no diagram, in words. -/
def DiagramFault.message : DiagramFault → String
  | .configuration f => f.message
  | .validation f => f.message
  | .render f => f.message

end Landscape
