import Landscape.Studio

/-!
# Diagrams

A diagram is a configuration with the renderer that is to draw it (`Landscape.Diagram`). It is put together
field by field, and nothing is checked on the way (`Landscape.Diagram.Draft`); only when its text is
asked for does it show whether the configuration is enough and the model has such a diagram
(`Landscape.Diagram.source`). Drawing it is drawing this text (`Landscape.Diagram.draw`).
-/

namespace Landscape

/-- The kinds of diagrams. -/
inductive DiagramKind where
  | simple | uml
  deriving DecidableEq, Repr, Inhabited

namespace DiagramKind

/-- The name of a kind. -/
def name : DiagramKind → String
  | .simple => "simple"
  | .uml => "uml"

/-- All kinds. -/
def all : List DiagramKind :=
  [.simple, .uml]

/-- The kind that a value names. -/
def of? (v : Value) : Option DiagramKind :=
  all.find? fun k => v.asText? == some k.name

/-- What the file names of this kind have after the name of the system. -/
def fileSuffix : DiagramKind → String
  | .simple => "_simpleDiagram"
  | .uml => "_umlDiagram"

/-- How the names of files with the text of a diagram end. -/
def sourceExtension : DiagramKind → String
  | .simple => ".dot"
  | .uml => ".puml"

end DiagramKind

/-- A diagram: what it shows, and who is to draw it. -/
inductive Diagram where
  | simple (config : SimpleConfig) (renderer : RendererRef)
  | uml (config : UmlConfig) (renderer : RendererRef)
  deriving Repr, Inhabited

namespace Diagram

/-! ### Fields -/

/-- The kind of a diagram. -/
def kind : Diagram → DiagramKind
  | .simple .. => .simple
  | .uml .. => .uml

/-- The renderer of a diagram. -/
def renderer : Diagram → RendererRef
  | .simple _ r => r
  | .uml _ r => r

/-- The system that a diagram shows. -/
def system : Diagram → Option (Ref .system)
  | .simple c _ => c.system
  | .uml c _ => c.system

/-- The format of a diagram. -/
def format : Diagram → Choice
  | .simple c _ => c.format
  | .uml c _ => c.format

/-- The type of a diagram, if its kind has types. -/
def type? : Diagram → Option Choice
  | .simple .. => none
  | .uml c _ => some c.type

/-- The diagram with another system. -/
def withSystem (system : Option (Ref .system)) : Diagram → Diagram
  | .simple c r => .simple { c with system } r
  | .uml c r => .uml { c with system } r

/-- The diagram with another format. -/
def withFormat (format : Choice) : Diagram → Diagram
  | .simple c r => .simple { c with format } r
  | .uml c r => .uml { c with format } r

/-- The diagram with another type, if its kind has types. -/
def withType (type : Choice) : Diagram → Diagram
  | .simple c r => .simple c r
  | .uml c r => .uml { c with type } r

/-- The diagram with another renderer. -/
def withRenderer (r : RendererRef) : Diagram → Diagram
  | .simple c _ => .simple c r
  | .uml c _ => .uml c r

/-- The system that a diagram shows, if its configuration is enough. -/
def ready : Diagram → Except ConfigurationFault (Ref .system)
  | .simple c _ => c.ready
  | .uml c _ => c.ready

/-! ### Texts -/

/-- The graph of a simple diagram. -/
def graph (d : Diagram) : Work (Graph (Ref .microservice)) := do
  let s ← Step.of (d.ready.mapError .configuration)
  let m := (← get).model
  Studio.onHost (Host.debugAll .simple (m.graphNotes s))
  Step.of ((m.graph s).mapError .validation)

/-- The text of a system in diagrams of a kind. -/
def textOf (m : Model) (s : Ref .system) : DiagramKind → Except Fault String
  | .simple => (m.dotText s).mapError .validation
  | .uml => if m.isWritable s then (m.umlText s).mapError .validation else .error .longNumber

/-- **The text of a diagram.** -/
def source (d : Diagram) : Work String := do
  let s ← Step.of (d.ready.mapError .configuration)
  let m := (← get).model
  match d.kind with
  | .simple =>
    Studio.onHost (Host.debugAll .simple (m.dotNotes s))
    Step.of (textOf m s .simple)
  | .uml =>
    Studio.onHost (Host.debugAll .uml (m.umlNotes s))
    Step.of (textOf m s .uml)

/-! ### Drawing -/

/-- **Draws a diagram** into a file, whose name is `target` as it was given. -/
def draw (d : Diagram) (target : String) : Work FilePath := do
  if d.kind = .simple then
    Studio.onHost (Host.note .debug .simple
      "It is heavily recommended to have the 'dot' command from Graphviz installed.")
  let text ← d.source
  if d.kind = .uml then
    Studio.onHost (Host.note .debug .uml s!"Writing PlantUML diagram to {target}...")
  Studio.draw d.renderer text d.format (.ofString target)

/-! ### Drafts -/

/-- A diagram that is being put together. -/
structure Draft where
  kind : DiagramKind
  system : Option (Ref .system) := none
  type : Choice := .other .null
  format : Choice := .other .null
  renderer : Option RendererRef := none
  deriving Repr, Inhabited

/-- The renderer that draws diagrams of a kind if nobody says otherwise. -/
def usualRenderer : DiagramKind → Renderer
  | .simple => .usualForGraphs
  | .uml => .plantUml {}

/-- The diagram of a draft, which gets a renderer of its own if the draft names none. -/
def Draft.build (d : Draft) : Work Diagram := do
  let renderer ← match d.renderer with
    | some r => pure r
    | none => Studio.addRenderer (usualRenderer d.kind)
  match d.kind with
  | .simple => return .simple { system := d.system, format := d.format } renderer
  | .uml => return .uml { system := d.system, type := d.type, format := d.format } renderer

end Diagram

end Landscape
