import Landscape.Session.Item

/-!
# Sessions

In a session things are made one after the other, get names, are looked at and changed
(`Landscape.Session`). A step that fails does not end the session.

Where a field holds what it is meant for, the session keeps that in the studio. A field may be given anything else,
though, and a thing may get fields that its kind does not have; such an item is kept beside the studio
(`Landscape.Session.held`), and the studio has the nearest thing to it. While nothing is kept there the
session is plain (`Landscape.Session.isPlain`), and the studio knows all.

Fields may hold one and the same collection, and then a change to it shows in all of them
(`Landscape.Session.shared`).
-/

namespace Landscape

/-- What there is in a session. -/
structure Session where
  studio : Studio := {}
  /-- The names of things, the latest first. -/
  names : List (String × Thing) := []
  settings : Table Settings := {}
  exporters : Table Exporter := {}
  diagrams : Table Diagram := {}
  drafts : Table Diagram.Draft := {}
  /-- The items that fields hold in place of what they are meant for. -/
  held : List ((Thing × String) × Item) := []
  /-- Which settings the renderers for PlantUML go by. -/
  chosen : List (RendererRef × Nat) := []
  /-- The fields that hold one and the same collection. -/
  shared : List (List (Thing × String)) := []
  deriving Inhabited

/-- A step of a session. -/
abbrev Talk := Step Fault Session

namespace Session

/-! ### Looking -/

/-- The model of a session. -/
def model (s : Session) : Model :=
  s.studio.model

/-- The renderer of a session with a number. -/
def renderer (s : Session) (r : RendererRef) : Renderer :=
  s.studio.renderer r

/-- The kind of a renderer. -/
def rendererKind : Renderer → ThingKind
  | .graphviz _ => .graphviz
  | .plantUml _ => .plantUml
  | .memory _ => .memory

/-- The kind of a system. -/
def systemKind : Extent → ThingKind
  | .whole => .system
  | .fragment _ => .fragment

/-- The kind of a thing. -/
def kindOf (s : Session) : Thing → ThingKind
  | .team _ => .team
  | .parameter _ => .parameter
  | .operation _ => .operation
  | .interface _ => .interface
  | .microservice _ => .microservice
  | .contract _ => .contract
  | .system r => systemKind (s.model.system r).extent
  | .settings _ => .settings
  | .renderer r => rendererKind (s.renderer r)
  | .exporter _ => .exporter
  | .diagram i => .ofDiagram (s.diagrams.get i).kind
  | .config i => .ofConfig (s.diagrams.get i).kind
  | .draft i => .ofDraft (s.drafts.get i).kind

/-- The name of the kind of a choice. -/
def choiceKind : Choice → String
  | .svg => "OutputFormat"
  | .component => "UmlDiagramType"
  | .other v => v.kind.fullName

/-- The name of the kind of a kind. -/
def kindOfKind : ThingKind → String
  | .memory | .graphviz | .plantUml => "ABCMeta"
  | _ => "type"

/-- The name of the kind of an item. -/
def kindName (s : Session) : Item → String
  | .value v => v.kind.fullName
  | .thing t => (s.kindOf t).name
  | .choice c => choiceKind c
  | .path _ => "PosixPath"
  | .list _ => Value.Kind.list.name
  | .call .. => "RenderCall"
  | .ability .. => "method"
  | .kind k => kindOfKind k
  | .record _ => Value.Kind.mapping.name

/-- The latest name of a thing. -/
def nameOf? (s : Session) (t : Thing) : Option String :=
  (s.names.find? fun n => n.2 == t).map (·.1)

/-- The thing that has a name. -/
def thing (name : String) : Talk Thing := do
  match (← get).names.lookup name with
  | some t => return t
  | none => throw (.misuse (.noThing name))

/-- The fault that an item has no such field. -/
def lacks (s : Session) (x : Item) (field : String) : Fault :=
  match x with
  | .ability .. => .lacks "function" field
  | .kind k => .misuse (.kindLacks k.name field)
  | x => .lacks (s.kindName x) field

/-- How many things there are that have fields of their own. -/
def size (s : Session) : Nat :=
  let m := s.model
  m.teams.size + m.parameters.size + m.operations.size + m.interfaces.size + m.microservices.size +
    m.contracts.size + m.systems.size + s.settings.size + s.studio.renderers.size + s.exporters.size +
    2 * s.diagrams.size + s.drafts.size

/-! ### Items beside the studio -/

/-- The item that a field holds in place of what it is meant for. -/
def held? (s : Session) (t : Thing) (field : String) : Option Item :=
  s.held.lookup (t, field)

/-- Whether every field holds what it is meant for. -/
def isPlain (s : Session) : Bool :=
  s.held.isEmpty

/-- The session without an item beside the studio. -/
def released (t : Thing) (field : String) (s : Session) : Session :=
  { s with held := s.held.filter fun h => h.1 != (t, field) }

/-- The session with an item for a field beside the studio. Fields stay in the order in which they came. -/
def holding (t : Thing) (field : String) (x : Item) (s : Session) : Session :=
  if (s.held? t field).isSome then
    { s with held := s.held.map fun h => if h.1 == (t, field) then (h.1, x) else h }
  else { s with held := s.held ++ [((t, field), x)] }

/-- Keeps an item for a field beside the studio. -/
def hold (t : Thing) (field : String) (x : Item) : Talk Unit :=
  modify (holding t field x)

/-- Keeps nothing for a field beside the studio. -/
def release (t : Thing) (field : String) : Talk Unit :=
  modify (released t field)

/-! ### Shared collections -/

/-- The fields that hold the same collection as a field, itself among them. -/
def sharersOf (s : Session) (place : Thing × String) : List (Thing × String) :=
  (s.shared.find? fun g => g.contains place).getD [place]

/-- Lets a field hold the same collection as another. -/
def share (place other : Thing × String) : Talk Unit :=
  modify fun s =>
    { s with shared := (other :: s.sharersOf place) :: s.shared.filter fun g => !g.contains place }

/-- Lets a field hold what it holds by itself. -/
def unshare (place : Thing × String) : Talk Unit :=
  modify fun s => { s with shared := s.shared.map fun g => g.filter fun p => p != place }

/-! ### Changing -/

/-- A step in the studio. -/
def work {α : Type} (act : Work α) : Talk α :=
  act.within Session.studio fun t s => { s with studio := t }

/-- A step on the host. -/
def onHost {α : Type} (act : Step Fault Host α) : Talk α :=
  work (Studio.onHost act)

/-- Changes the model. -/
def changeModel (f : Model → Model) : Talk Unit :=
  work (Studio.changeModel f)

/-- Adds something to the model. -/
def addToModel {α : Type} (f : Model → α × Model) : Talk α := do
  let (a, m) := f (← get).model
  changeModel fun _ => m
  return a

/-- Changes the host. -/
def changeHost (f : Host → Host) : Talk Unit :=
  onHost (modify f)

/-- Gives a thing a name. -/
def name (name : String) (t : Thing) : Talk Unit :=
  modify fun s => { s with names := (name, t) :: s.names }

/-- Adds settings. -/
def addSettings (x : Settings) : Talk Nat :=
  modifyGet fun s => (s.settings.size, { s with settings := s.settings.add x })

/-- Adds a renderer. -/
def addRenderer (x : Renderer) : Talk Thing := do
  return .renderer (← work (Studio.addRenderer x))

/-- Adds an exporter. -/
def addExporter (x : Exporter) : Talk Thing :=
  modifyGet fun s => (.exporter s.exporters.size, { s with exporters := s.exporters.add x })

/-- Adds a draft. -/
def addDraft (d : Diagram.Draft) : Talk Thing :=
  modifyGet fun s => (.draft s.drafts.size, { s with drafts := s.drafts.add d })

/-- Changes a renderer. -/
def changeRenderer (r : RendererRef) (x : Renderer) : Talk Unit :=
  work (modify fun s => { s with renderers := s.renderers.modify r.index fun _ => x })

/-- Lets a renderer go by some settings, or by none. -/
def choose (r : RendererRef) (i : Option Nat) : Talk Unit :=
  modify fun s =>
    { s with chosen := (i.map (r, ·)).toList ++ s.chosen.filter fun c => c.1 != r }

/-- A step of drawing with a renderer for PlantUML; `what` is what other things lack for it. -/
def drawing {α : Type} (t : Thing) (what : String) (act : PlantUml.Drawing α) : Talk α := do
  let s ← get
  match t with
  | .renderer r =>
    match s.renderer r with
    | .plantUml p =>
      work (act.within (fun s => (p, s.host)) fun x s =>
        { s with renderers := s.renderers.modify r.index fun _ => .plantUml x.1, host := x.2 })
    | _ => throw (s.lacks (.thing t) what)
  | t => throw (s.lacks (.thing t) what)

end Session

end Landscape
