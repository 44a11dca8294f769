import Landscape.Session.Make
import Landscape.Session.Sketch

/-!
# Doing things

Things do what their kinds can do: microservices provide interfaces, systems are searched, diagrams have texts and
are drawn, and exporters export (`Landscape.Session.exportDiagrams`). In a plain session, and for items that are what is
meant, this is done in the studio. Otherwise it is done as far as it goes, and what fails is the first
item that is asked for what it lacks.
-/

namespace Landscape.Session

/-! ### Abilities -/

/-- Makes sure that a thing can do something. -/
def able (t : Thing) (ability : String) : Talk Unit := do
  let s ← get
  match s.field? t ability with
  | some (.ability ..) => pure ()
  | _ => throw (s.cannot (.thing t) ability)

/-- The path that an item gives. -/
def pathOf (s : Session) (x : Item) : Except Fault FilePath :=
  match x.path? with
  | some p => .ok p
  | none => .error (.misuse (.notPath (s.kindName x)))

/-- The system that an item is, if the studio knows all about it. -/
def plainSystem? (s : Session) (x : Item) : Option (Ref .system) :=
  if s.isPlain then x.thing?.bind Thing.system? else none

/-- Builds the diagram of a draft. -/
def build (t : Thing) : Talk Thing := do
  able t "build"
  match t with
  | .draft i => buildDraft i
  | t => throw ((← get).lacks (.thing t) "build")

/-! ### Models -/

/-- **Provides an interface.** -/
def provide (t : Thing) (x : Item) : Talk Unit := do
  able t "provide"
  match t, x, (← get).isPlain with
  | .microservice m, .thing (.interface i), true => changeModel fun model => model.provide m i
  | t, .thing u, _ => do
    setField u "provider" (.thing t)
    appendItem t "interfaces" x
  | _, x, _ => throw ((← get).lacks x "provider")

/-- The first microservice of a system that has a name, null if there is none. -/
def find (t : Thing) (name : Item) : Talk Item := do
  able t "find_microservice"
  let s ← get
  match s.plainSystem? (.thing t), name.text? with
  | some r, some n => return .ofOption .microservice (s.model.findMicroservice? r n)
  | _, _ => Step.of (do s.sketchFind name (← s.parts (.thing t) "microservices"))

/-- The interfaces that the microservices of a system list. -/
def provided (t : Thing) : Talk Item := do
  able t "provided_interfaces"
  let s ← get
  match s.plainSystem? (.thing t) with
  | some r => return .ofList .interface (s.model.providedInterfaces r)
  | none => return .list (← Step.of (s.sketchProvided (.thing t)))

/-! ### Texts of diagrams -/

/-- The item that a diagram shows, if its configuration is enough. -/
def ready (s : Session) (i : Nat) : Except ConfigurationFault Item :=
  let field (name : String) := (s.keptField? (.config i) name).getD .null
  match (s.diagrams.get i).ready with
  | .ok _ => .ok (field "system")
  | .error (.unknownType _) => .error (.unknownType (s.describe (field "type")))
  | .error f => .error f

/-- Whether the configuration of an item is enough. -/
def check (x : Item) : Talk (Option ConfigurationFault) := do
  let s ← get
  match ← getField x "config" with
  | .thing (.config i) =>
    match s.ready i with
    | .ok _ => return none
    | .error f => return some f
  | c => throw (s.cannot c "check")

/-- The graph of a diagram. -/
def graph (t : Thing) : Talk (Graph Vertex) := do
  able t "build_graph"
  let s ← get
  match t, s.isPlain with
  | .diagram i, true => do
    let g ← work (s.diagrams.get i).graph
    let vertex (r : Ref .microservice) : Vertex := .thing (.microservice r)
    return ⟨g.vertices.map vertex, g.edges.map fun e => (vertex e.1, vertex e.2)⟩
  | .diagram i, false => do
    let system ← Step.of ((s.ready i).mapError .configuration)
    Step.of (s.sketchGraph system)
  | t, _ => throw (s.lacks (.thing t) "build_graph")

/-- The text of a diagram. -/
def text (t : Thing) : Talk String := do
  let s ← get
  match t, s.isPlain with
  | .diagram i, true => work (s.diagrams.get i).source
  | .diagram i, false => do
    let system ← Step.of ((s.ready i).mapError .configuration)
    Step.of (s.sketch system (s.diagrams.get i).kind)
  | t, _ => do
    able t "to_dot"
    throw (s.lacks (.thing t) "to_dot")

/-! ### Drawing anything -/

/-- Refuses all formats but one. -/
def requireFormat (x : Item) : Talk Unit := do
  match x with
  | .choice .svg => pure ()
  | x => throw (.render (.format ((← get).describe x)))

/-- Stores an image at the path that an item gives. -/
def storeAt (path : Item) (image : List UInt8) : Talk FilePath := do
  let target ← Step.of ((← get).pathOf path)
  onHost (storeImage target image)

/-- Remembers anything that was to be drawn. -/
def remember (t : Thing) (source format path : Item) : Talk FilePath := do
  let target ← Step.of ((← get).pathOf path)
  appendItem t "calls" (.call source format target)
  if (← getField (.thing t) "write_source").isTruthy then
    match source.text? with
    | some text => onHost do storeImage target (← bytesOf text)
    | none => throw ((← get).cannot source "encode")
  else return target

/-- Draws anything with a layout engine. -/
def drawGraph (t : Thing) (source format path : Item) : Talk FilePath := do
  requireFormat format
  let s ← get
  let engine ← getField (.thing t) "engine"
  match engine.value?, source.text? with
  | none, _ => throw (s.cannot engine "lower")
  | some v, none => do
    let _ ← Step.of (engineOf v)
    throw (s.cannot source "endswith")
  | some v, some text => storeAt path (← onHost (dotImage v text .svg))

/-- What the settings of a renderer say in a field. -/
def setting (t : Thing) (field : String) : Talk Item := do
  let settings ← getField (.thing t) "settings"
  Step.of ((← get).look settings field)

/-- What a renderer has found out, which is found out now if it is not known. -/
def finding (t : Thing) (field : String) (probe : Talk Bool) : Talk Bool := do
  match (← get).field? t field with
  | none | some (.value .null) => do
    let b ← probe
    putField t field (.value (.bool b))
    return b
  | some x => return x.isTruthy

/-- The plan of a renderer for PlantUML, whatever its fields hold. -/
def drawingPlan (t : Thing) : PlantUml.Plan Session where
  jarUsable := finding t "_jar_available" do
    match ← setting t "plantuml_jar" with
    | .path p => onHost (PlantUml.probeJar p)
    | x => throw ((← get).cannot x "is_file")
  graphvizThere := finding t "_graphviz_available" (onHost PlantUml.probeGraphviz)
  jar := do
    let jar ← setting t "plantuml_jar"
    Step.of ((← get).display jar)
  server := do
    let server ← setting t "plantuml_server_url"
    match server.value? with
    | some v => Step.of (PlantUml.serverAddress v)
    | none => throw ((← get).cannot server "rstrip")
  fallback := do return (← setting t "http_fallback").isTruthy
  timeout := do
    match ← setting t "timeout" with
    | .path p => return .text p.toString
    | x => return x.asValue
  onHost := onHost

/-- What comes of drawing something with PlantUML that is no text. -/
def failToDraw (t : Thing) (source : Item) : Talk String := do
  let p := drawingPlan t
  if ← p.jarUsable then
    if !(← p.graphvizThere) then
      let hasLayout ← Step.of ((← get).contains source (.value (.text PlantUml.layoutPragma)))
      if !hasLayout then throw ((← get).cannot source "replace")
    let _ ← p.jar
  else
    if !(← p.fallback) then throw (.render (.jarMissing (← p.jar)))
    let _ ← p.server
  throw ((← get).cannot source "encode")

/-- Draws anything with PlantUML, as an SVG text. -/
def drawSvg (t : Thing) (source : Item) : Talk String := do
  able t "render_svg"
  match source.text? with
  | some text => (drawingPlan t).drawSvg text
  | none => failToDraw t source

/-- Draws anything with PlantUML. -/
def drawComponents (t : Thing) (source format path : Item) : Talk FilePath := do
  requireFormat format
  let image ← drawSvg t source
  storeAt path (← bytesOf image)

/-- **Draws anything** with whatever is in the place of a renderer. -/
def render (renderer source format path : Item) : Talk FilePath := do
  let s ← get
  match renderer with
  | .thing t => do
    able t "render"
    match t, s.isPlain, source.text?, format.choice?, path.path? with
    | .renderer r, true, some text, some choice, some target =>
      work (Studio.draw r text choice target)
    | t, _, _, _, _ =>
      match s.kindOf t with
      | .memory => remember t source format path
      | .graphviz => drawGraph t source format path
      | .plantUml => drawComponents t source format path
      | _ => throw (s.cannot renderer "render")
  | x => throw (s.cannot x "render")

/-- Draws a diagram. -/
def visualize (t : Thing) (path : Item) : Talk FilePath := do
  able t "visualize"
  let s ← get
  match t, s.isPlain, path.path? with
  | .diagram i, true, some target => work ((s.diagrams.get i).draw target.toString)
  | t, _, _ => do
    let source ← text t
    render (← getField (.thing t) "renderer") (.value (.text source)) (← getField (.thing t) "format") path

/-! ### What renderers know -/

/-- What a renderer remembers: for each call its text, format and path. -/
def calls (t : Thing) : Talk (List (List Item)) := do
  let calls ← getField (.thing t) "calls"
  let s ← get
  Step.of (do (← s.elements calls).mapM fun c => ["source", "format", "output_file"].mapM (s.look c))

/-- The settings that a renderer goes by: what their fields hold. -/
def settingsItems (t : Thing) : Talk (List (String × Item)) := do
  let x ← getField (.thing t) "settings"
  let s ← get
  Step.of (ThingKind.settings.fields.mapM fun f => do return (f.name, ← s.look x f.name))

/-- What a diagram shows of itself: what it is of, in which format and type, and the kind of its renderer. -/
def properties (t : Thing) : Talk (List (String × Item)) := do
  let x := Item.thing t
  let system ← getField x "system"
  let format ← getField x "format"
  let renderer ← getField x "renderer"
  let s ← get
  let shown := [("system", system), ("format", format), ("renderer", .value (.text (s.kindName renderer)))]
  if s.kindOf t = .umlDiagram then return shown ++ [("type", ← getField x "type")] else return shown

/-! ### Exporting -/

/-- The kinds of diagrams that an item asks for: those that its parts name, if it is not itself a name. -/
def kindsOf (s : Session) (x : Item) : Except Fault (List Value) :=
  match x.text? with
  | some name => .ok [.text name]
  | none => do return (← s.elements x).map Item.asValue

/-- The field for the renderer of an exporter for diagrams of a kind. -/
def rendererField : DiagramKind → String
  | .simple => "_graph_renderer"
  | .uml => "_uml_renderer"

/-- The renderer for diagrams of a kind; in place of what counts as nothing it is a new one. -/
def rendererFor (kind : DiagramKind) (x : Item) : Talk Item := do
  if x.isTruthy then return x
  else return .thing (← addRenderer (Diagram.usualRenderer kind))

/-- The plan for exporting diagrams of anything. -/
def exportPlan (t : Thing) (system : Item) : ExportPlan Session where
  name := do Step.of ((← get).nameOf system)
  text kind := do Step.of ((← get).sketch system kind)
  draw kind source target := do
    let renderer ← rendererFor kind (← getField (.thing t) (rendererField kind))
    render renderer (.value (.text source)) (.choice .svg) (.path target)
  onHost := onHost

/-- **Exports diagrams of anything.** -/
def exportDiagrams (t : Thing) (system directory kinds : Item) (writeSource : Bool) :
    Talk (List ExportResult) := do
  able t "export"
  let s ← get
  let kinds ← Step.of (s.kindsOf kinds)
  match t, s.plainSystem? system with
  | .exporter i, some r =>
    work (((s.exporters.get i).plan r).run (s.pathOf directory) kinds writeSource)
  | t, _ => (exportPlan t system).run (s.pathOf directory) kinds writeSource

/-! ### Giving -/

/-- Has a thing do something with an item. A draft becomes itself by that. -/
def perform (t : Thing) (ability : String) (x : Item) : Talk Item := do
  match t, ability with
  | .draft i, ability => do
    setDraftField i ability x
    return .thing t
  | t, "provide" => do
    provide t x
    return x
  | t, "find_microservice" => find t x
  | t, "render_svg" => return .value (.text (← drawSvg t x))
  | t, "visualize" => return .path (← visualize t x)
  | _, _ => return .null

/-- **Gives an item to a thing** by something that it can do with one item, and answers whether what comes of
it is the thing itself. That is so for drafts, which get a field in this way. -/
def give (t : Thing) (ability : String) (x : Item) : Talk Bool := do
  let s ← get
  let kind := s.kindOf t
  match ← getField (.thing t) ability with
  | .ability _ name => do
    if let some f := (kind.ability? name).bind kind.misuseOfAbility? then throw (.misuse f)
    return (← perform t name x).thing? == some t
  | .kind k => throw (.misuse (.tooMany k.makerName))
  | y => throw (.misuse (.notCallable (s.kindName y)))

end Landscape.Session
