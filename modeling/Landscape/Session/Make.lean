import Landscape.Session.Change

/-!
# Making things

A thing is made from the name of its kind and from items for its fields (`Landscape.Session.make`). It is made
blank first and then gets its fields one after the other, so it does not matter whether an item is what its
field is meant for. A loaded system gets a name, and so do its parts, by their positions
(`Landscape.Session.nameParts`).
-/

namespace Landscape.Session

/-- Items by the names of what they are for. -/
abbrev Fields := List (String × Item)

/-- The item for a name, null if there is none. -/
def Fields.item (fs : Fields) (name : String) : Item :=
  (fs.lookup name).getD .null

/-! ### Things of a kind -/

/-- Makes an exporter. A renderer that counts as nothing is a new one, which goes by the settings if it is for
component diagrams. -/
def makeExporter (fs : Fields) : Talk Thing := do
  let renderer? (name : String) := (fs.item name).thing?.bind Thing.renderer?
  let e ← work (Exporter.create none (renderer? "graph_renderer") (renderer? "uml_renderer"))
  let t ← addExporter e
  if (fs.item "graph_renderer").isTruthy then
    putField t "_graph_renderer" (fs.item "graph_renderer")
  if (fs.item "uml_renderer").isTruthy then
    putField t "_uml_renderer" (fs.item "uml_renderer")
  else putField (.renderer e.components) "_settings" (fs.item "settings")
  return t

/-- A thing of a kind without anything in its fields, settings apart, which are as usual. Exporters, and what has to
do with diagrams, are not made blank. -/
def makeBlank (kind : ThingKind) : Talk Thing := do
  match kind with
  | .team => return .team (← addToModel fun m => m.addTeam ⟨.null⟩)
  | .parameter => return .parameter (← addToModel fun m => m.addParameter { name := "" })
  | .operation => return .operation (← addToModel fun m => m.addOperation { name := "" })
  | .interface => return .interface (← addToModel fun m => m.addInterface { name := "" })
  | .microservice => return .microservice (← addToModel fun m => m.addMicroservice { name := "" })
  | .contract => return .contract (← addToModel fun m => m.addContract default)
  | .system => return .system (← addToModel fun m => m.addSystem { name := "" })
  | .fragment => return .system (← addToModel fun m => m.addSystem { name := "", extent := .fragment none })
  | .settings => return .settings (← addSettings (Settings.usual (← get).studio.host.home))
  | .memory => addRenderer (.memory {})
  | .graphviz => addRenderer .usualForGraphs
  | .plantUml => addRenderer (.plantUml {})
  | .exporter | .simpleDiagram | .umlDiagram | .simpleConfig | .umlConfig | .simpleDraft | .umlDraft =>
    throw (.misuse (.noKind kind.name))

/-- The field that something is for from which a thing is made. -/
def fieldFor (kind : ThingKind) (name : String) : String :=
  match kind, name with
  | .plantUml, "settings" => "_settings"
  | _, name => name

/-- **Makes a thing** of the kind that a name stands for. -/
def make (kindName : String) (fs : Fields) : Talk Thing := do
  match ThingKind.ofName? kindName with
  | none => throw (.misuse (.noKind kindName))
  | some kind =>
    match kind.misuse? (fs.map (·.1)), kind with
    | some f, _ => throw (.misuse f)
    | none, .exporter => makeExporter fs
    | none, kind => do
      let t ← makeBlank kind
      fs.forM fun f => putField t (fieldFor kind f.1) f.2
      return t

/-! ### Diagrams -/

/-- Adds a diagram, and answers its number. -/
def addDiagram (d : Diagram) : Talk Nat :=
  modifyGet fun s => (s.diagrams.size, { s with diagrams := s.diagrams.add d })

/-- Makes a diagram with all that it needs; a renderer that is not named is one that remembers. -/
def makeDiagram (kind : DiagramKind) (system renderer : Item) : Talk Thing := do
  let r ← match renderer.thing?.bind Thing.renderer? with
    | some r => pure r
    | none => work (Studio.addRenderer (.memory {}))
  let i ← addDiagram (match kind with
    | .simple => .simple { format := .svg } r
    | .uml => .uml { type := .component, format := .svg } r)
  putField (.config i) "system" system
  if renderer.isTruthy then putField (.diagram i) "renderer" renderer
  return .diagram i

/-- Puts a field into a draft; `what` is what it is put in by. -/
def setDraftField (i : Nat) (what : String) (x : Item) : Talk Unit := do
  match what with
  | "system" => putField (.draft i) "_system" x
  | "type" => putField (.draft i) "_type" x
  | "output_format" => putField (.draft i) "_format" x
  | "renderer" => putField (.draft i) "_renderer" x
  | _ => pure ()

/-- The fields of drafts, and the fields of the diagram with a number that come of them. -/
def draftedFields (i : Nat) : List (String × Thing × String) :=
  [("_system", .config i, "system"), ("_type", .config i, "type"), ("_format", .config i, "format"),
    ("_renderer", .diagram i, "renderer")]

/-- Hands a field of a draft on to a field of its diagram, which then holds the same. A renderer that counts as
nothing is not handed on. -/
def handOn (draft : Nat) (field : String) (t : Thing) (target : String) : Talk Unit := do
  let s ← get
  if let some x := s.keptField? (.draft draft) field then
    if target != "renderer" || x.isTruthy then
      if (s.held? (.draft draft) field).isSome then putField t target x
      if x.isCollection then share (.draft draft, field) (t, target)

/-- Builds the diagram of a draft. -/
def buildDraft (i : Nat) : Talk Thing := do
  let s ← get
  let j ← addDiagram (← work (s.drafts.get i).build)
  (draftedFields j).forM fun f => handOn i f.1 f.2.1 f.2.2
  return .diagram j

/-! ### Loading -/

/-- Names the parts of a system after it. -/
def nameParts (id : String) (r : Ref .system) : Talk Unit := do
  let m := (← get).model
  for (x, a) in (m.system r).microservices.zipIdx do
    name s!"{id}.m{a}" (.microservice x)
    for (i, b) in (m.microservice x).interfaces.zipIdx do
      name s!"{id}.m{a}.i{b}" (.interface i)
      for (o, c) in (m.interface i).operations.zipIdx do
        name s!"{id}.m{a}.i{b}.o{c}" (.operation o)
  for (x, a) in (m.system r).contracts.zipIdx do
    name s!"{id}.c{a}" (.contract x)

/-- Loads a system from its document, and names it and its parts. -/
def load (id : String) (document : Value) : Talk Thing := do
  let r ← work (Studio.load document)
  name id (.system r)
  nameParts id r
  return .system r

end Landscape.Session
