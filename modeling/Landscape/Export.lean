import Landscape.Diagram.Basic

/-!
# Exporting diagrams

All kinds of diagrams of a system are exported in one go into a directory (`Landscape.Exporter.run`), each
into a file named after the system and, on demand, with its text beside it. A diagram that fails does
not keep the others from being drawn: what is wrong is part of its result
(`Landscape.ExportResult`). How an export comes by the name of the system, by the texts and by the images is its
plan (`Landscape.ExportPlan`).
-/

namespace Landscape

/-- What became of a diagram. -/
structure ExportResult where
  kind : DiagramKind
  target : FilePath
  source : Option String := none
  sourceFile : Option FilePath := none
  fault : Option DiagramFault := none
  deriving Repr, Inhabited

/-- Whether the diagram was drawn. -/
def ExportResult.isOk (r : ExportResult) : Bool :=
  r.fault.isNone

/-- What an export works with, as steps on states `σ`. -/
structure ExportPlan (σ : Type) where
  /-- The name of the system. -/
  name : Step Fault σ String
  /-- The text of the diagram of a kind. -/
  text : DiagramKind → Step Fault σ String
  /-- Draws the text of the diagram of a kind. -/
  draw : DiagramKind → String → FilePath → Step Fault σ FilePath
  /-- Does something on the host. -/
  onHost : Step Fault Host Unit → Step Fault σ Unit

namespace ExportPlan

variable {σ : Type}

/-! ### Files -/

/-- The name of the files for a kind of diagram of a system, without what it ends with. -/
def stem (name : String) (kind : DiagramKind) : String :=
  aliasOf name ++ kind.fileSuffix

/-- Where the image goes. -/
def target (directory : FilePath) (name : String) (kind : DiagramKind) : FilePath :=
  directory.child (stem name kind ++ ".svg")

/-- Where the text goes. -/
def sourceTarget (directory : FilePath) (name : String) (kind : DiagramKind) : FilePath :=
  directory.child (stem name kind ++ kind.sourceExtension)

/-- Stores the text of a diagram. -/
def storeSource (target : FilePath) (source : String) : Step Fault Host Unit :=
  (Host.storeText target source).blame fun
    | .file f => .render (.sourceUnwritable target f)
    | f => .access f

/-! ### One diagram -/

/-- A step that a fault of a diagram does not end: it becomes part of the result. -/
def recording (r : ExportResult) (act : Step Fault σ ExportResult) : Step Fault σ ExportResult := do
  match ← act.attempt with
  | .ok r => return r
  | .error (.diagram f) => return { r with fault := some f }
  | .error f => throw f

/-- Stores the text beside the image, if that is asked for, and draws it. -/
def finish (p : ExportPlan σ) (name : String) (directory : FilePath) (writeSource : Bool)
    (r : ExportResult) (text : String) : Step Fault σ ExportResult := do
  let file := sourceTarget directory name r.kind
  let r := { r with source := some text, sourceFile := if writeSource then some file else none }
  recording r do
    if writeSource then p.onHost (storeSource file text)
    let _ ← p.draw r.kind text r.target
    return r

/-- **Exports one kind of diagram.** -/
def exportOne (p : ExportPlan σ) (directory : FilePath) (writeSource : Bool) (kind : DiagramKind) :
    Step Fault σ ExportResult := do
  let name ← p.name
  let r : ExportResult := { kind, target := target directory name kind }
  match ← (p.text kind).attempt with
  | .ok text => p.finish name directory writeSource r text
  | .error (.diagram f) => return { r with fault := some f }
  | .error f => throw f

/-! ### All diagrams -/

/-- What is told of a result. -/
def resultNote (name : String) (r : ExportResult) : Note :=
  match r.fault with
  | none => ⟨.info, .service, s!"Exported {r.kind.name} diagram of '{name}' to {r.target}"⟩
  | some f => ⟨.warning, .service, s!"{r.kind.name} diagram of '{name}' failed: {f.message}"⟩

/-- Exports some kinds of diagrams, one after the other. -/
def exportAll (p : ExportPlan σ) (directory : FilePath) (writeSource : Bool) :
    List DiagramKind → Step Fault σ (List ExportResult)
  | [] => pure []
  | kind :: kinds => do
    let r ← p.exportOne directory writeSource kind
    let n := resultNote (← p.name) r
    p.onHost (Host.note n.level n.origin n.text)
    return r :: (← p.exportAll directory writeSource kinds)

/-- The kinds that some values name, unless one of them names none. -/
def kindsOf (vs : List Value) : Except Fault (List DiagramKind) :=
  match vs.filter fun v => (DiagramKind.of? v).isNone with
  | [] => .ok (vs.filterMap DiagramKind.of?)
  | unknown => .error (if Value.anyLongNumber unknown then .longNumber else .unknownKinds unknown)

/-- **Exports the diagrams** of the kinds that are asked for, in this order, into a directory. Unknown kinds are
refused before anything else is looked at. -/
def run (p : ExportPlan σ) (directory : Except Fault FilePath) (kinds : List Value)
    (writeSource : Bool) : Step Fault σ (List ExportResult) := do
  let kinds ← Step.of (kindsOf kinds)
  p.exportAll (← Step.of directory) writeSource kinds

end ExportPlan

/-- The renderers for the kinds of diagrams. -/
structure Exporter where
  graphs : RendererRef
  components : RendererRef
  deriving Repr, Inhabited

namespace Exporter

/-- An exporter with its renderers. A renderer that is not named is a new one; if it is for component diagrams,
it goes by the settings, if there are any. -/
def create (settings : Option Settings) (graphs components : Option RendererRef) : Work Exporter := do
  let graphs ← match graphs with
    | some r => pure r
    | none => Studio.addRenderer .usualForGraphs
  let components ← match components with
    | some r => pure r
    | none => Studio.addRenderer (.plantUml { settings })
  return { graphs, components }

/-- The diagram of a kind. -/
def diagram (e : Exporter) (s : Ref .system) : DiagramKind → Diagram
  | .simple => .simple { system := some s, format := .svg } e.graphs
  | .uml => .uml { system := some s, type := .component, format := .svg } e.components

/-- The plan for a system of the studio. -/
def plan (e : Exporter) (s : Ref .system) : ExportPlan Studio where
  name := do return ((← get).model.system s).name
  text kind := (e.diagram s kind).source
  draw kind text target :=
    let d := e.diagram s kind
    Studio.draw d.renderer text d.format target
  onHost := Studio.onHost

/-- **Exports the diagrams** of a system. -/
def run (e : Exporter) (s : Ref .system) (directory : FilePath) (kinds : List Value)
    (writeSource : Bool) : Work (List ExportResult) :=
  (e.plan s).run (.ok directory) kinds writeSource

end Exporter

end Landscape
