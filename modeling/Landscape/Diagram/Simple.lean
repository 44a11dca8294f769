import Landscape.Alias
import Landscape.Diagram.Fault
import Landscape.Dot.Text
import Landscape.Graph
import Landscape.Model.Basic

/-!
# Simple diagrams

A simple diagram shows the microservices of a system as vertices and its contracts as edges from
consumer to provider (`Landscape.Model.graph`); interfaces do not show. A contract may join
microservices from outside the system, and these become vertices too, but somebody has to provide its
interface. The DOT text declares each vertex by the alias of its name and labels it with the name
(`Landscape.Model.dotText`).
-/

namespace Landscape

/-- What a simple diagram needs to know. -/
structure SimpleConfig where
  system : Option (Ref .system) := none
  format : Choice := .other .null
  deriving Repr, Inhabited

/-- The system to show, unless something is missing for a simple diagram. -/
def SimpleConfig.ready (c : SimpleConfig) : Except ConfigurationFault (Ref .system) :=
  match c.format, c.system with
  | .other .null, _ => .error .noFormat
  | .svg, some s => .ok s
  | .svg, none => .error .noSystemOfSimple
  | _, _ => .error .formatOfSimple

namespace Model

/-! ### The graph -/

/-- The graph with an edge for each contract, in order, up to the first without a provider. -/
def addContracts (m : Model) (g : Graph (Ref .microservice)) :
    List (Ref .contract) → Except ValidationFault (Graph (Ref .microservice))
  | [] => .ok g
  | r :: rs =>
    let c := m.contract r
    let owner := m.interface c.owner
    match owner.provider with
    | none => .error (.noProvider owner.name)
    | some p => m.addContracts (g.addEdge c.consumer p) rs

/-- **The graph of a system**: its microservices and, for each contract, an edge from the consumer to the
microservice that provides the owner. -/
def graph (m : Model) (s : Ref .system) : Except ValidationFault (Graph (Ref .microservice)) :=
  let g := (m.system s).microservices.foldl Graph.addVertex ({} : Graph (Ref .microservice))
  m.addContracts g (m.system s).contracts

/-! ### The text -/

/-- The identifier of a microservice in DOT: the alias of its name, read by DOT as written. -/
def vertexId (m : Model) (r : Ref .microservice) : List Char :=
  Dot.escapeBackslashes (aliasOf (m.microservice r).name).toList

/-- The label of a microservice in DOT: its name, shown as written. -/
def vertexLabel (m : Model) (r : Ref .microservice) : List Char :=
  Dot.escapeBackslashes (m.microservice r).name.toList

/-- The statements for a graph: all vertices, then all edges. -/
def dotStatements (m : Model) (g : Graph (Ref .microservice)) : List Dot.Statement :=
  g.vertices.map (fun r => .vertex (m.vertexId r) (m.vertexLabel r)) ++
    g.edgesByTail.map fun e => .edge (m.vertexId e.1) (m.vertexId e.2)

/-- The DOT text of a system. -/
def dotText (m : Model) (s : Ref .system) : Except ValidationFault String := do
  let g ← m.graph s
  return String.ofList (Dot.text (m.dotStatements g))

/-! ### Progress -/

/-- What is told of each contract, up to the first without a provider. -/
def contractNotes (m : Model) : List (Ref .contract) → List String
  | [] => []
  | r :: rs =>
    let c := m.contract r
    match (m.interface c.owner).provider with
    | none => []
    | some p =>
      let tail := (m.microservice c.consumer).name
      let head := (m.microservice p).name
      s!"Drawing edge between {tail} and {head}..." :: m.contractNotes rs

/-- What is told while the graph of a system is built. -/
def graphNotes (m : Model) (s : Ref .system) : List String :=
  let y := m.system s
  [s!"Populating graph for system '{y.name}'..."] ++
    y.microservices.map (fun r =>
      let name := (m.microservice r).name
      s!"Adding microservice {name} as vertex...") ++
    ["Drawing edges..."] ++ m.contractNotes y.contracts ++
    match m.graph s with
    | .ok g => [s!"Graph built: {g.vertices.length} vertices, {g.edges.length} edges"]
    | .error _ => []

/-- What is told while the DOT text of a system is written. -/
def dotNotes (m : Model) (s : Ref .system) : List String :=
  m.graphNotes s ++
    match m.dotText s with
    | .ok t => ["DOT representation:\n" ++ t]
    | .error _ => []

end Model

end Landscape
