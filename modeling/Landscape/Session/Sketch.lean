import Landscape.Session.Same
import Landscape.Session.Text

/-!
# Sketches

A diagram may be asked for of anything, and of a system whose fields hold anything. A sketch reads what the
diagram needs off whatever is in its place, in the order in which the diagram shows it, and fails at the first
item that lacks it. So there are sketches of graphs (`Landscape.Session.sketchGraph`), of DOT texts
(`Landscape.Session.sketchDot`) and of component diagrams (`Landscape.Session.sketchItems`). Of a system in a plain
session they show what the system's own diagrams show.
-/

namespace Landscape

/-! ### Vertices -/

/-- An item with a name, which can be a vertex. -/
inductive Vertex where
  | thing (t : Thing)
  | path (p : FilePath)
  | svg
  | component
  deriving DecidableEq, Repr

namespace Vertex

/-- The vertex that an item can be. -/
def of? : Item → Option Vertex
  | .thing t => some (.thing t)
  | .path p => some (.path p)
  | .choice .svg => some .svg
  | .choice .component => some .component
  | _ => none

/-- The item that a vertex is. -/
def item : Vertex → Item
  | .thing t => .thing t
  | .path p => .path p
  | .svg => .choice .svg
  | .component => .choice .component

end Vertex

namespace Session

/-! ### Reading items -/

/-- The items that an item consists of. A text consists of its characters, and a mapping of its keys. -/
def elements (s : Session) : Item → Except Fault (List Item)
  | .list xs => .ok xs
  | .value (.text t) => .ok (t.toList.map fun c => .value (.text (String.singleton c)))
  | .value (.mapping es) => .ok (es.map fun e => .ofValue e.1)
  | .value (.tuple xs) | .value (.set xs) => .ok (xs.map Item.ofValue)
  | .value (.bytes bs) => .ok (bs.map fun b => .value (.int b.toNat))
  | x => .error (.misuse (.notIterable (s.kindName x)))

/-- Whether an item is in another. -/
def contains (s : Session) (container x : Item) : Except Fault Bool :=
  match container with
  | .value (.text t) =>
    match x.text? with
    | some u => .ok (occursIn u.toList t.toList)
    | none => .error (.misuse (.notText (s.kindName x)))
  | .value (.mapping es) => do
    let _ ← s.fingerprint x
    return es.any fun e => s.same (.ofValue e.1) x
  | .list xs => .ok (xs.any (s.same x))
  | c => .error (.misuse (.notSearchable (s.kindName c)))

/-- The items of a field. -/
def parts (s : Session) (x : Item) (field : String) : Except Fault (List Item) := do
  s.elements (← s.look x field)

/-- The name of an item, which has to be a text. -/
def nameOf (s : Session) (x : Item) : Except Fault String := do
  let n ← s.look x "name"
  match n.text? with
  | some t => return t
  | none => throw (s.cannot n "strip")

/-- The alias of an item's name. -/
def aliasIn (s : Session) (x : Item) : Except Fault String := do
  return aliasOf (← s.nameOf x)

/-- The display of an item that counts as something. -/
def display? (s : Session) (x : Item) : Except Fault (Option String) :=
  if x.isTruthy then (s.display x).map some else .ok none

/-! ### Graphs -/

/-- The vertex that a named item is. -/
def vertex (s : Session) (x : Item) : Except Fault Vertex :=
  match Vertex.of? x with
  | some v => .ok v
  | none => .error (s.lacks x "name")

/-- The graph with a vertex for each item. -/
def sketchVertices (s : Session) (g : Graph Vertex) : List Item → Except Fault (Graph Vertex)
  | [] => .ok g
  | x :: xs => do
    let _ ← s.look x "name"
    s.sketchVertices (g.addVertex (← s.vertex x)) xs

/-- The graph with an edge for each contract. -/
def sketchEdges (s : Session) (g : Graph Vertex) : List Item → Except Fault (Graph Vertex)
  | [] => .ok g
  | c :: cs => do
    let owner ← s.look c "owner"
    let provider ← s.look owner "provider"
    if provider.isNull then
      throw (.validation (.noProvider (← s.display (← s.look owner "name"))))
    let consumer ← s.look c "consumer"
    let _ ← s.look consumer "name"
    let _ ← s.look provider "name"
    s.sketchEdges (g.addEdge (← s.vertex consumer) (← s.vertex provider)) cs

/-- **The graph of an item.** -/
def sketchGraph (s : Session) (system : Item) : Except Fault (Graph Vertex) := do
  let _ ← s.look system "name"
  let g ← s.sketchVertices {} (← s.parts system "microservices")
  s.sketchEdges g (← s.parts system "contracts")

/-- The identifier of a vertex in DOT. -/
def sketchId (s : Session) (v : Vertex) : Except Fault (List Char) := do
  return Dot.escapeBackslashes (← s.aliasIn v.item).toList

/-- The statement for a vertex. -/
def sketchVertex (s : Session) (v : Vertex) : Except Fault Dot.Statement := do
  return .vertex (← s.sketchId v) (Dot.escapeBackslashes (← s.nameOf v.item).toList)

/-- The statement for an edge. -/
def sketchEdge (s : Session) (e : Vertex × Vertex) : Except Fault Dot.Statement := do
  return .edge (← s.sketchId e.1) (← s.sketchId e.2)

/-- **The DOT text of an item.** -/
def sketchDot (s : Session) (system : Item) : Except Fault String := do
  let g ← s.sketchGraph system
  let vertices ← g.vertices.mapM s.sketchVertex
  let edges ← g.edgesByTail.mapM s.sketchEdge
  return String.ofList (Dot.text (vertices ++ edges))

/-! ### Component diagrams -/

/-- A parameter in a signature. -/
def sketchParameter (s : Session) (x : Item) : Except Fault String := do
  let type ← s.look x "type"
  let name ← s.display (← s.look x "name")
  match ← s.display? type with
  | some t => return name ++ " : " ++ t
  | none => return name ++ " "

/-- The signature of an operation. -/
def sketchSignature (s : Session) (x : Item) : Except Fault String := do
  let parameters ← (← s.parts x "parameters").mapM s.sketchParameter
  let returned ← s.look x "return_value"
  let result ← if returned.isNull then pure "void" else s.display returned
  let name ← s.display (← s.look x "name")
  return result ++ " " ++ name ++ "(" ++ ", ".intercalate parameters ++ ")"

/-- The item that declares an interface. -/
def sketchInterface (s : Session) (x : Item) : Except Fault PlantUml.Item := do
  let id ← s.aliasIn x
  let endpoint ← s.display? (← s.look x "endpoint")
  let communicationType ← s.display? (← s.look x "communication_type")
  let signatures ← (← s.parts x "operations").mapM s.sketchSignature
  return .interface id endpoint communicationType signatures

/-- The items of a microservice. -/
def sketchMicroservice (s : Session) (x : Item) : Except Fault (List PlantUml.Item) := do
  let id ← s.aliasIn x
  let interfaces ← s.parts x "interfaces"
  let declared ← interfaces.mapM s.sketchInterface
  let arrows ← interfaces.mapM fun i => do return PlantUml.Item.realization id (← s.aliasIn i)
  return [.component (← s.nameOf x) id] ++ declared ++ arrows

/-- Whether the owner of a contract is among the interfaces of some microservices. -/
def sketchOwned (s : Session) (contract : Item) : List Item → Except Fault Bool
  | [] => .ok false
  | x :: xs => do
    let owner ← s.look contract "owner"
    if ← s.contains (← s.look x "interfaces") owner then return true
    else s.sketchOwned contract xs

/-- The item of a contract, both of whose ends have to be declared. -/
def sketchContract (s : Session) (system contract : Item) : Except Fault PlantUml.Item := do
  let owned ← s.sketchOwned contract (← s.parts system "microservices")
  let consumer ← s.look contract "consumer"
  let consumed ← s.contains (← s.look system "microservices") consumer
  if !(owned && consumed) then throw (.validation .undefinedContract)
  return .usage (← s.aliasIn consumer) (← s.aliasIn (← s.look contract "owner"))

/-- **The items of an item's component diagram.** -/
def sketchItems (s : Session) (system : Item) : Except Fault (List PlantUml.Item) := do
  let declared ← (← s.parts system "microservices").mapM s.sketchMicroservice
  let used ← (← s.parts system "contracts").mapM (s.sketchContract system)
  return [.start, .allowMixing] ++ declared.flatten ++ used ++ [.finish]

/-- The text of an item in diagrams of a kind. -/
def sketch (s : Session) (system : Item) : DiagramKind → Except Fault String
  | .simple => s.sketchDot system
  | .uml => (s.sketchItems system).map PlantUml.text

/-! ### Searching -/

/-- The first microservice that has a name. -/
def sketchFind (s : Session) (name : Item) : List Item → Except Fault Item
  | [] => .ok .null
  | x :: xs => do
    if s.same (← s.look x "name") name then return x else s.sketchFind name xs

/-- The interfaces that the microservices of an item list. -/
def sketchProvided (s : Session) (system : Item) : Except Fault (List Item) := do
  return (← (← s.parts system "microservices").mapM fun x => s.parts x "interfaces").flatten

end Session

end Landscape
