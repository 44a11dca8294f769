import Landscape.Alias
import Landscape.Diagram.Fault
import Landscape.Model.Basic
import Landscape.PlantUml.Text

/-!
# Component diagrams

A component diagram shows each microservice of a system as a component with the interfaces it
lists, and each contract as an arrow from the consumer to the owner (`Landscape.Model.umlItems`). Both
ends of a contract have to be declared: the owner in the list of some microservice of the system, the
consumer among its microservices. It is the things themselves that count there, not their names.
-/

namespace Landscape

/-- What a component diagram needs to know. -/
structure UmlConfig where
  system : Option (Ref .system) := none
  type : Choice := .other .null
  format : Choice := .other .null
  deriving Repr, Inhabited

/-- The system to show, unless something is missing for a component diagram. -/
def UmlConfig.ready (c : UmlConfig) : Except ConfigurationFault (Ref .system) :=
  if c.type.isNone || c.format.isNone then .error .noTypeOrFormat
  else
    match c.type, c.format, c.system with
    | .component, .svg, some s => .ok s
    | .component, .svg, none => .error .noSystemOfUml
    | .component, _, _ => .error .formatOfUml
    | t, _, _ => .error (.unknownType t.literal)

namespace Model

/-! ### Signatures -/

/-- A parameter in a signature. Without a type, the blank after the name stays. -/
def parameterText (m : Model) (r : Ref .parameter) : String :=
  let p := m.parameter r
  if p.type.isTruthy then p.name ++ " : " ++ p.type.display else p.name ++ " "

/-- The signature of an operation. One that returns nothing is void. -/
def signature (m : Model) (r : Ref .operation) : String :=
  let o := m.operation r
  let result := match o.returnValue with
    | .null => "void"
    | v => v.display
  result ++ " " ++ o.name ++ "(" ++ ", ".intercalate (o.parameters.map m.parameterText) ++ ")"

/-! ### Items -/

/-- The display of a value that counts as something. -/
def display? (v : Value) : Option String :=
  if v.isTruthy then some v.display else none

/-- The item that declares an interface. -/
def interfaceItem (m : Model) (r : Ref .interface) : PlantUml.Item :=
  let i := m.interface r
  .interface (aliasOf i.name) (display? i.endpoint) (display? i.communicationType)
    (i.operations.map m.signature)

/-- The items of a microservice: the component, its interfaces, and an arrow to each of them. -/
def microserviceItems (m : Model) (r : Ref .microservice) : List PlantUml.Item :=
  let s := m.microservice r
  [.component s.name (aliasOf s.name)] ++ s.interfaces.map m.interfaceItem ++
    s.interfaces.map fun i => .realization (aliasOf s.name) (aliasOf (m.interface i).name)

/-- The item of a contract: an arrow from the consumer to the owner. -/
def contractItem (m : Model) (r : Ref .contract) : PlantUml.Item :=
  let c := m.contract r
  .usage (aliasOf (m.microservice c.consumer).name) (aliasOf (m.interface c.owner).name)

/-- Whether both ends of a contract are declared in a system. -/
def isDefined (m : Model) (s : Ref .system) (r : Ref .contract) : Bool :=
  let c := m.contract r
  let services := (m.system s).microservices
  services.any (fun x => (m.microservice x).interfaces.contains c.owner) && services.contains c.consumer

/-- **The items of a system's component diagram**, or the fault that a contract is not defined. -/
def umlItems (m : Model) (s : Ref .system) : Except ValidationFault (List PlantUml.Item) :=
  let y := m.system s
  if y.contracts.all (m.isDefined s) then
    .ok ([.start, .allowMixing] ++ y.microservices.flatMap m.microserviceItems ++
      y.contracts.map m.contractItem ++ [.finish])
  else .error .undefinedContract

/-- The PlantUML text of a system. -/
def umlText (m : Model) (s : Ref .system) : Except ValidationFault String := do
  return PlantUml.text (← m.umlItems s)

/-- The values that the text of a system shows. -/
def shownValues (m : Model) (s : Ref .system) : List Value :=
  (m.system s).microservices.flatMap fun x => (m.microservice x).interfaces.flatMap fun r =>
    let i := m.interface r
    [i.endpoint, i.communicationType] ++ i.operations.flatMap fun o =>
      (m.operation o).returnValue :: (m.operation o).parameters.map fun p => (m.parameter p).type

/-- Whether a system has a text: not if a value in it cannot be written. -/
def isWritable (m : Model) (s : Ref .system) : Bool :=
  !Value.anyLongNumber (m.shownValues s)

/-- What is told while the PlantUML text of a system is written. -/
def umlNotes (m : Model) (s : Ref .system) : List String :=
  ["Starting to assemble PlantUML string...", "Populating with microservices..."] ++
    if m.isWritable s then
      ["Populating with contracts..."] ++
        match m.umlText s with
        | .ok t => ["PlantUML source:\n" ++ t]
        | .error _ => []
    else []

end Model

end Landscape
