import Landscape.Session.Field

/-!
# Changing things

Most fields of things can be changed (`Landscape.Session.setField`); settings and diagrams stay as they were made. A
field that is a list can be changed item by item, at a position from either end
(`Landscape.Session.insertItem`, `Landscape.Session.takeItem`), whatever it is a field of, and all fields that
hold this list show the change.
-/

namespace Landscape.Session

/-! ### Fields that change -/

/-- A parameter with a field changed. -/
def withParameterField (field : String) (x : Item) (p : Parameter) : Parameter :=
  match field with
  | "name" => { p with name := x.asText }
  | "type" => { p with type := x.asValue }
  | _ => p

/-- An operation with a field changed. -/
def withOperationField (field : String) (x : Item) (o : Operation) : Operation :=
  match field with
  | "name" => { o with name := x.asText }
  | "return_value" => { o with returnValue := x.asValue }
  | "parameters" => { o with parameters := x.things.filterMap Thing.parameter? }
  | _ => o

/-- An interface with a field changed. -/
def withInterfaceField (field : String) (x : Item) (i : Interface) : Interface :=
  match field with
  | "name" => { i with name := x.asText }
  | "provider" => { i with provider := x.thing?.bind Thing.microservice? }
  | "endpoint" => { i with endpoint := x.asValue }
  | "communication_type" => { i with communicationType := x.asValue }
  | "operations" => { i with operations := x.things.filterMap Thing.operation? }
  | _ => i

/-- A microservice with a field changed. -/
def withMicroserviceField (field : String) (x : Item) (y : Microservice) : Microservice :=
  match field with
  | "name" => { y with name := x.asText }
  | "team" => { y with team := x.thing?.bind Thing.team? }
  | "technology" => { y with technology := x.asValue }
  | "interfaces" => { y with interfaces := x.things.filterMap Thing.interface? }
  | _ => y

/-- A contract with a field changed. -/
def withContractField (field : String) (x : Item) (c : Contract) : Contract :=
  match field with
  | "owner" => { c with owner := (x.thing?.bind Thing.interface?).getD c.owner }
  | "consumer" => { c with consumer := (x.thing?.bind Thing.microservice?).getD c.consumer }
  | _ => c

/-- A system with a field changed. -/
def withSystemField (field : String) (x : Item) (y : System) : System :=
  match field with
  | "name" => { y with name := x.asText }
  | "microservices" => { y with microservices := x.things.filterMap Thing.microservice? }
  | "contracts" => { y with contracts := x.things.filterMap Thing.contract? }
  | "team" => { y with extent := .fragment (x.thing?.bind Thing.team?) }
  | _ => y

/-- Settings with a field changed. -/
def withSettingsField (field : String) (x : Item) (y : Settings) : Settings :=
  match field with
  | "plantuml_jar" => { y with jar := x.path?.getD y.jar }
  | "plantuml_server_url" => { y with server := x.asValue }
  | "http_fallback" => { y with fallback := x.isTruthy }
  | "timeout" => { y with timeout := x.asValue }
  | _ => y

/-- The truth value that an item is. -/
def findingOf : Item → Option Bool
  | .value .null => none
  | x => some x.isTruthy

/-- The settings that an item is. -/
def settingsIndex? : Item → Option Nat
  | .thing (.settings i) => some i
  | _ => none

/-- A renderer with a field changed. -/
def withRendererField (s : Session) (field : String) (x : Item) (r : Renderer) : Renderer :=
  match r, field with
  | .graphviz _, "engine" => .graphviz x.asValue
  | .memory m, "write_source" => .memory { m with writesSource := x.isTruthy }
  | .memory m, "calls" =>
    match x with
    | .list xs => .memory { m with calls := xs.filterMap Item.call? }
    | _ => .memory m
  | .plantUml p, "_settings" => .plantUml { p with settings := (settingsIndex? x).map s.settings.get }
  | .plantUml p, "_jar_available" => .plantUml { p with jarUsable := findingOf x }
  | .plantUml p, "_graphviz_available" => .plantUml { p with graphvizThere := findingOf x }
  | r, _ => r

/-- An exporter with a field changed. -/
def withExporterField (field : String) (x : Item) (e : Exporter) : Exporter :=
  match field, x.thing?.bind Thing.renderer? with
  | "_graph_renderer", some r => { e with graphs := r }
  | "_uml_renderer", some r => { e with components := r }
  | _, _ => e

/-- The system that an item is. What is neither a system nor null stands for a system all the same. -/
def systemOf (x : Item) : Option (Ref .system) :=
  if x.isNull then none else some ((x.thing?.bind Thing.system?).getD default)

/-- A diagram with a field of its configuration changed. -/
def withConfigField (field : String) (x : Item) (d : Diagram) : Diagram :=
  match field with
  | "system" => d.withSystem (systemOf x)
  | "type" => d.withType x.asChoice
  | "format" => d.withFormat x.asChoice
  | _ => d

/-- A diagram with a field changed. -/
def withDiagramField (field : String) (x : Item) (d : Diagram) : Diagram :=
  match field, x.thing?.bind Thing.renderer? with
  | "renderer", some r => d.withRenderer r
  | _, _ => d

/-- A draft with a field changed. -/
def withDraftField (field : String) (x : Item) (d : Diagram.Draft) : Diagram.Draft :=
  match field with
  | "_system" => { d with system := systemOf x }
  | "_type" => { d with type := x.asChoice }
  | "_format" => { d with format := x.asChoice }
  | "_renderer" => { d with renderer := x.thing?.bind Thing.renderer? }
  | _ => d

/-- Changes a field in the studio, to the nearest thing to an item that it can hold. -/
def putOwn (t : Thing) (field : String) (x : Item) : Talk Unit := do
  match t with
  | .team r => changeModel fun m => m.modifyTeam r fun _ => ⟨x.asValue⟩
  | .parameter r => changeModel fun m => m.modifyParameter r (withParameterField field x)
  | .operation r => changeModel fun m => m.modifyOperation r (withOperationField field x)
  | .interface r => changeModel fun m => m.modifyInterface r (withInterfaceField field x)
  | .microservice r => changeModel fun m => m.modifyMicroservice r (withMicroserviceField field x)
  | .contract r => changeModel fun m => m.modifyContract r (withContractField field x)
  | .system r => changeModel fun m => m.modifySystem r (withSystemField field x)
  | .settings i => modify fun s => { s with settings := s.settings.modify i (withSettingsField field x) }
  | .renderer r => do
    let s ← get
    changeRenderer r (s.withRendererField field x (s.renderer r))
    if field == "_settings" then choose r (settingsIndex? x)
  | .exporter i => modify fun s => { s with exporters := s.exporters.modify i (withExporterField field x) }
  | .diagram i => modify fun s => { s with diagrams := s.diagrams.modify i (withDiagramField field x) }
  | .config i => modify fun s => { s with diagrams := s.diagrams.modify i (withConfigField field x) }
  | .draft i => modify fun s => { s with drafts := s.drafts.modify i (withDraftField field x) }

/-- Puts an item into a field, in the studio or beside it. -/
def store (t : Thing) (field : String) (x : Item) : Talk Unit := do
  match ((← get).kindOf t).slot? field with
  | some slot => do
    putOwn t field x
    if slot.takes x then release t field else hold t field x
  | none => hold t field x

/-- **Puts an item into a field**, whether the field is meant for it or not. -/
def putField (t : Thing) (field : String) (x : Item) : Talk Unit := do
  unshare (t, field)
  store t field x

/-- **Changes a field of a thing**, unless the thing stays as it was made or works the field out itself. -/
def setField (t : Thing) (field : String) (x : Item) : Talk Unit := do
  let kind := (← get).kindOf t
  if kind.isFrozen then throw (.misuse (.frozen field))
  else if kind.workedOut.contains field then throw (.misuse (.noSetter kind.name field))
  else putField t field x

/-! ### Collections -/

/-- Stores a collection that has changed, in all fields that hold it. -/
def storeChanged (t : Thing) (field : String) (x : Item) : Talk Unit := do
  let s ← get
  (s.sharersOf (s.keeper t field)).forM fun place => store place.1 place.2 x

/-- Puts a collection back after a change to it. That of the last call is part of the calls. -/
def putBack (t : Thing) (field : String) (x : Item) : Talk Unit := do
  let s ← get
  match s.kindOf t, field, s.field? t "calls" with
  | .memory, "last_source", some (.list calls) =>
    match calls.getLast? with
    | some (.call _ format target) => storeChanged t "calls" (.list (calls.dropLast ++ [.call x format target]))
    | some (.thing u) => storeChanged u "source" x
    | _ => pure ()
  | _, _, _ => storeChanged t field x

/-- A field that is a list; `what` is what other items cannot do for want of being one. -/
def listField (t : Thing) (field what : String) : Talk (List Item) := do
  match ← getField (.thing t) field with
  | .list xs => return xs
  | x => throw ((← get).cannot x what)

/-- The position before which something is put into a list of a size. A negative one counts from the end, and
none lies outside the list. -/
def insertionPlace (size : Nat) (position : Int) : Nat :=
  if position < 0 then (position + size).toNat else min position.toNat size

/-- The positions that a list can have lie below this. -/
def endOfPositions : Nat :=
  Nat.pow 2 63

/-- The position that an item is. -/
def positionOf (s : Session) (x : Item) : Except Fault Int :=
  match x.asValue.asInt? with
  | none => .error (.misuse (.notPosition (s.kindName x)))
  | some n => if -endOfPositions ≤ n ∧ n < endOfPositions then .ok n else .error (.misuse .hugePosition)

/-- Puts an item into a list, before a position. -/
def insertItem (t : Thing) (field : String) (place x : Item) : Talk Unit := do
  let xs ← listField t field "insert"
  let position ← Step.of ((← get).positionOf place)
  putBack t field (.list (xs.insertIdx (insertionPlace xs.length position) x))

/-- Puts an item at the end of a list. -/
def appendItem (t : Thing) (field : String) (x : Item) : Talk Unit := do
  putBack t field (.list ((← listField t field "append") ++ [x]))

/-- Takes the entry of a key out of the entries of a mapping. In a mapping without entries no key is looked up. -/
def takeEntry (es : List (Value × Value)) (key : Value) :
    Except Fault (Item × List (Value × Value)) :=
  match es, key.unhashable? with
  | [], _ => .error (.misuse (.noEntry key))
  | _, some kind => .error (.misuse (.notKey kind.name))
  | es, none =>
    match es.find? fun e => e.1.same key with
    | none => .error (.misuse (.noEntry key))
    | some e => .ok (.ofValue e.2, es.filter fun e => !e.1.same key)

/-- Takes an item out of a list, or out of a mapping. A negative position in a list counts from the end. -/
def takeItem (t : Thing) (field : String) (place : Item) : Talk Item := do
  match ← getField (.thing t) field with
  | .list xs => do
    let position ← Step.of ((← get).positionOf place)
    let i := if position < 0 then position + xs.length else position
    if xs.isEmpty then throw (.misuse .emptyList)
    else if i < 0 || (xs.length : Int) ≤ i then throw (.misuse .noPosition)
    else
      putBack t field (.list (xs.eraseIdx i.toNat))
      return xs.getD i.toNat default
  | .value (.mapping es) => do
    let (x, es) ← Step.of (takeEntry es place.asValue)
    putBack t field (.value (.mapping es))
    return x
  | x => throw ((← get).cannot x "pop")

end Landscape.Session
