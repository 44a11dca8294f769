import Landscape.Session.Basic

/-!
# Fields of things

A thing shows its fields by their names (`Landscape.Session.field?`): what it keeps, what its configuration or
its settings keep for it, and what it can do. Other items have fields as well (`Landscape.Session.look`). A few
fields are worked out when they are asked for, which may change what a renderer knows
(`Landscape.Session.getField`).
-/

namespace Landscape.Session

/-! ### Reading -/

/-- The field of an interface. -/
def interfaceField? (i : Interface) : String → Option Item
  | "name" => some (.value (.text i.name))
  | "provider" => some (.ofOption .microservice i.provider)
  | "endpoint" => some (.ofValue i.endpoint)
  | "communication_type" => some (.ofValue i.communicationType)
  | "operations" => some (.ofList .operation i.operations)
  | _ => none

/-- The field of a microservice. -/
def microserviceField? (x : Microservice) : String → Option Item
  | "name" => some (.value (.text x.name))
  | "team" => some (.ofOption .team x.team)
  | "technology" => some (.ofValue x.technology)
  | "interfaces" => some (.ofList .interface x.interfaces)
  | _ => none

/-- The field of a system; a team has only a fragment. -/
def systemField? (y : System) : String → Option Item
  | "name" => some (.value (.text y.name))
  | "microservices" => some (.ofList .microservice y.microservices)
  | "contracts" => some (.ofList .contract y.contracts)
  | "team" =>
    match y.extent with
    | .whole => none
    | .fragment team => some (.ofOption .team team)
  | _ => none

/-- The field of settings. -/
def settingsField? (x : Settings) : String → Option Item
  | "plantuml_jar" => some (.path x.jar)
  | "plantuml_server_url" => some (.ofValue x.server)
  | "http_fallback" => some (.value (.bool x.fallback))
  | "timeout" => some (.ofValue x.timeout)
  | _ => none

/-- What has been found out, null if nothing. -/
def findingItem (b : Option Bool) : Item :=
  (b.map fun b => .value (.bool b)).getD .null

/-- The settings that a renderer goes by, null if it has none yet, or none with a number. -/
def chosenItem (s : Session) (r : RendererRef) : Item :=
  match s.chosen.lookup r with
  | some i => .thing (.settings i)
  | none => .null

/-- The field of a renderer. -/
def rendererField? (s : Session) (r : RendererRef) (field : String) : Option Item :=
  match s.renderer r, field with
  | .graphviz engine, "engine" => some (.ofValue engine)
  | .memory m, "write_source" => some (.value (.bool m.writesSource))
  | .memory m, "calls" => some (.list (m.calls.map Item.ofCall))
  | .plantUml _, "_settings" => some (s.chosenItem r)
  | .plantUml p, "_jar_available" => some (findingItem p.jarUsable)
  | .plantUml p, "_graphviz_available" => some (findingItem p.graphvizThere)
  | _, _ => none

/-- The field of a configuration; a type has only that of a component diagram. -/
def configField? (d : Diagram) : String → Option Item
  | "system" => some (.ofOption .system d.system)
  | "format" => some (.ofChoice d.format)
  | "type" => d.type?.map Item.ofChoice
  | _ => none

/-- The field of a draft. -/
def draftField? (d : Diagram.Draft) : String → Option Item
  | "_system" => some (.ofOption .system d.system)
  | "_format" => some (.ofChoice d.format)
  | "_renderer" => some (.ofOption .renderer d.renderer)
  | "_type" => if d.kind = .uml then some (.ofChoice d.type) else none
  | _ => none

/-- The field of a thing as the studio has it. -/
def ownField? (s : Session) (t : Thing) (field : String) : Option Item :=
  let m := s.model
  match t, field with
  | .team r, "name" => some (.ofValue (m.team r).name)
  | .parameter r, "name" => some (.value (.text (m.parameter r).name))
  | .parameter r, "type" => some (.ofValue (m.parameter r).type)
  | .operation r, "name" => some (.value (.text (m.operation r).name))
  | .operation r, "return_value" => some (.ofValue (m.operation r).returnValue)
  | .operation r, "parameters" => some (.ofList .parameter (m.operation r).parameters)
  | .interface r, field => interfaceField? (m.interface r) field
  | .microservice r, field => microserviceField? (m.microservice r) field
  | .contract r, "owner" => some (.thing (.interface (m.contract r).owner))
  | .contract r, "consumer" => some (.thing (.microservice (m.contract r).consumer))
  | .system r, field => systemField? (m.system r) field
  | .settings i, field => settingsField? (s.settings.get i) field
  | .renderer r, field => s.rendererField? r field
  | .exporter i, "_graph_renderer" => some (.thing (.renderer (s.exporters.get i).graphs))
  | .exporter i, "_uml_renderer" => some (.thing (.renderer (s.exporters.get i).components))
  | .diagram i, "config" => some (.thing (.config i))
  | .diagram i, "renderer" => some (.thing (.renderer (s.diagrams.get i).renderer))
  | .config i, field => configField? (s.diagrams.get i) field
  | .draft i, field => draftField? (s.drafts.get i) field
  | _, _ => none

/-- The thing and the field that keep what a thing shows in a field: a diagram shows what its configuration has, and
a renderer shows its settings. -/
def keeper (s : Session) (t : Thing) (field : String) : Thing × String :=
  match t, s.kindOf t, field with
  | .diagram i, _, "system" | .diagram i, _, "type" | .diagram i, _, "format" => (.config i, field)
  | t, .plantUml, "settings" => (t, "_settings")
  | t, _, field => (t, field)

/-- What a thing keeps in a field. -/
def keptField? (s : Session) (t : Thing) (field : String) : Option Item :=
  (s.held? t field).or (s.ownField? t field)

/-- All fields of a thing: those of its kind, and then those that it got besides. -/
def record (s : Session) (t : Thing) : List (String × Item) :=
  let fields := (s.kindOf t).fields.map (·.name)
  let others := (s.held.filter fun h => h.1.1 == t && !fields.contains h.1.2).map fun h => (h.1.2, h.2)
  (fields.map fun f => (f, (s.keptField? t f).getD .null)) ++ others

/-- What every thing shows, and which kinds of drafts there are for a kind of diagrams. -/
def generalField? (s : Session) (t : Thing) (field : String) : Option Item :=
  let kind := s.kindOf t
  match kind, field with
  | _, "__class__" => some (.kind kind)
  | _, "__dict__" => some (.record (s.record t))
  | _, "__module__" => some (.value (.text kind.place))
  | .simpleDiagram, "Builder" => some (.kind .simpleDraft)
  | .umlDiagram, "Builder" => some (.kind .umlDraft)
  | kind, field => (kind.ability? field).map fun a => .ability (.thing t) a.name

/-- **The field of a thing**, if it has it and need not work it out. What a thing can do shows as a field too. -/
def field? (s : Session) (t : Thing) (field : String) : Option Item :=
  let (u, f) := s.keeper t field
  (s.keptField? u f).or (s.generalField? t field)

/-- The field of a number: its parts as a complex number, and as a fraction if it is whole. -/
def numberField? (v : Value) (field : String) : Option Value :=
  match v.asInt?, v, field with
  | some n, _, "real" | some n, _, "numerator" => some (.int n)
  | some _, _, "imag" => some (.int 0)
  | some _, _, "denominator" => some (.int 1)
  | none, .float x, "real" => some (.float x)
  | none, .float _, "imag" => some (.float (.zero false))
  | _, _, _ => none

/-- The field of a path. -/
def pathField? (p : FilePath) : String → Option Item
  | "name" => some (.value (.text p.name))
  | "stem" => some (.value (.text p.stem))
  | "suffix" => some (.value (.text p.suffix))
  | "suffixes" => some (.list (p.suffixes.map fun e => .value (.text e)))
  | "parent" => some (.path p.parent)
  | "root" | "anchor" => some (.value (.text p.root.text))
  | "drive" => some (.value (.text ""))
  | "parts" =>
    let start := if p.isAbsolute then [p.root.text] else []
    some (.value (.tuple ((start ++ p.parts).map Value.text)))
  | "owner" => some (.ability (.path p) "owner")
  | _ => none

/-- The field of a choice: its name and its value. -/
def choiceField? : Choice → String → Option Item
  | .svg, "name" | .svg, "_name_" => some (.value (.text Choice.svgName))
  | .svg, "value" | .svg, "_value_" => some (.value (.text Choice.svgValue))
  | .component, "name" | .component, "_name_" => some (.value (.text Choice.componentName))
  | .component, "value" | .component, "_value_" => some (.value (.text Choice.componentValue))
  | _, _ => none

/-- The field of an item, if it has it. -/
def look? (s : Session) (x : Item) (field : String) : Option Item :=
  match x, field with
  | .thing t, field => s.field? t field
  | .call source _ _, "source" => some source
  | .call _ format _, "format" => some format
  | .call _ _ target, "output_file" => some (.path target)
  | .path p, field => pathField? p field
  | .choice c, field => choiceField? c field
  | .value v, field => (numberField? v field).map Item.value
  | _, _ => none

/-- **The field of an item**, unless it lacks it. -/
def look (s : Session) (x : Item) (field : String) : Except Fault Item :=
  match s.look? x field with
  | some y => .ok y
  | none => .error (s.lacks x field)

/-- The fault that an item cannot do something: it lacks that, or has something there that does nothing. -/
def cannot (s : Session) (x : Item) (ability : String) : Fault :=
  match s.look? x ability with
  | some y => .misuse (.notCallable (s.kindName y))
  | none => s.lacks x ability

/-- Gives the settings of a renderer a number, if it has settings. -/
def numberSettings (r : RendererRef) : Talk Unit := do
  let s ← get
  match s.held? (.renderer r) "_settings", s.chosen.lookup r, s.renderer r with
  | none, none, .plantUml { settings := some x, .. } => do
    let i ← addSettings x
    choose r i
  | _, _, _ => pure ()

/-- The settings of a renderer, which loads them if it has none. -/
def settingsOf (r : RendererRef) : Talk Item := do
  numberSettings r
  match (← get).keptField? (.renderer r) "_settings" with
  | none | some (.value .null) => do
    let i ← addSettings (← drawing (.renderer r) "settings" PlantUml.settings)
    choose r i
    return .thing (.settings i)
  | some x => return x

/-- The text of the last call among some items, null if there is none. -/
def lastSource (s : Session) : Item → Except Fault Item
  | .list xs => (xs.getLast?.map fun x => s.look x "source").getD (.ok .null)
  | .value (.mapping (_ :: _)) => .error (.misuse (.noEntry (.int (-1))))
  | .value (.text t) => if t.isEmpty then .ok .null else .error (s.lacks (.value (.text t)) "source")
  | x => if x.isTruthy then .error (.misuse (.notSubscriptable (s.kindName x))) else .ok .null

/-- The field of an item, which is worked out if need be. -/
def getField (x : Item) (field : String) : Talk Item := do
  match x with
  | .thing (.renderer r) => do
    numberSettings r
    let s ← get
    match s.kindOf (.renderer r), field with
    | .plantUml, "settings" => settingsOf r
    | .memory, "last_source" => do Step.of (s.lastSource (← Step.of (s.look x "calls")))
    | _, _ => Step.of (s.look x field)
  | x => do Step.of ((← get).look x field)

end Landscape.Session
