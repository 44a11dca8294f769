import Landscape.Catalog
import Landscape.Export
import Landscape.Misuse

/-!
# Kinds of things

Every thing is of a kind (`Landscape.ThingKind`), which says what it is made from, which fields it has, what it
works out itself, and what it can do (`Landscape.Ability`). A field is meant for items of one sort
(`Landscape.Slot`). The names of fields and abilities that are no concern of others begin with a low line.
-/

namespace Landscape

/-! ### Fields -/

/-- What a field is meant to hold. -/
inductive Slot where
  | text | value | path | choice
  /-- A truth value. -/
  | flag
  /-- A truth value, or null while it is not known. -/
  | finding
  /-- A thing of a model. -/
  | one (noun : Noun)
  /-- A thing of a model, or null. -/
  | maybe (noun : Noun)
  /-- A list of things of a model. -/
  | many (noun : Noun)
  /-- What was to be drawn. -/
  | calls
  /-- Settings, or null. -/
  | settings
  /-- The configuration of a diagram. -/
  | config
  | renderer
  /-- A renderer, or null. -/
  | maybeRenderer
  deriving DecidableEq, Repr

/-- A field of things of a kind. -/
structure Field where
  name : String
  slot : Slot
  /-- Whether a thing cannot be made without it. -/
  isRequired : Bool := false
  /-- Whether descriptions show it. -/
  isDescribed : Bool := true

/-- The field for the name of a thing. -/
def Field.forName : Field :=
  { name := "name", slot := .text, isRequired := true }

/-! ### Abilities -/

/-- Something that a thing can do, and what has to be given to it for that. -/
structure Ability where
  name : String
  needs : List String := []

/-! ### Kinds -/

/-- The kinds of things. -/
inductive ThingKind where
  | team | parameter | operation | interface | microservice | contract | system | fragment
  | settings | memory | graphviz | plantUml | exporter
  | simpleDiagram | umlDiagram | simpleConfig | umlConfig | simpleDraft | umlDraft
  deriving DecidableEq, Repr, Inhabited

namespace ThingKind

/-! ### Names -/

/-- The name of a kind. -/
def name : ThingKind → String
  | .team => "Team"
  | .parameter => "Parameter"
  | .operation => "Operation"
  | .interface => "Interface"
  | .microservice => "Microservice"
  | .contract => "Contract"
  | .system => "System"
  | .fragment => "SystemFragment"
  | .settings => "RendererSettings"
  | .memory => "MemoryRenderer"
  | .graphviz => "GraphvizRenderer"
  | .plantUml => "PlantUmlRenderer"
  | .exporter => "DiagramService"
  | .simpleDiagram => "SimpleDiagram"
  | .umlDiagram => "UmlDiagram"
  | .simpleConfig => "SimpleDiagramConfig"
  | .umlConfig => "UmlDiagramConfig"
  | .simpleDraft | .umlDraft => "Builder"

/-- The name of a kind together with that of the kind to which it belongs, if there is one. -/
def qualifiedName : ThingKind → String
  | .simpleDraft => simpleDiagram.name ++ "." ++ simpleDraft.name
  | .umlDraft => umlDiagram.name ++ "." ++ umlDraft.name
  | k => k.name

/-- The place where a kind is defined. -/
def place : ThingKind → String
  | .team | .parameter | .operation | .interface | .microservice | .contract | .system | .fragment =>
    Catalog.modelPlace
  | .settings => Catalog.settingsPlace
  | .memory | .graphviz | .plantUml => Catalog.diagramPlace "renderer"
  | .exporter => Catalog.diagramPlace "service"
  | .simpleDiagram | .simpleDraft => Catalog.diagramPlace "simple"
  | .umlDiagram | .umlDraft => Catalog.diagramPlace "uml"
  | .simpleConfig | .umlConfig => Catalog.diagramPlace "config"

/-- The kinds of things that are made by the names of their kinds. -/
def made : List ThingKind :=
  [.team, .parameter, .operation, .interface, .microservice, .contract, .system, .fragment, .settings,
    .memory, .graphviz, .plantUml, .exporter]

/-- The kind that a name stands for. -/
def ofName? (name : String) : Option ThingKind :=
  made.find? fun k => k.name == name

/-! ### Kinds around diagrams -/

/-- The kind of diagrams of a kind. -/
def ofDiagram : DiagramKind → ThingKind
  | .simple => .simpleDiagram
  | .uml => .umlDiagram

/-- The kind of the configurations of diagrams of a kind. -/
def ofConfig : DiagramKind → ThingKind
  | .simple => .simpleConfig
  | .uml => .umlConfig

/-- The kind of drafts for diagrams of a kind. -/
def ofDraft : DiagramKind → ThingKind
  | .simple => .simpleDraft
  | .uml => .umlDraft

/-! ### What kinds have -/

/-- The fields of things of a kind, in order. -/
def fields : ThingKind → List Field
  | .team => [{ name := "name", slot := .value, isRequired := true }]
  | .parameter => [.forName, { name := "type", slot := .value }]
  | .operation =>
    [.forName, { name := "return_value", slot := .value },
      { name := "parameters", slot := .many .parameter }]
  | .interface =>
    [.forName, { name := "provider", slot := .maybe .microservice, isDescribed := false },
      { name := "endpoint", slot := .value }, { name := "communication_type", slot := .value },
      { name := "operations", slot := .many .operation }]
  | .microservice =>
    [.forName, { name := "team", slot := .maybe .team }, { name := "technology", slot := .value },
      { name := "interfaces", slot := .many .interface }]
  | .contract =>
    [{ name := "owner", slot := .one .interface, isRequired := true },
      { name := "consumer", slot := .one .microservice, isRequired := true }]
  | .system => systemFields
  | .fragment => systemFields ++ [{ name := "team", slot := .maybe .team }]
  | .settings =>
    [{ name := "plantuml_jar", slot := .path }, { name := "plantuml_server_url", slot := .value },
      { name := "http_fallback", slot := .flag }, { name := "timeout", slot := .value }]
  | .memory => [{ name := "write_source", slot := .flag }, { name := "calls", slot := .calls }]
  | .graphviz => [{ name := "engine", slot := .value }]
  | .plantUml =>
    [{ name := "_settings", slot := .settings }, { name := "_jar_available", slot := .finding },
      { name := "_graphviz_available", slot := .finding }]
  | .exporter =>
    [{ name := "_graph_renderer", slot := .renderer }, { name := "_uml_renderer", slot := .renderer }]
  | .simpleDiagram | .umlDiagram =>
    [{ name := "config", slot := .config }, { name := "renderer", slot := .renderer }]
  | .simpleConfig => [{ name := "system", slot := .maybe .system }, { name := "format", slot := .choice }]
  | .umlConfig =>
    [{ name := "system", slot := .maybe .system }, { name := "type", slot := .choice },
      { name := "format", slot := .choice }]
  | .simpleDraft =>
    [{ name := "_system", slot := .maybe .system }, { name := "_format", slot := .choice },
      { name := "_renderer", slot := .maybeRenderer }]
  | .umlDraft =>
    [{ name := "_system", slot := .maybe .system }, { name := "_type", slot := .choice },
      { name := "_format", slot := .choice }, { name := "_renderer", slot := .maybeRenderer }]
where
  systemFields : List Field :=
    [.forName, { name := "microservices", slot := .many .microservice },
      { name := "contracts", slot := .many .contract }]

/-- What the field of a name is meant to hold. -/
def slot? (k : ThingKind) (field : String) : Option Slot :=
  (k.fields.find? fun f => f.name == field).map (·.slot)

/-- Whether things of a kind are described by their fields; others have only the name of their kind. -/
def isDescribed : ThingKind → Bool
  | .memory | .graphviz | .plantUml | .exporter | .simpleDraft | .umlDraft => false
  | _ => true

/-- Whether things of a kind stay as they were made. -/
def isFrozen : ThingKind → Bool
  | .settings | .simpleDiagram | .umlDiagram | .simpleConfig | .umlConfig => true
  | _ => false

/-- The fields that things of a kind show but work out themselves. -/
def workedOut : ThingKind → List String
  | .memory => ["last_source"]
  | .plantUml => ["settings"]
  | _ => []

/-! ### What kinds do -/

/-- What drawing a text needs. -/
def drawing : Ability :=
  ⟨"render", ["source", "fmt", "output_file"]⟩

/-- What things of a kind can do. -/
def abilities : ThingKind → List Ability
  | .microservice => [⟨"provide", ["interface"]⟩]
  | .system | .fragment => [⟨"find_microservice", ["name"]⟩, ⟨"provided_interfaces", []⟩]
  | .memory | .graphviz => [drawing]
  | .plantUml =>
    [drawing, ⟨"render_svg", ["puml"]⟩, ⟨"_check_jar_available", []⟩, ⟨"_has_graphviz", []⟩,
      ⟨"_ensure_smetana", ["puml"]⟩, ⟨"_render_via_jar", ["puml"]⟩, ⟨"_render_via_http", ["puml"]⟩]
  | .exporter =>
    [⟨"export", ["system", "output_dir"]⟩,
      ⟨"_export_one", ["kind", "system", "output_dir", "write_source"]⟩,
      ⟨"_simple_diagram", ["system"]⟩, ⟨"_uml_diagram", ["system"]⟩]
  | .simpleDiagram => [⟨"build_graph", []⟩, ⟨"to_dot", []⟩, ⟨"visualize", ["output_file"]⟩]
  | .umlDiagram => [⟨"to_plantuml", []⟩, ⟨"visualize", ["output_file"]⟩]
  | .simpleConfig | .umlConfig => [⟨"check", []⟩]
  | .simpleDraft => draftAbilities
  | .umlDraft => ⟨"type", ["diagram_type"]⟩ :: draftAbilities
  | _ => []
where
  draftAbilities : List Ability :=
    [⟨"system", ["system"]⟩, ⟨"output_format", ["fmt"]⟩, ⟨"renderer", ["renderer"]⟩, ⟨"build", []⟩]

/-- What things of a kind can do by a name. -/
def ability? (k : ThingKind) (name : String) : Option Ability :=
  k.abilities.find? fun a => a.name == name

/-- The kind from which things of a kind have what they can do. -/
def abilityKind : ThingKind → ThingKind
  | .fragment => .system
  | k => k

/-- What messages call an ability of things of a kind. -/
def abilityName (k : ThingKind) (ability : String) : String :=
  k.abilityKind.qualifiedName ++ "." ++ ability

/-- What messages call the making of things of a kind. -/
def makerName (k : ThingKind) : String :=
  k.qualifiedName ++ ".__init__"

/-- What messages call the thing itself among what it is made from. -/
def selfName : String :=
  "self"

/-- What things of a kind are made from, and whether it is required. -/
def parameters : ThingKind → List (String × Bool)
  | .memory => [("write_source", false)]
  | .plantUml => [("settings", false)]
  | .exporter => [("settings", false), ("graph_renderer", false), ("uml_renderer", false)]
  | k => k.fields.map fun f => (f.name, f.isRequired)

/-- Why a thing of a kind cannot be made from what is given, if it cannot. -/
def misuse? (k : ThingKind) (given : List String) : Option Misuse :=
  match given.find? fun f => (k.parameters.lookup f).isNone with
  | some f => some (if f == selfName then .repeated k.makerName f else .unexpected k.makerName f)
  | none =>
    match (k.parameters.filter fun p => p.2 && !given.contains p.1).map (·.1) with
    | [] => none
    | names => some (.missing k.makerName names)

/-- Why an ability cannot be used with one item, if it cannot. -/
def misuseOfAbility? (k : ThingKind) (a : Ability) : Option Misuse :=
  match a.needs with
  | [] => some (.tooMany (k.abilityName a.name))
  | [_] => none
  | _ :: names => some (.missing (k.abilityName a.name) names)

end ThingKind

end Landscape
