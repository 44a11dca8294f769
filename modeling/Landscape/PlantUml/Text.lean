/-!
# PlantUML texts

A component diagram in PlantUML is a list of items (`Landscape.PlantUml.Item`): components, the
interfaces they provide, arrows for what is realized and for what is used, and a frame around all.
Each item has its lines, and the text is all lines with a line break after each
(`Landscape.PlantUml.text`).
-/

namespace Landscape.PlantUml

/-- An item of a component diagram. Everything but the name of a component is ready for the text. -/
inductive Item where
  | start
  | allowMixing
  /-- A component with its name as written and the identifier for it. -/
  | component (name id : String)
  /-- An interface with what is known of its endpoint and communication type, and the signatures of its
  operations. -/
  | interface (id : String) (endpoint communicationType : Option String) (signatures : List String)
  /-- The component realizes the interface. -/
  | realization (component interface : String)
  /-- The component uses the interface. -/
  | usage (component interface : String)
  | finish
  deriving Repr, DecidableEq

/-- The lines of an item. The signatures of an interface share one line, which is there also without any
signature; line breaks inside it set them apart. -/
def Item.lines : Item → List String
  | .start => ["@startuml"]
  | .allowMixing => ["allow_mixing"]
  | .component name id => ["component [" ++ name ++ "] << Microservice >> as " ++ id]
  | .interface id endpoint communicationType signatures =>
    ["interface " ++ id ++ " \x7b"] ++
      (endpoint.map ("endpoint = " ++ ·)).toList ++
      (communicationType.map ("communicationType = " ++ ·)).toList ++
      ["\n".intercalate signatures, "\x7d"]
  | .realization c i => [c ++ " ..|>  " ++ i]
  | .usage c i => [c ++ " ..> " ++ i ++ " : uses >"]
  | .finish => ["@enduml"]

/-- The text of a list of items. -/
def text (items : List Item) : String :=
  String.join ((items.flatMap Item.lines).map (· ++ "\n"))

end Landscape.PlantUml
