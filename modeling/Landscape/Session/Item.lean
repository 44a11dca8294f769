import Landscape.Session.Kind

/-!
# Things and items

Things are those of a model, settings, renderers, exporters, and diagrams with their configurations and drafts
(`Landscape.Thing`). What a step is given and what a field holds is an item (`Landscape.Item`), which may be a
thing, a value, or a list of items. A list is always an item of its own, also if it holds only values, so
that there is one form for it (`Landscape.Item.ofValue`). Every field is meant for some items
(`Landscape.Slot.takes`).
-/

namespace Landscape

/-! ### Things -/

/-- A thing of a session. -/
inductive Thing where
  | team (r : Ref .team)
  | parameter (r : Ref .parameter)
  | operation (r : Ref .operation)
  | interface (r : Ref .interface)
  | microservice (r : Ref .microservice)
  | contract (r : Ref .contract)
  | system (r : Ref .system)
  | settings (index : Nat)
  | renderer (r : RendererRef)
  | exporter (index : Nat)
  | diagram (index : Nat)
  /-- The configuration of a diagram, by the number of the diagram. -/
  | config (index : Nat)
  | draft (index : Nat)
  deriving DecidableEq, Repr, Inhabited

namespace Thing

/-- The team that a thing is. -/
def team? : Thing → Option (Ref .team)
  | .team r => some r
  | _ => none

/-- The parameter that a thing is. -/
def parameter? : Thing → Option (Ref .parameter)
  | .parameter r => some r
  | _ => none

/-- The operation that a thing is. -/
def operation? : Thing → Option (Ref .operation)
  | .operation r => some r
  | _ => none

/-- The interface that a thing is. -/
def interface? : Thing → Option (Ref .interface)
  | .interface r => some r
  | _ => none

/-- The microservice that a thing is. -/
def microservice? : Thing → Option (Ref .microservice)
  | .microservice r => some r
  | _ => none

/-- The contract that a thing is. -/
def contract? : Thing → Option (Ref .contract)
  | .contract r => some r
  | _ => none

/-- The system that a thing is. -/
def system? : Thing → Option (Ref .system)
  | .system r => some r
  | _ => none

/-- The renderer that a thing is. -/
def renderer? : Thing → Option RendererRef
  | .renderer r => some r
  | _ => none

/-- What a thing is in a model. -/
def noun? : Thing → Option Noun
  | .team _ => some .team
  | .parameter _ => some .parameter
  | .operation _ => some .operation
  | .interface _ => some .interface
  | .microservice _ => some .microservice
  | .contract _ => some .contract
  | .system _ => some .system
  | _ => none

end Thing

/-! ### Items -/

/-- What a step is given and what a field holds. -/
inductive Item where
  /-- A value that is no list. -/
  | value (v : Value)
  | thing (t : Thing)
  /-- The one format or the one type of diagrams. -/
  | choice (c : Choice)
  | path (p : FilePath)
  | list (items : List Item)
  /-- Something that was to be drawn. -/
  | call (source format : Item) (target : FilePath)
  /-- Something that a thing or a path can do. -/
  | ability (holder : Item) (name : String)
  /-- A kind of things as such. -/
  | kind (k : ThingKind)
  /-- All fields of a thing. -/
  | record (fields : List (String × Item))
  deriving Inhabited

namespace Item

/-- Nothing. -/
def null : Item :=
  .value .null

/-! ### Items of values -/

mutual
/-- The item that a value is. -/
def ofValue : Value → Item
  | .list xs => .list (ofValues xs)
  | v => .value v

/-- The items that some values are. -/
def ofValues : List Value → List Item
  | [] => []
  | x :: xs => ofValue x :: ofValues xs
end

mutual
/-- The value that an item is, if it is nothing but a value. -/
def value? : Item → Option Value
  | .value v => some v
  | .list xs => (values? xs).map Value.list
  | _ => none

/-- The values that some items are. -/
def values? : List Item → Option (List Value)
  | [] => some []
  | x :: xs => do return (← value? x) :: (← values? xs)
end

/-- The value of an item; what is more than a value has none. -/
def asValue (x : Item) : Value :=
  x.value?.getD .null

/-- The text of an item that is one. -/
def text? : Item → Option String
  | .value (.text s) => some s
  | _ => none

/-- The text of an item, empty if it has none. -/
def asText (x : Item) : String :=
  x.text?.getD ""

/-! ### Choices, paths and things -/

/-- The item that a choice is. -/
def ofChoice : Choice → Item
  | .other v => .ofValue v
  | c => .choice c

/-- The choice that an item is. -/
def choice? : Item → Option Choice
  | .choice c => some c
  | x => x.value?.map Choice.other

/-- The choice of an item; what is no choice is some other than those that are supported. -/
def asChoice (x : Item) : Choice :=
  x.choice?.getD (.other (.bool true))

/-- The path that an item gives. -/
def path? : Item → Option FilePath
  | .path p => some p
  | x => x.text?.map FilePath.ofString

/-- The thing that an item is. -/
def thing? : Item → Option Thing
  | .thing t => some t
  | _ => none

/-- The things in a list. -/
def things : Item → List Thing
  | .list xs => xs.filterMap thing?
  | _ => []

/-- A thing, or null. -/
def ofOption {α : Type} (f : α → Thing) : Option α → Item
  | some a => .thing (f a)
  | none => null

/-- A list of things. -/
def ofList {α : Type} (f : α → Thing) (xs : List α) : Item :=
  .list (xs.map fun a => .thing (f a))

/-! ### What counts as something -/

/-- Whether an item counts as something. -/
def isTruthy : Item → Bool
  | .value v => v.isTruthy
  | .list xs => !xs.isEmpty
  | .record fs => !fs.isEmpty
  | _ => true

/-- Whether an item is null. -/
def isNull : Item → Bool
  | .value .null => true
  | _ => false

/-! ### Calls -/

/-- The item of something that was to be drawn. -/
def ofCall (c : DrawCall) : Item :=
  .call (.value (.text c.source)) (.ofChoice c.format) c.target

/-- What was to be drawn, if an item is that and a text was to be drawn in some format. -/
def call? : Item → Option DrawCall
  | .call source format target => do return ⟨← source.text?, ← format.choice?, target⟩
  | _ => none

end Item

/-! ### What fields take -/

/-- Whether an item is a thing of a model of some sort. -/
def Item.isOf (noun : Noun) : Item → Bool
  | .thing t => t.noun? == some noun
  | _ => false

/-- Whether a field takes an item as what it is meant for. -/
def Slot.takes : Slot → Item → Bool
  | .text, x => x.text?.isSome
  | .value, x => x.value?.isSome
  | .path, .path _ => true
  | .choice, x => x.choice?.isSome
  | .flag, .value (.bool _) => true
  | .finding, .value (.bool _) | .finding, .value .null => true
  | .one n, x => x.isOf n
  | .maybe n, x => x.isNull || x.isOf n
  | .many n, .list xs => xs.all (Item.isOf n)
  | .calls, .list xs => xs.all fun x => x.call?.isSome
  | .settings, .thing (.settings _) | .settings, .value .null => true
  | .config, .thing (.config _) => true
  | .renderer, .thing (.renderer _) => true
  | .maybeRenderer, .thing (.renderer _) | .maybeRenderer, .value .null => true
  | _, _ => false

/-- Whether an item is a collection that can be changed. -/
def Item.isCollection : Item → Bool
  | .list _ | .value (.mapping _) => true
  | _ => false

end Landscape
