import Landscape.Model.Basic
import Landscape.Text.Blank
import Landscape.Value.Shape

/-!
# Landscape documents

A landscape document is a mapping with the name of a system, its microservices and its contracts.
`Landscape.Model.load` builds the model that a document describes, or says what is wrong with the
first place that no landscape can have (`Landscape.DocumentFault`).

Things are built in the order of the document: a microservice before its interfaces, an interface with
all its operations before the next, contracts after all microservices. A contract names its consumer, and
its owner either by the interface's name alone or by the names of microservice and interface with
a slash between them; exactly one interface has to fit. Teams are shared: equal keys in one document
mean one team, named as the first of them is spelled.
-/

namespace Landscape

/-! ### What can be wrong -/

/-- The parts of a document that have names. -/
inductive Part where
  | system | microservice | interface | operation | parameter
  deriving DecidableEq, Repr

/-- The word for a part. -/
def Part.word : Part → String
  | .system => "system"
  | .microservice => "microservice"
  | .interface => "interface"
  | .operation => "operation"
  | .parameter => "parameter"

/-- The lists of a document. -/
inductive Listing where
  | microservices | contracts | interfaces | operations | parameters
  deriving DecidableEq, Repr

/-- The key of a list. -/
def Listing.key : Listing → String
  | .microservices => "microservices"
  | .contracts => "contracts"
  | .interfaces => "interfaces"
  | .operations => "operations"
  | .parameters => "parameters"

/-- Why a document describes no landscape. -/
inductive DocumentFault where
  /-- The document is no mapping. -/
  | notMapping
  /-- A part is no mapping. -/
  | partNotMapping (part : Part) (kind : Value.Kind)
  /-- A part has no name, or one that is no text or all blank. -/
  | nameless (part : Part)
  /-- Something else stands where a list has to. -/
  | notList (listing : Listing) (part : Part) (name : String)
  /-- A contract is no mapping. -/
  | contractNotMapping
  /-- A contract lacks its owner or its consumer. -/
  | contractIncomplete
  /-- The owner or the consumer of a contract is no text. -/
  | contractNotNames
  /-- No microservice has the name of the consumer. -/
  | unknownConsumer (name : String)
  /-- No interface fits the owner. -/
  | unknownOwner (reference : String)
  /-- Several interfaces fit the owner. -/
  | ambiguousOwner (reference interface : String)
  /-- A team is of a kind that cannot be looked up. -/
  | teamNotKey (kind : Value.Kind)
  deriving DecidableEq, Repr

/-- What is wrong, in words. -/
def DocumentFault.message : DocumentFault → String
  | .notMapping => "Landscape document must be a mapping"
  | .partNotMapping part kind => s!"Each {part.word} must be a mapping, got {kind.name}"
  | .nameless part => s!"A {part.word} is missing its 'name'"
  | .notList listing part name => s!"'{listing.key}' of {part.word} '{name}' must be a list"
  | .contractNotMapping => "Each contract must be a mapping"
  | .contractIncomplete => "A contract needs both 'owner' and 'consumer'"
  | .contractNotNames => "Contract 'owner' and 'consumer' must be names"
  | .unknownConsumer name => s!"Contract consumer '{name}' is not a microservice of the system"
  | .unknownOwner reference => s!"Contract owner '{reference}' is not an interface of the system"
  | .ambiguousOwner reference interface =>
    s!"Contract owner '{reference}' is ambiguous; qualify it as '<microservice>/{interface}'"
  | .teamNotKey kind => s!"unhashable type: '{kind.name}'"

/-! ### What is looked at -/

/-- The shape of a list of parts that have names, with what else is looked at in each of them. -/
def partsShape (others : List (String × Shape)) : Shape :=
  .list (.entries (("name", .whole) :: others))

/-- What is looked at in a landscape document. -/
def documentShape : Shape :=
  let parameters := partsShape [("type", .whole)]
  let operations := partsShape [("returns", .whole), ("parameters", parameters)]
  let interfaces := partsShape [("endpoint", .whole), ("communicationType", .whole),
    ("communication_type", .whole), ("operations", operations)]
  let microservices := partsShape [("team", .whole), ("technology", .whole), ("interfaces", interfaces)]
  let contracts := Shape.list (.entries [("owner", .whole), ("consumer", .whole)])
  .entries [("name", .whole), ("team", .whole), ("microservices", microservices), ("contracts", contracts)]

/-! ### Reading the parts of a mapping -/

/-- The entries of a part's mapping. -/
abbrev Entries := List (Value × Value)

/-- The value of a key, null if the key is absent. -/
def Entries.get (es : Entries) (key : String) : Value :=
  (Value.lookup? key es).getD .null

/-- The entries of a value that has to be a mapping. -/
def entriesOf (part : Part) : Value → Except DocumentFault Entries
  | .mapping es => .ok es
  | v => .error (.partNotMapping part v.kind)

/-- A name: a text that is not all blank. -/
def nameOf? : Value → Option String
  | .text s => if allBlank s.toList then none else some s
  | _ => none

/-- The name of a part. -/
def nameOf (part : Part) (es : Entries) : Except DocumentFault String :=
  match nameOf? (es.get "name") with
  | some s => .ok s
  | none => .error (.nameless part)

/-- The items of one of a part's lists; a list that is absent or null is empty. -/
def itemsOf (listing : Listing) (part : Part) (name : String) (es : Entries) :
    Except DocumentFault (List Value) :=
  match es.get listing.key with
  | .null => .ok []
  | .list xs => .ok xs
  | _ => .error (.notList listing part name)

/-- The communication type of an interface. The spelling in one word counts if its key is there, even
if the value is null. -/
def communicationTypeOf (es : Entries) : Value :=
  (Value.lookup? "communicationType" es).getD (es.get "communication_type")

/-! ### Building -/

/-- A model under construction, with the teams that the document has named so far. -/
structure Draft where
  model : Model
  teams : List (Value × Ref .team) := []

/-- A step of building, which changes the draft or finds a fault. -/
abbrev Build := StateT Draft (Except DocumentFault)

/-- Changes the model of the draft by an addition, and answers the number of what was added. -/
def Build.adding {α : Type} (f : Model → α × Model) : Build α := fun d =>
  let (a, m) := f d.model
  .ok (a, { d with model := m })

/-- Changes the model of the draft. -/
def Build.changing (f : Model → Model) : Build Unit := fun d =>
  .ok ((), { d with model := f d.model })

/-- The team of a key: the one that an equal key has, or a new one. -/
def buildTeam (key : Value) : Build (Ref .team) := do
  if let some kind := key.unhashable? then throw (.teamNotKey kind)
  match (← get).teams.find? fun t => t.1.same key with
  | some t => return t.2
  | none =>
    let r ← Build.adding fun m => m.addTeam ⟨key⟩
    modify fun d => { d with teams := d.teams ++ [(key, r)] }
    return r

/-- The team of a holder, if its value says that it has one. -/
def buildTeam? (key : Value) : Build (Option (Ref .team)) :=
  if key.isTruthy then some <$> buildTeam key else pure none

/-- Builds a parameter. -/
def buildParameter (v : Value) : Build (Ref .parameter) := do
  let es ← entriesOf .parameter v
  let name ← nameOf .parameter es
  Build.adding fun m => m.addParameter { name, type := es.get "type" }

/-- Builds an operation with its parameters. -/
def buildOperation (v : Value) : Build (Ref .operation) := do
  let es ← entriesOf .operation v
  let name ← nameOf .operation es
  let parameters ← (← itemsOf .parameters .operation name es).mapM buildParameter
  Build.adding fun m => m.addOperation { name, returnValue := es.get "returns", parameters }

/-- Builds an interface with its operations; nobody provides it yet. -/
def buildInterface (v : Value) : Build (Ref .interface) := do
  let es ← entriesOf .interface v
  let name ← nameOf .interface es
  let operations ← (← itemsOf .operations .interface name es).mapM buildOperation
  Build.adding fun m => m.addInterface
    { name, endpoint := es.get "endpoint", communicationType := communicationTypeOf es, operations }

/-- Builds a microservice, and provides its interfaces. -/
def buildMicroservice (v : Value) : Build (Ref .microservice) := do
  let es ← entriesOf .microservice v
  let name ← nameOf .microservice es
  let team ← buildTeam? (es.get "team")
  let s ← Build.adding fun m => m.addMicroservice { name, team, technology := es.get "technology" }
  for x in ← itemsOf .interfaces .microservice name es do
    let i ← buildInterface x
    Build.changing fun m => m.provide s i
  return s

/-! ### Contracts -/

/-- A reference to an interface: its name, and the name of its microservice if that is given. -/
structure OwnerReference where
  provider : Option String
  interface : String
  deriving DecidableEq, Repr

/-- Reads a reference. The first slash ends the name of the microservice. -/
def OwnerReference.of (reference : String) : OwnerReference :=
  let s := reference.toList
  match s.dropWhile (· != '/') with
  | [] => ⟨none, reference⟩
  | _ :: r => ⟨some (String.ofList (s.takeWhile (· != '/'))), String.ofList r⟩

/-- Whether an interface fits a reference. -/
def OwnerReference.fits (o : OwnerReference) (m : Model) (r : Ref .interface) : Bool :=
  let i := m.interface r
  i.name == o.interface &&
    o.provider.all fun p => i.provider.any fun s => (m.microservice s).name == p

/-- The interface of a system that a reference means: the only one that fits. -/
def resolveOwner (m : Model) (s : Ref .system) (reference : String) :
    Except DocumentFault (Ref .interface) :=
  let o := OwnerReference.of reference
  match (m.providedInterfaces s).filter (o.fits m) with
  | [] => .error (.unknownOwner reference)
  | [i] => .ok i
  | _ => .error (.ambiguousOwner reference o.interface)

/-- The contract that a value describes, among the microservices of a system. -/
def contractOf (m : Model) (s : Ref .system) : Value → Except DocumentFault Contract
  | .mapping es => do
    let owner := Entries.get es "owner"
    let consumer := Entries.get es "consumer"
    if owner.isFalsy || consumer.isFalsy then throw .contractIncomplete
    match owner, consumer with
    | .text owner, .text consumer =>
      let some c := m.findMicroservice? s consumer | throw (.unknownConsumer consumer)
      return ⟨← resolveOwner m s owner, c⟩
    | _, _ => throw .contractNotNames
  | _ => throw .contractNotMapping

/-- Builds a contract of a system. -/
def buildContract (s : Ref .system) (v : Value) : Build (Ref .contract) := do
  let c ← contractOf (← get).model s v
  Build.adding fun m => m.addContract c

/-! ### Systems -/

/-- Builds a system with its microservices and contracts. It is a fragment if it has a team. -/
def buildSystem (es : Entries) : Build (Ref .system) := do
  let name ← nameOf .system es
  let team ← buildTeam? (es.get "team")
  let extent := match team with
    | some t => Extent.fragment (some t)
    | none => .whole
  let s ← Build.adding fun m => m.addSystem { name, extent }
  for x in ← itemsOf .microservices .system name es do
    let r ← buildMicroservice x
    Build.changing fun m => m.modifySystem s fun y => { y with microservices := y.microservices ++ [r] }
  for x in ← itemsOf .contracts .system name es do
    let r ← buildContract s x
    Build.changing fun m => m.modifySystem s fun y => { y with contracts := y.contracts ++ [r] }
  return s

/-- **Builds the landscape that a document describes** in a model, and answers its system. -/
def Model.load (m : Model) (document : Value) : Except DocumentFault (Ref .system × Model) :=
  match document with
  | .mapping es => do
    let (s, d) ← (buildSystem es).run { model := m }
    return (s, d.model)
  | _ => .error .notMapping

end Landscape
