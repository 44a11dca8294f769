import Landscape.Table
import Landscape.Value.Basic

/-!
# The model of a landscape

A landscape consists of systems. A system has microservices and contracts; a microservice provides
interfaces; an interface has operations, and these have parameters. A contract says that a microservice,
the consumer, depends on an interface, the owner.

All things of a model live in tables, and refer to one another by number (`Landscape.Ref`). Two
microservices with one name are still two, and one interface may stand in several lists: it is
the number that counts. `Landscape.Model.provide` puts an interface into a microservice's list and
makes the microservice its provider; nothing else keeps the two in step.
-/

namespace Landscape

/-! ### The things of a model -/

/-- The kinds of things in a model. -/
inductive Noun where
  | team | parameter | operation | interface | microservice | contract | system
  deriving DecidableEq, Repr

/-- A thing of a model, by its number among the things of its kind. -/
structure Ref (n : Noun) where
  index : Nat
  deriving DecidableEq, Repr, Inhabited

/-- A team, which owns microservices or a part of a landscape. -/
structure Team where
  name : Value
  deriving Repr, Inhabited

/-- A parameter of an operation; without a type it is null there. -/
structure Parameter where
  name : String
  type : Value := .null
  deriving Repr, Inhabited

/-- An operation of an interface; if it returns nothing, the return value is null. -/
structure Operation where
  name : String
  returnValue : Value := .null
  parameters : List (Ref .parameter) := []
  deriving Repr, Inhabited

/-- An interface and, if it has one, the microservice that provides it. -/
structure Interface where
  name : String
  provider : Option (Ref .microservice) := none
  endpoint : Value := .null
  communicationType : Value := .null
  operations : List (Ref .operation) := []
  deriving Repr, Inhabited

/-- A service that can be deployed, with the interfaces it provides. -/
structure Microservice where
  name : String
  team : Option (Ref .team) := none
  technology : Value := .null
  interfaces : List (Ref .interface) := []
  deriving Repr, Inhabited

/-- The consumer depends on the owner. -/
structure Contract where
  owner : Ref .interface
  consumer : Ref .microservice
  deriving Repr, Inhabited, DecidableEq

/-- Whether a system stands for itself or is a fragment of a larger one, which may have a team. -/
inductive Extent where
  | whole
  | fragment (team : Option (Ref .team))
  deriving Repr, Inhabited, DecidableEq

/-- The microservices of a landscape and the contracts among them. -/
structure System where
  name : String
  microservices : List (Ref .microservice) := []
  contracts : List (Ref .contract) := []
  extent : Extent := .whole
  deriving Repr, Inhabited

/-- All things that there are. -/
structure Model where
  teams : Table Team := {}
  parameters : Table Parameter := {}
  operations : Table Operation := {}
  interfaces : Table Interface := {}
  microservices : Table Microservice := {}
  contracts : Table Contract := {}
  systems : Table System := {}
  deriving Inhabited

namespace Model

/-! ### Looking things up -/

/-- The team with a number. -/
def team (m : Model) (r : Ref .team) : Team := m.teams.get r.index

/-- The parameter with a number. -/
def parameter (m : Model) (r : Ref .parameter) : Parameter := m.parameters.get r.index

/-- The operation with a number. -/
def operation (m : Model) (r : Ref .operation) : Operation := m.operations.get r.index

/-- The interface with a number. -/
def interface (m : Model) (r : Ref .interface) : Interface := m.interfaces.get r.index

/-- The microservice with a number. -/
def microservice (m : Model) (r : Ref .microservice) : Microservice := m.microservices.get r.index

/-- The contract with a number. -/
def contract (m : Model) (r : Ref .contract) : Contract := m.contracts.get r.index

/-- The system with a number. -/
def system (m : Model) (r : Ref .system) : System := m.systems.get r.index

/-! ### Adding things -/

/-- Adds a team. -/
def addTeam (m : Model) (t : Team) : Ref .team × Model :=
  (⟨m.teams.size⟩, { m with teams := m.teams.add t })

/-- Adds a parameter. -/
def addParameter (m : Model) (p : Parameter) : Ref .parameter × Model :=
  (⟨m.parameters.size⟩, { m with parameters := m.parameters.add p })

/-- Adds an operation. -/
def addOperation (m : Model) (o : Operation) : Ref .operation × Model :=
  (⟨m.operations.size⟩, { m with operations := m.operations.add o })

/-- Adds an interface. -/
def addInterface (m : Model) (i : Interface) : Ref .interface × Model :=
  (⟨m.interfaces.size⟩, { m with interfaces := m.interfaces.add i })

/-- Adds a microservice. -/
def addMicroservice (m : Model) (s : Microservice) : Ref .microservice × Model :=
  (⟨m.microservices.size⟩, { m with microservices := m.microservices.add s })

/-- Adds a contract. -/
def addContract (m : Model) (c : Contract) : Ref .contract × Model :=
  (⟨m.contracts.size⟩, { m with contracts := m.contracts.add c })

/-- Adds a system. -/
def addSystem (m : Model) (s : System) : Ref .system × Model :=
  (⟨m.systems.size⟩, { m with systems := m.systems.add s })

/-! ### Changing things -/

/-- Changes a team. -/
def modifyTeam (m : Model) (r : Ref .team) (f : Team → Team) : Model :=
  { m with teams := m.teams.modify r.index f }

/-- Changes a parameter. -/
def modifyParameter (m : Model) (r : Ref .parameter) (f : Parameter → Parameter) : Model :=
  { m with parameters := m.parameters.modify r.index f }

/-- Changes an operation. -/
def modifyOperation (m : Model) (r : Ref .operation) (f : Operation → Operation) : Model :=
  { m with operations := m.operations.modify r.index f }

/-- Changes an interface. -/
def modifyInterface (m : Model) (r : Ref .interface) (f : Interface → Interface) : Model :=
  { m with interfaces := m.interfaces.modify r.index f }

/-- Changes a microservice. -/
def modifyMicroservice (m : Model) (r : Ref .microservice) (f : Microservice → Microservice) : Model :=
  { m with microservices := m.microservices.modify r.index f }

/-- Changes a contract. -/
def modifyContract (m : Model) (r : Ref .contract) (f : Contract → Contract) : Model :=
  { m with contracts := m.contracts.modify r.index f }

/-- Changes a system. -/
def modifySystem (m : Model) (r : Ref .system) (f : System → System) : Model :=
  { m with systems := m.systems.modify r.index f }

/-- **Provides an interface**: the microservice becomes its provider, and it goes to the end of the
microservice's list. An earlier provider keeps it in its list all the same. -/
def provide (m : Model) (s : Ref .microservice) (i : Ref .interface) : Model :=
  (m.modifyInterface i fun x => { x with provider := some s }).modifyMicroservice s fun x =>
    { x with interfaces := x.interfaces ++ [i] }

/-! ### Searching a system -/

/-- The first microservice of a system that has the name. -/
def findMicroservice? (m : Model) (s : Ref .system) (name : String) : Option (Ref .microservice) :=
  (m.system s).microservices.find? fun r => (m.microservice r).name == name

/-- The interfaces that the microservices of a system list, in order. -/
def providedInterfaces (m : Model) (s : Ref .system) : List (Ref .interface) :=
  (m.system s).microservices.flatMap fun r => (m.microservice r).interfaces

end Model

end Landscape
