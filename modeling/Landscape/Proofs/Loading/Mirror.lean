import Landscape.Proofs.Loading.Building
import Landscape.Proofs.Loading.Parts

/-!
# Rows that mirror a document

What it means that a row of a model says what a part of a document says: the name and the values that are written
there, and lists of the same length, position by position (`Landscape.Microservice.Mirrors` and its likes for
interfaces, operations and parameters). The relation looks at what is written and at nothing else, so it does not
matter who provides an interface, or whether two parts of the document are spelled alike.

Rows that mirror a document still do when more rows are added (`Landscape.Interface.Mirrors.mono`). The operations of
an interface and their parameters are numbered in a row as they are added (`Landscape.Model.AddsOperations`), so none
of them stands in two places.
-/

namespace Landscape

/-! ### What a row should say -/

/-- The communication type that is written: the value of the key in one word if the key is there, even if it is null,
else the value of the key in two words. -/
def Value.communicationType (v : Value) : Value :=
  ((v.field? "communicationType").or (v.field? "communication_type")).getD .null

theorem communicationTypeOf_eq (es : Entries) : communicationTypeOf es = (Value.mapping es).communicationType := by
  rw [communicationTypeOf, Value.communicationType, Value.field?, Value.field?, Entries.get]
  cases Value.lookup? "communicationType" es <;> rfl

/-- A parameter that mirrors a value. -/
structure Parameter.Mirrors (p : Parameter) (v : Value) : Prop where
  name : v.field "name" = .text p.name
  type : p.type = v.field "type"

/-- An operation that mirrors a value. -/
structure Operation.Mirrors (m : Model) (o : Operation) (v : Value) : Prop where
  name : v.field "name" = .text o.name
  returnValue : o.returnValue = v.field "returns"
  parameters : List.Forall₂ (fun r w => m.parameters.Has (Parameter.Mirrors · w) r.index)
    o.parameters (v.field "parameters").items

/-- An interface that mirrors a value. -/
structure Interface.Mirrors (m : Model) (i : Interface) (v : Value) : Prop where
  name : v.field "name" = .text i.name
  endpoint : i.endpoint = v.field "endpoint"
  communicationType : i.communicationType = v.communicationType
  operations : List.Forall₂ (fun r w => m.operations.Has (Operation.Mirrors m · w) r.index)
    i.operations (v.field "operations").items

/-- **A microservice that mirrors a value.** -/
structure Microservice.Mirrors (m : Model) (x : Microservice) (v : Value) : Prop where
  name : v.field "name" = .text x.name
  technology : x.technology = v.field "technology"
  interfaces : List.Forall₂ (fun r w => m.interfaces.Has (Interface.Mirrors m · w) r.index)
    x.interfaces (v.field "interfaces").items

/-! ### More rows -/

namespace Model

/-- The operations of some interfaces, in order. -/
def operationsOf (m : Model) (is : List (Ref .interface)) : List (Ref .operation) :=
  is.flatMap fun i => (m.interface i).operations

/-- The parameters of some operations, in order. -/
def parametersOf (m : Model) (os : List (Ref .operation)) : List (Ref .parameter) :=
  os.flatMap fun o => (m.operation o).parameters

/-- Parameters and operations are added to those of a model. -/
structure Grows (m m' : Model) : Prop where
  parameters : ∃ ps, m'.parameters = m.parameters.extend ps
  operations : ∃ os, m'.operations = m.operations.extend os

/-- **Some operations are added** with their parameters, all numbered in a row. -/
def AddsOperations (m m' : Model) (rs : List (Ref .operation)) : Prop :=
  ∃ ps os, m'.parameters = m.parameters.extend ps ∧ m'.operations = m.operations.extend os ∧
    rs = Ref.block _ m.operations.size os.length ∧ m'.parametersOf rs = Ref.block _ m.parameters.size ps.length

variable {m m' m'' : Model} {rs rs' : List (Ref .operation)}

theorem grows_of_eq (hp : m'.parameters = m.parameters) (ho : m'.operations = m.operations) : m.Grows m' :=
  ⟨⟨[], by rw [hp, Table.extend_nil]⟩, ⟨[], by rw [ho, Table.extend_nil]⟩⟩

theorem addsOperations_nil (hp : m'.parameters = m.parameters) (ho : m'.operations = m.operations) :
    m.AddsOperations m' [] :=
  ⟨[], [], by rw [hp, Table.extend_nil], by rw [ho, Table.extend_nil], rfl, rfl⟩

theorem AddsOperations.grows (h : m.AddsOperations m' rs) : m.Grows m' := by
  obtain ⟨ps, os, hp, ho, -, -⟩ := h
  exact ⟨⟨ps, hp⟩, ⟨os, ho⟩⟩

/-- **Operations, and then more.** -/
theorem AddsOperations.trans (h : m.AddsOperations m' rs) (h' : m'.AddsOperations m'' rs') :
    m.AddsOperations m'' (rs ++ rs') := by
  obtain ⟨ps, os, hp, ho, rfl, hparams⟩ := h
  obtain ⟨ps', os', hp', ho', rfl, hparams'⟩ := h'
  refine ⟨ps ++ ps', os ++ os', by rw [hp', hp, Table.extend_extend], by rw [ho', ho, Table.extend_extend], ?_, ?_⟩
  · rw [ho, Table.size_extend, List.length_append, Ref.block_append]
  · -- the operations that were there first keep their parameters
    have hold : m''.parametersOf (Ref.block _ m.operations.size os.length) =
        m'.parametersOf (Ref.block _ m.operations.size os.length) := by
      refine List.flatMap_congr fun r hr => ?_
      have hlt : r.index < m'.operations.size := by
        rw [ho, Table.size_extend]
        exact (Ref.mem_block.mp hr).2
      rw [operation, operation, ho', Table.get_extend_of_lt _ _ hlt]
    rw [parametersOf, List.flatMap_append]
    change m''.parametersOf _ ++ m''.parametersOf _ = _
    rw [hold, hparams, hparams', hp, Table.size_extend, List.length_append, Ref.block_append]

/-- Whatever happens in other tables does not matter. -/
theorem AddsOperations.of_eq (h : m.AddsOperations m' rs) (hp : m''.parameters = m'.parameters)
    (ho : m''.operations = m'.operations) : m.AddsOperations m'' rs := by
  have := h.trans (addsOperations_nil hp ho)
  rwa [List.append_nil] at this

/-- One operation is added after its parameters. -/
theorem addsOperations_addOperation {ps : List Parameter} {o : Operation}
    (hp : m'.parameters = m.parameters.extend ps) (ho : m'.operations = m.operations)
    (hparams : o.parameters = Ref.block _ m.parameters.size ps.length) :
    m.AddsOperations (m'.addOperation o).2 [(m'.addOperation o).1] := by
  refine ⟨ps, [o], hp, ?_, ?_, ?_⟩
  · rw [addOperation, ho]
    rfl
  · rw [addOperation, ho]
    rfl
  · rw [parametersOf, List.flatMap_singleton, ← hparams]
    exact congrArg Operation.parameters (Table.get_add_size m'.operations o)

/-- No operation and no parameter stands in two places. -/
theorem AddsOperations.nodup (h : m.AddsOperations m' rs) : rs.Nodup ∧ (m'.parametersOf rs).Nodup := by
  obtain ⟨ps, os, -, -, rfl, hparams⟩ := h
  rw [hparams]
  exact ⟨Ref.nodup_block _ _, Ref.nodup_block _ _⟩

/-- The operations of old interfaces and of new ones. -/
theorem operationsOf_extend {news : List Interface} {is : List (Ref .interface)}
    (hif : m'.interfaces = m.interfaces.extend news) (his : ∀ i ∈ is, i.index < m.interfaces.size) :
    m'.operationsOf (is ++ Ref.block _ m.interfaces.size news.length) =
      m.operationsOf is ++ news.flatMap Interface.operations := by
  have hold : m'.operationsOf is = m.operationsOf is := by
    refine List.flatMap_congr fun i hi => ?_
    rw [interface, interface, hif, Table.get_extend_of_lt _ _ (his i hi)]
  have hnew : m'.operationsOf (Ref.block _ m.interfaces.size news.length) = news.flatMap Interface.operations := by
    rw [← Ref.map_get_block (κ := .interface) m.interfaces news, List.flatMap_map, Ref.map_get_block, ← hif]
    rfl
  rw [← hold, ← hnew]
  exact List.flatMap_append

end Model

/-! ### Rows still mirror the document -/

section Mono

variable {m m' : Model} {v : Value}

theorem Operation.Mirrors.mono {o : Operation} (h : o.Mirrors m v) (hm : m.Grows m') : o.Mirrors m' v := by
  obtain ⟨ps, hp⟩ := hm.parameters
  refine ⟨h.name, h.returnValue, h.parameters.imp fun r w hr => ?_⟩
  rw [hp]
  exact hr.extend (fun _ => id) ps

theorem Interface.Mirrors.mono {i : Interface} (h : i.Mirrors m v) (hm : m.Grows m') : i.Mirrors m' v := by
  obtain ⟨os, ho⟩ := hm.operations
  refine ⟨h.name, h.endpoint, h.communicationType, h.operations.imp fun r w hr => ?_⟩
  rw [ho]
  exact hr.extend (fun o hr => hr.mono hm) os

theorem Microservice.Mirrors.mono {x : Microservice} (h : x.Mirrors m v) (hm : m.Grows m')
    (hi : ∃ is, m'.interfaces = m.interfaces.extend is) : x.Mirrors m' v := by
  obtain ⟨is, hi⟩ := hi
  refine ⟨h.name, h.technology, h.interfaces.imp fun r w hr => ?_⟩
  rw [hi]
  exact hr.extend (fun i hr => hr.mono hm) is

/-- Who provides an interface is not written in its place. -/
theorem Interface.Mirrors.withProvider {i : Interface} (h : i.Mirrors m v) (p : Option (Ref .microservice)) :
    Interface.Mirrors m { i with provider := p } v :=
  ⟨h.name, h.endpoint, h.communicationType, h.operations⟩

end Mono

end Landscape
