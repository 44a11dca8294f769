import Landscape.Value.Members
import Landscape.Yaml.Merge
import Landscape.Yaml.ScalarValue

/-!
# From nodes to collections

Every scalar has a value, and every other node becomes a collection (`Landscape.Yaml.Collection`), whose parts are
values and the numbers of further collections (`Landscape.Yaml.Piece`). A node becomes one piece, wherever aliases put
it. `Landscape.Yaml.Collections.ofNodes` makes the collections of a document.

A collection is begun when its node is met first, and it is filled after all that were begun before it. So if several
nodes have faults, the first fault on the least depth is reported.
-/

namespace Landscape.Yaml

/-- A part of a collection: a value, or a collection by its number. -/
inductive Piece where
  | value (v : Value)
  | collection (n : Nat)
  deriving Repr, Inhabited

/-- A collection of a document. -/
inductive Collection where
  | list (items : List Piece)
  /-- A list of pairs. -/
  | pairs (items : List (Piece × Piece))
  | mapping (entries : List (Value × Piece))
  | set (items : List Value)
  deriving Repr, Inhabited

/-- The collections of a document by their numbers. -/
abbrev Collections := Array Collection

namespace Collections

/-! ### Scalars -/

/-- The text of the scalar that stands for a node: itself, or the default value of a mapping, which may be a mapping
again. -/
def scalarOf (ns : Nodes) (n : Nat) : Nat → Except Fault (List Char)
  | 0 => throw .tooDeep
  | fuel + 1 =>
    match (ns.node n).content with
    | .scalar text => .ok text
    | .mapping es =>
      match es.find? fun e => (ns.node e.1).tag == .value with
      | some e => scalarOf ns e.2 fuel
      | none => throw .wrongStructure
    | .sequence _ => throw .wrongStructure

/-- The value of a node that is no collection. A mapping can stand for any scalar but a timestamp. -/
def valueOf (ns : Nodes) (n : Nat) : Except Fault Value := do
  let x := ns.node n
  if !x.tag.isOfScalars then throw .unknownTag
  let text ← scalarOf ns n (ns.size + 1)
  match x.tag, x.content with
  | .timestamp, .mapping _ => throw .mappingAsTimestamp
  | tag, _ => scalarValue tag text n

/-! ### Making collections -/

/-- What has been made so far. -/
structure Making where
  nodes : Nodes
  /-- The pieces of the nodes that were met. -/
  pieces : Array (Option Piece)
  collections : Collections
  /-- The collections that are begun and not filled, the first one first. -/
  waiting : List Nat := []

/-- A step of making. -/
abbrev Maker := StateT Making (Except Fault)

/-- The piece of a node. -/
def piece (n : Nat) : Maker Piece := do
  let m ← get
  match m.pieces.getD n none with
  | some p => return p
  | none =>
    if (m.nodes.node n).tag.isOfCollections then
      set { m with pieces := m.pieces.setIfInBounds n (some (.collection n)), waiting := m.waiting ++ [n] }
      return .collection n
    else
      let p := Piece.value (← valueOf m.nodes n)
      set { m with pieces := m.pieces.setIfInBounds n (some p) }
      return p

/-- The value of a node that is a key, and therefore no collection. -/
def key (n : Nat) : Maker Value := do
  match ← piece n with
  | .value v => return v
  | .collection _ => throw .unhashableKey

/-- The entries with one more. An equal key that is there already stays, with the new piece. -/
def putEntry (es : List (Value × Piece)) (k : Value) (p : Piece) : List (Value × Piece) :=
  if es.any (·.1.same k) then es.map fun e => if e.1.same k then (e.1, p) else e
  else es ++ [(k, p)]

/-- The entries of a mapping, after merging. -/
def entriesOf (fuel n : Nat) : Maker (List (Value × Piece)) := do
  let m ← get
  let (_, nodes) ← (Nodes.flatten n fuel).run m.nodes
  set { m with nodes }
  (nodes.entries n).foldlM (fun es e => do
    let k ← key e.1
    let p ← piece e.2
    return putEntry es k p) []

/-- The pair that a mapping of one entry gives. -/
def pairOf (n : Nat) : Maker (Piece × Piece) := do
  match ((← get).nodes.node n).content with
  | .mapping [(k, v)] => do
    let k ← piece k
    return (k, ← piece v)
  | _ => throw .wrongStructure

/-- The collection of a node. -/
def collectionOf (fuel n : Nat) : Maker Collection := do
  let x := (← get).nodes.node n
  match x.tag, x.content with
  | .list, .sequence items => return .list (← items.mapM piece)
  | .mapping, .mapping _ => return .mapping (← entriesOf fuel n)
  | .set, .mapping _ => return .set (Members.inOrder ((← entriesOf fuel n).map (·.1)))
  | .orderedMapping, .sequence items | .pairs, .sequence items => return .pairs (← items.mapM pairOf)
  | _, _ => throw .wrongStructure

/-- Fills the collections that are waiting, and those that begin meanwhile. Every node waits at most once. -/
def fillAll (fuel : Nat) : Nat → Maker Unit
  | 0 => return
  | rounds + 1 => do
    match (← get).waiting with
    | [] => return
    | n :: waiting => do
      modify fun m => { m with waiting }
      let c ← collectionOf fuel n
      modify fun m => { m with collections := m.collections.setIfInBounds n c }
      fillAll fuel rounds

/-- **The collections of some nodes**, with the piece of the outermost. -/
def ofNodes (root : Nat) (ns : Nodes) : Except Fault (Piece × Collections) := do
  let make : Maker Piece := do
    let p ← piece root
    fillAll ns.mergingFuel (ns.size + 1)
    return p
  let (p, m) ← make.run
    { nodes := ns, pieces := Array.replicate ns.size none, collections := Array.replicate ns.size default }
  return (p, m.collections)

end Collections

end Landscape.Yaml
