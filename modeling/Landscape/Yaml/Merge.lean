import Landscape.Yaml.Node

/-!
# Merging mappings

The key `<<` of a mapping stands for the entries of another mapping, or of several. Merging
(`Landscape.Yaml.Nodes.flatten`) takes such keys out of a mapping and puts the entries of the others in front of its
own; those of several others come in the opposite order, so that the first of them wins. The others are merged
first. A mapping may be among those it merges, directly or not: it then counts with the entries that it has by
that time. In a mapping that was merged, the key of a default value is an ordinary text.

Every merge key is taken out before anything else is done with it, and no merge key is copied, so the number of all
entries bounds how deep merging can go.
-/

namespace Landscape.Yaml.Nodes

/-- A step of merging, which changes nodes. -/
abbrev Merging := StateT Nodes (Except Fault)

/-- The entries of a node, none if it is no mapping. -/
def entries (ns : Nodes) (n : Nat) : List (Nat × Nat) :=
  match (ns.node n).content with
  | .mapping es => es
  | _ => []

/-- How many entries all mappings have. -/
def entryCount (ns : Nodes) : Nat :=
  ns.foldl (fun count x => match x.content with
    | .mapping es => count + es.length
    | _ => count) 0

/-- A mapping with other entries. -/
def withEntries (n : Nat) (es : List (Nat × Nat)) (ns : Nodes) : Nodes :=
  ns.modify n fun x => { x with content := .mapping es }

/-- The nodes with some keys of default values turned into texts. -/
def withTextKeys (es : List (Nat × Nat)) (ns : Nodes) : Nodes :=
  es.foldl (fun ns e => if (ns.node e.1).tag == .value then ns.modify e.1 fun x => { x with tag := .text } else ns)
    ns

mutual

/-- Merges the mappings that a mapping asks for. -/
def flatten (n : Nat) : Nat → Merging Unit
  | 0 => throw .tooDeep
  | fuel + 1 => do
    let merged ← takeMerged n 0 fuel
    modify fun ns => ns.withEntries n (merged ++ ns.entries n)

/-- Takes the merge keys out of a mapping from a position on, and answers the entries that they stand for. -/
def takeMerged (n position : Nat) : Nat → Merging (List (Nat × Nat))
  | 0 => throw .tooDeep
  | fuel + 1 => do
    let ns ← get
    let es := ns.entries n
    let own := (es.drop position).takeWhile fun e => (ns.node e.1).tag != .merge
    modify (withTextKeys own)
    let next := position + own.length
    match es.drop next with
    | [] => return []
    | (_, v) :: _ => do
      modify (withEntries n (es.eraseIdx next))
      let here ← mergedFrom v fuel
      return here ++ (← takeMerged n next fuel)

/-- The entries that the value of a merge key stands for. -/
def mergedFrom (v : Nat) : Nat → Merging (List (Nat × Nat))
  | 0 => throw .tooDeep
  | fuel + 1 => do
    match ((← get).node v).content with
    | .mapping _ => do
      flatten v fuel
      return (← get).entries v
    | .sequence items =>
      items.foldlM (fun later x => do
        match ((← get).node x).content with
        | .mapping _ => do
          flatten x fuel
          return (← get).entries x ++ later
        | _ => throw .badMerge) []
    | .scalar _ => throw .badMerge

end

/-- As much fuel as merging can need: merging a mapping takes at most three steps for each merge key. -/
def mergingFuel (ns : Nodes) : Nat :=
  3 * ns.entryCount + 3

end Landscape.Yaml.Nodes
