import Landscape.Value.Shape
import Landscape.Yaml.Collection

/-!
# YAML documents as values

`Landscape.Yaml.read` gives the value of the only document in a text. Collections that are put into several places
become several values, and one that is put inside itself is cut off at the inner place. Where a shape says that the
parts of a collection are going to be looked at one by one, each part is a value of its own, cut off inside
itself only (`Landscape.Yaml.Collections.shaped`).
-/

namespace Landscape.Yaml

namespace Collections

/-- The collection with a number. -/
def collection (cs : Collections) (n : Nat) : Collection :=
  cs.getD n default

/-- Whether a collection is written as a mapping. -/
def isMapping (cs : Collections) (n : Nat) : Bool :=
  match cs.collection n with
  | .mapping _ => true
  | _ => false

/-- The value of a piece inside some collections. They are all different, so their number bounds the depth. -/
def valueInside (cs : Collections) (around : List Nat) : Nat → Piece → Value
  | _, .value v => v
  | 0, .collection n => .again (cs.isMapping n)
  | fuel + 1, .collection n =>
    if around.contains n then .again (cs.isMapping n)
    else
      let value := valueInside cs (n :: around) fuel
      match cs.collection n with
      | .list items => .list (items.map value)
      | .pairs items => .list (items.map fun x => .tuple [value x.1, value x.2])
      | .mapping entries => .mapping (entries.map fun e => (e.1, value e.2))
      | .set items => .set items

/-- The value of a piece as a whole. -/
def value (cs : Collections) (p : Piece) : Value :=
  cs.valueInside [] (cs.size + 1) p

/-- **The value of a piece** of which the parts that a shape names are going to be looked at. -/
def shaped (cs : Collections) : Shape → Piece → Value
  | .ignored, _ => .null
  | .whole, p => cs.value p
  | .list items, .collection n =>
    match cs.collection n with
    | .list xs => .list (xs.map (shaped cs items))
    | _ => cs.value (.collection n)
  | .mapping entry, .collection n =>
    match cs.collection n with
    | .mapping es => .mapping (es.filterMap fun e =>
      match e.1 with
      | .text key =>
        match entry key with
        | .ignored => none
        | _ => some (e.1, shaped cs (entry key) e.2)
      | _ => none)
    | _ => cs.value (.collection n)
  | _, .value v => v

end Collections

/-- **The value of the only document in a text**, null if there is none. There may be room for so many collections
inside one another only. -/
def read (room : Option Nat) (shape : Shape) (source : Source) : Except Fault Value := do
  match ← Nodes.ofTokens? room (tokens source) with
  | none => return .null
  | some (root, nodes) => do
    let (p, cs) ← Collections.ofNodes root nodes
    return cs.shaped shape p

end Landscape.Yaml
