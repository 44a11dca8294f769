import Landscape.Number.Residue
import Landscape.Value.Basic

/-!
# The order of the members of a set

A set of numbers lists its members by their places in a table (`Landscape.Members.inOrder`). The place of a number
goes by its residue (`Landscape.Value.residue?`); if it is taken, the next free one of a short run is used, and then
that of another run. The table has at least five slots for three members, and when it gets too full it grows to four
slots a member, or two if there are many. Sets with other members list them as they came.
-/

namespace Landscape

/-- The residue of a value that is a number. -/
def Value.residue? : Value → Option Int
  | .bool b => some b.toNat
  | .int n => some (wholeResidue n)
  | .float x => x.residue?
  | _ => none

/-- A table of members with their keys, which are natural numbers. -/
structure Members where
  slots : Array (Option (Nat × Value))
  deriving Repr

namespace Members

/-- How many slots a table has at least. -/
def leastSize : Nat := 8

/-- How many slots a run goes on after its first. -/
def runLength : Nat := 9

/-- A table without members. -/
def empty (size : Nat) : Members :=
  ⟨Array.replicate size none⟩

/-- How many slots there are. -/
def size (t : Members) : Nat :=
  t.slots.size

/-- The members, in the order of their slots. -/
def toList (t : Members) : List (Nat × Value) :=
  t.slots.toList.filterMap id

/-- The first free slot from one on, among so many more. -/
def free? (t : Members) (i : Nat) : Nat → Option Nat
  | 0 => if (t.slots.getD i none).isNone then some i else none
  | n + 1 => if (t.slots.getD i none).isNone then some i else t.free? (i + 1) n

/-- The free slot for a key: in the run from slot `i` on, or in one of so many that follow. A run that would go beyond the
table has one slot. -/
def slot? (t : Members) (i key : Nat) : Nat → Option Nat
  | 0 => none
  | n + 1 =>
    match t.free? i (if i + runLength < t.size then runLength else 0) with
    | some j => some j
    | none => t.slot? ((i * 5 + 1 + key / 32) % t.size) (key / 32) n

/-- The table with a member, where there is room. -/
def put (t : Members) (key : Nat) (v : Value) : Members :=
  match t.slot? (key % t.size) key (t.size + 64) with
  | some i => ⟨t.slots.setIfInBounds i (some (key, v))⟩
  | none => t

/-- The least size of a table for more members than so many. -/
def sizeFor (members : Nat) : Nat :=
  if members < leastSize then leastSize else Nat.pow 2 (members.log2 + 1)

/-- The members in a table of another size. -/
def resize (t : Members) (size : Nat) : Members :=
  t.toList.foldl (fun t m => t.put m.1 m.2) (empty size)

/-- Whether a table with so many members is too full. -/
def isFull (t : Members) (members : Nat) : Bool :=
  (t.size - 1) * 3 ≤ members * 5

/-- The number of members from which on a table grows less. -/
def many : Nat := 50001

/-- The table with one more member, of which there are then so many. -/
def add (t : Members) (members key : Nat) (v : Value) : Members :=
  let t := t.put key v
  if t.isFull members then t.resize (sizeFor (members * (if members < many then 4 else 2))) else t

/-- The table with some more members. -/
def addAll (t : Members) (members : Nat) : List (Nat × Value) → Members
  | [] => t
  | (key, v) :: r => (t.add (members + 1) key v).addAll (members + 1) r

/-- The key of a residue, which is not negative. -/
def keyOf (residue : Int) : Nat :=
  (Int.emod residue (Nat.pow 2 64)).toNat

/-- **The members of a set in the order in which it lists them.** -/
def inOrder (vs : List Value) : List Value :=
  match vs.mapM fun v => v.residue?.map fun n => (keyOf n, v) with
  | none => vs
  | some keyed =>
    let start := empty leastSize
    let start := if start.isFull vs.length then empty (sizeFor (vs.length * 2)) else start
    (start.addAll 0 keyed).toList.map (·.2)

end Members

end Landscape
