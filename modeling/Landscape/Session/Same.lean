import Landscape.Number.Residue
import Landscape.Session.Field

/-!
# Comparing things

Two things are the same if they are one; settings and diagrams are the same if what they hold is
(`Landscape.Session.same`). Things that can be looked up have a fingerprint (`Landscape.Session.fingerprint`).
What is the same has the same fingerprint, and now and then so have things that differ: numbers with the same
residue, or a format and the text of its name.
-/

namespace Landscape

/-! ### Fingerprints -/

/-- What things are looked up by. -/
inductive Fingerprint where
  | nothing
  | number (n : Int)
  | text (s : String)
  | path (p : FilePath)
  | thing (t : Thing)
  | place (n : Nat)
  | parts (xs : List Fingerprint)
  deriving BEq, Inhabited

namespace Fingerprint

/-- The fingerprint of a text; the empty one has that of zero. -/
def ofText (s : String) : Fingerprint :=
  if s.isEmpty then .number 0 else .text s

mutual
/-- The fingerprint of a value that can be looked up. -/
def ofValue : Value → Fingerprint
  | .null => .nothing
  | .bool b => .number b.toNat
  | .int n => .number (wholeResidue n)
  | .float x => (x.residue?.map Fingerprint.number).getD .nothing
  | .nan n => .place n
  | .text s => ofText s
  | .tuple xs => .parts (ofValues xs)
  | .bytes bs => .parts (bs.map fun b => .number b.toNat)
  | .date d => .parts [.text d.text]
  | .moment m => .parts [.text m.text]
  | .list _ | .mapping _ | .set _ | .again _ => .nothing

/-- The fingerprints of some values. -/
def ofValues : List Value → List Fingerprint
  | [] => []
  | x :: xs => ofValue x :: ofValues xs
end

end Fingerprint

namespace Session

/-! ### What a thing is compared by -/

/-- What settings and diagrams are compared by: what their fields hold, a renderer apart. Other things are
compared by which they are. -/
def comparedItems? (s : Session) (t : Thing) : Option (List Item) :=
  match t with
  | .settings _ | .config _ =>
    some ((s.kindOf t).fields.map fun f => (s.keptField? t f.name).getD .null)
  | .diagram i => some [.thing (.config i)]
  | _ => none

mutual
/-- Sameness of items, at most so many things deep. -/
def sameWithin (s : Session) (depth : Nat) : Item → Item → Bool
  | .value v, .value w => v.same w
  | .choice c, .choice d => c.same d
  | .path p, .path q => p == q
  | .list xs, .list ys => sameAll s depth xs ys
  | .call source format target, .call source' format' target' =>
    sameWithin s depth source source' && sameWithin s depth format format' && target == target'
  | .thing t, .thing u =>
    t == u ||
      match depth, s.comparedItems? t, s.comparedItems? u with
      | depth + 1, some xs, some ys => s.kindOf t == s.kindOf u && sameAll s depth xs ys
      | _, _, _ => false
  | _, _ => false
termination_by x => (depth, sizeOf x)

/-- Sameness item by item. -/
def sameAll (s : Session) (depth : Nat) : List Item → List Item → Bool
  | [], [] => true
  | x :: xs, y :: ys => sameWithin s depth x y && sameAll s depth xs ys
  | _, _ => false
termination_by xs => (depth, sizeOf xs)
end

/-- **Sameness of items.** -/
def same (s : Session) (x y : Item) : Bool :=
  s.sameWithin (s.size + 1) x y

/-! ### Looking up -/

mutual
/-- The fingerprint of an item, unless a part of it is a collection; at most so many things deep. -/
def fingerprintWithin (s : Session) (depth : Nat) : Item → Except Fault Fingerprint
  | .value v =>
    match v.unhashable? with
    | some kind => .error (.misuse (.notKey kind.name))
    | none => .ok (.ofValue v)
  | .choice .svg => .ok (.text Choice.svgName)
  | .choice .component => .ok (.text Choice.componentName)
  | .choice (.other v) => .ok (.ofValue v)
  | .path p => .ok (.path p)
  | .list _ => .error (.misuse (.notKey Value.Kind.list.name))
  | .thing t =>
    match depth, s.comparedItems? t with
    | depth + 1, some xs => do return .parts (← fingerprintsWithin s depth xs)
    | _, _ => .ok (.thing t)
  | .record _ => .error (.misuse (.notKey Value.Kind.mapping.name))
  | .call .. | .ability .. | .kind _ => .ok .nothing
termination_by x => (depth, sizeOf x)

/-- The fingerprints of some items. -/
def fingerprintsWithin (s : Session) (depth : Nat) : List Item → Except Fault (List Fingerprint)
  | [] => .ok []
  | x :: xs => do
    let f ← fingerprintWithin s depth x
    return f :: (← fingerprintsWithin s depth xs)
termination_by xs => (depth, sizeOf xs)
end

/-- **The fingerprint of an item**, unless it cannot be looked up. -/
def fingerprint (s : Session) (x : Item) : Except Fault Fingerprint :=
  s.fingerprintWithin (s.size + 1) x

/-- Whether two things are the same, and whether their fingerprints are. -/
def compare (a b : Thing) : Talk (Bool × Bool) := do
  let s ← get
  let f ← Step.of (s.fingerprint (.thing a))
  let g ← Step.of (s.fingerprint (.thing b))
  return (s.same (.thing a) (.thing b), f == g)

end Session

end Landscape
