import Landscape.Calendar
import Landscape.Number.Numeral

/-!
# Document values

A landscape document is made of values: nothing, truth values, integers, doubles, texts, bytes, dates,
moments, and lists, pairs, mappings and sets of values (`Landscape.Value`). Most fields of a landscape
expect a text, but a document may put any value into some of them, so the library carries values
through to its outputs.

This file holds the type and the questions the library asks of a value: its kind, whether it counts as
empty, whether it may be a key, and whether two values are the same
(`Landscape.Value.same`).
-/

namespace Landscape

/-- A value of a document. A collection that a document puts inside itself is written `again` at the
inner place. What is not a number carries the place that made it: two of them are the same only if
they come from one place. -/
inductive Value where
  | null
  | bool (b : Bool)
  | int (n : Int)
  | float (x : Double)
  | nan (place : Nat)
  | text (s : String)
  | bytes (bs : List UInt8)
  | date (d : Date)
  | moment (m : Moment)
  | list (items : List Value)
  | tuple (items : List Value)
  | mapping (entries : List (Value × Value))
  | set (items : List Value)
  | again (mapping : Bool)
  deriving Repr, Inhabited

/-- The kinds of values. -/
inductive Value.Kind where
  | null | bool | int | float | text | bytes | date | moment | list | tuple | mapping | set
  deriving DecidableEq, Repr

namespace Value

/-! ### Kinds -/

/-- The kind of a value. -/
def kind : Value → Kind
  | .null => .null
  | .bool _ => .bool
  | .int _ => .int
  | .float _ | .nan _ => .float
  | .text _ => .text
  | .bytes _ => .bytes
  | .date _ => .date
  | .moment _ => .moment
  | .list _ => .list
  | .tuple _ => .tuple
  | .mapping _ => .mapping
  | .set _ => .set
  | .again m => if m then .mapping else .list

/-- The name of a kind in messages. -/
def Kind.name : Kind → String
  | .null => "NoneType"
  | .bool => "bool"
  | .int => "int"
  | .float => "float"
  | .text => "str"
  | .bytes => "bytes"
  | .date => "date"
  | .moment => "datetime"
  | .list => "list"
  | .tuple => "tuple"
  | .mapping => "dict"
  | .set => "set"

/-- The name of a kind where the library speaks of what it can do; the kinds of the calendar are named in
full there. -/
def Kind.fullName : Kind → String
  | .date => "datetime.date"
  | .moment => "datetime.datetime"
  | k => k.name

/-! ### Parts -/

/-- The text of a value that is one. -/
def asText? : Value → Option String
  | .text s => some s
  | _ => none

/-- The number of a value that is a whole number or a truth value. -/
def asInt? : Value → Option Int
  | .int n => some n
  | .bool b => some b.toNat
  | _ => none

/-- The value that a list of entries gives for a text key. -/
def lookup? (key : String) : List (Value × Value) → Option Value
  | [] => none
  | (.text k, v) :: r => if k == key then some v else lookup? key r
  | _ :: r => lookup? key r

/-! ### Emptiness -/

/-- The values that count as nothing: null, false, zero, and empty texts and collections. -/
def isFalsy : Value → Bool
  | .null => true
  | .bool b => !b
  | .int n => n == 0
  | .float x => x.isZero
  | .text s => s.isEmpty
  | .bytes bs => bs.isEmpty
  | .list xs | .tuple xs | .set xs => xs.isEmpty
  | .mapping es => es.isEmpty
  | .nan _ | .date _ | .moment _ | .again _ => false

/-- The values that count as something. -/
def isTruthy (v : Value) : Bool :=
  !v.isFalsy

/-! ### Keys -/

mutual
/-- The kind of the first part of a value that keeps it from being a key. -/
def unhashable? : Value → Option Kind
  | .list _ => some .list
  | .mapping _ => some .mapping
  | .set _ => some .set
  | .again m => some (if m then .mapping else .list)
  | .tuple xs => unhashableAmong? xs
  | _ => none

/-- The kind of the first part of some values that keeps one of them from being a key. -/
def unhashableAmong? : List Value → Option Kind
  | [] => none
  | x :: xs => (unhashable? x).or (unhashableAmong? xs)
end

/-! ### Sameness -/

/-- Sameness of numbers of any kind, `none` if one of the values is no number. -/
def sameNumber? : Value → Value → Option Bool
  | .float x, .float y => some (x.sameNumber y)
  | .float x, w => w.asInt?.map x.equalsInt
  | v, .float y => v.asInt?.map y.equalsInt
  | v, w => do return (← v.asInt?) == (← w.asInt?)

mutual
/-- Sameness of values: numbers by their value, of whatever kind they are; lists and pairs part by
part; mappings by their entries and sets by their members, in any order. -/
def same : Value → Value → Bool
  | .null, .null => true
  | .nan p, .nan q => p == q
  | .text s, .text t => s == t
  | .bytes s, .bytes t => s == t
  | .date a, .date b => a == b
  | .moment a, .moment b => a.same b
  | .list xs, .list ys => sameItems xs ys
  | .tuple xs, .tuple ys => sameItems xs ys
  | .mapping es, .mapping fs => es.length == fs.length && sameEntries es fs
  | .set xs, .set ys => xs.length == ys.length && sameMembers xs ys
  | v, w => (sameNumber? v w).getD false

/-- Sameness item by item. -/
def sameItems : List Value → List Value → Bool
  | [], [] => true
  | x :: xs, y :: ys => same x y && sameItems xs ys
  | _, _ => false

/-- Whether each of the first entries is among the second. -/
def sameEntries : List (Value × Value) → List (Value × Value) → Bool
  | [], _ => true
  | (k, v) :: r, fs => fs.any (fun f => same k f.1 && same v f.2) && sameEntries r fs

/-- Whether each of the first values is among the second. -/
def sameMembers : List Value → List Value → Bool
  | [], _ => true
  | x :: xs, ys => ys.any (same x) && sameMembers xs ys
end

end Value

end Landscape
