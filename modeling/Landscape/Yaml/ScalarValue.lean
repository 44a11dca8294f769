import Landscape.Number.Arithmetic
import Landscape.Number.Whole
import Landscape.Text.Case
import Landscape.Value.Basic
import Landscape.Yaml.Base64
import Landscape.Yaml.Tag

/-!
# The values of scalars

A scalar's tag says how its text is read: as a truth value, as a whole number in base two, eight, ten,
sixteen or sixty, as a double, as a timestamp, and so on (`Landscape.Yaml.scalarValue`). A text that
got its tag by its looks can nearly always be read; with a tag of its own it may be anything.
-/

namespace Landscape.Yaml

/-- The text without underscores. -/
def withoutLines (s : List Char) : List Char :=
  s.filter (· != '_')

/-- The sign that a number begins with, and what follows; a number has at least one character. -/
def splitSign : List Char → Except Fault (Bool × List Char)
  | [] => .error .emptyNumber
  | c :: r => .ok (if c == '-' then (true, r) else if c == '+' then (false, r) else (false, c :: r))

/-! ### Truth values -/

/-- The truth value of a word, in any spelling. -/
def boolValue (s : List Char) : Except Fault Value :=
  let word := smallLetters s
  let w := String.ofList word
  if ["yes", "true", "on"].contains w then .ok (.bool true)
  else if ["no", "false", "off"].contains w then .ok (.bool false)
  else .error (.notBool word)

/-! ### Whole numbers -/

/-- How many decimal digits a text begins with, after blanks and a sign. -/
def leadingDigits (s : List Char) : Nat :=
  let s := withoutSign (withAsciiDigits (s.dropWhile isNumeralBlank))
  (s.takeWhile Char.isDigit).length

/-- A whole number in a base. Too many decimal digits are noticed before anything else. -/
def wholeIn (base : Nat) (s : List Char) : Except Fault Int :=
  if base == 10 && mostWholeDigits < leadingDigits s then .error (.tooManyDigits (leadingDigits s))
  else (readWhole? base s).elim (.error (.notWhole base s)) .ok

/-- The number that groups in base sixty give, the first one counting most. -/
def sixties (groups : List Int) : Int :=
  groups.foldl (fun n g => n * 60 + g) 0

/-- A whole number without its sign: the beginning tells the base. -/
def unsignedInt (s : List Char) : Except Fault Int :=
  match s with
  | [] => .error .emptyNumber
  | ['0'] => .ok 0
  | '0' :: 'b' :: r => wholeIn 2 r
  | '0' :: 'x' :: r => wholeIn 16 r
  | '0' :: _ => wholeIn 8 s
  | _ => if s.contains ':' then sixties <$> (splitColons s).mapM (wholeIn 10) else wholeIn 10 s

/-- A whole number. -/
def intValue (s : List Char) : Except Fault Value := do
  let (negative, s) ← splitSign (withoutLines s)
  let n ← unsignedInt s
  return .int (if negative then -n else n)

/-! ### Doubles -/

/-- A double. -/
def doubleOf (s : List Char) : Except Fault Double :=
  (Double.read? s).elim (.error (.notDouble s)) .ok

/-- The double that groups in base sixty give, the last one first; `unit` is what the first of them counts, and `sum` is
what was added up before. -/
def doubleSixties (unit : Nat) (sum : Double) : List Double → Except Fault Double
  | [] => .ok sum
  | g :: gs =>
    match Double.ofInt? unit with
    | none => .error .tooManyGroups
    | some u => doubleSixties (unit * 60) (sum.add (g.times u)) gs

/-- A double; what is not a number is the same everywhere if it is spelled as YAML does, and otherwise
belongs to its place. -/
def floatValue (s : List Char) (place : Nat) : Except Fault Value := do
  let (negative, s) ← splitSign (smallLetters (withoutLines s))
  if s == ".nan".toList then return .nan 0
  let x ←
    if s == ".inf".toList then pure (Double.infinite false)
    else if s.contains ':' then do doubleSixties 1 (.zero false) (← (splitColons s).mapM doubleOf).reverse
    else doubleOf s
  return match if negative then x.negate else x with
    | .notANumber => .nan place
    | x => .float x

/-! ### Timestamps -/

/-- A date or a moment. -/
def timestampValue (s : List Char) : Except Fault Value :=
  match Timestamp.read? s with
  | none => .error .notTimestamp
  | some t =>
    match t.clock with
    | none => (Date.of t.year t.month t.day).mapError .calendar |>.map .date
    | some (hour, minute, second, fraction) =>
      let microsecond := ofDigits 10 ((fraction ++ List.replicate 6 0).take 6)
      (Moment.of t.year t.month t.day hour minute second microsecond t.offset).mapError .calendar
        |>.map .moment

/-! ### All scalars -/

/-- **The value of a scalar** by its tag; `place` tells it from every other scalar. Tags that are not for scalars
have no values here. -/
def scalarValue (tag : Tag) (s : List Char) (place : Nat) : Except Fault Value :=
  match tag with
  | .null => .ok .null
  | .bool => boolValue s
  | .int => intValue s
  | .float => floatValue s place
  | .binary => (decodeBase64 s).map .bytes
  | .timestamp => timestampValue s
  | .text => .ok (.text (String.ofList s))
  | .list | .mapping | .orderedMapping | .pairs | .set => .error .wrongStructure
  | .merge | .value | .other _ => .error .unknownTag

end Landscape.Yaml
