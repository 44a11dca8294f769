import Landscape.Calendar
import Landscape.Number.Digit

/-!
# Tags

A tag says what a node stands for (`Landscape.Yaml.Tag`). A scalar that is written plain and without a
tag gets the one that its text looks like (`Landscape.Yaml.Tag.ofPlain`): words such as `yes` are
truth values, `010` is a whole number in base eight, `1:30` one in base sixty, and `1e3`, which has no
point, is a text.

Timestamps are told apart by a grammar of their own (`Landscape.Yaml.Timestamp.read?`), which also
reads them.
-/

namespace Landscape.Yaml

/-- What a node stands for. -/
inductive Tag where
  | null | bool | int | float | binary | timestamp | text | list | mapping
  | orderedMapping | pairs | set
  /-- The key of a merge. -/
  | merge
  /-- The key of a default value. -/
  | value
  | other (name : String)
  deriving DecidableEq, Repr

/-- What the names of the common tags begin with. -/
def commonStart : String := "tag:yaml.org,2002:"

/-- The common tags by the ends of their names. -/
def commonTags : List (String × Tag) :=
  [("null", .null), ("bool", .bool), ("int", .int), ("float", .float), ("binary", .binary),
    ("timestamp", .timestamp), ("str", .text), ("seq", .list), ("map", .mapping),
    ("omap", .orderedMapping), ("pairs", .pairs), ("set", .set), ("merge", .merge), ("value", .value)]

/-- The tag of a name. -/
def Tag.ofName (name : String) : Tag :=
  ((commonTags.find? fun t => commonStart ++ t.1 == name).map (·.2)).getD (.other name)

/-- Whether nodes with the tag are collections. -/
def Tag.isOfCollections : Tag → Bool
  | .list | .mapping | .orderedMapping | .pairs | .set => true
  | _ => false

/-- Whether nodes with the tag are scalars. -/
def Tag.isOfScalars : Tag → Bool
  | .null | .bool | .int | .float | .binary | .timestamp | .text => true
  | _ => false

/-! ### Timestamps -/

/-- The parts of a timestamp as they are written. -/
structure Timestamp where
  year : Nat
  month : Nat
  day : Nat
  /-- Whether month and day have two digits each. -/
  full : Bool
  /-- Hour, minute, second and the digits of the fraction. -/
  clock : Option (Nat × Nat × Nat × List Nat)
  /-- The lead on universal time, in minutes. -/
  offset : Option Int
  deriving DecidableEq, Repr

namespace Timestamp

/-- Between `least` and `most` digits, as many as there are, with what follows. -/
def digits? (least most : Nat) (s : List Char) : Option (List Nat × List Char) :=
  let ds := (s.take most).takeWhile Char.isDigit
  if ds.length < least then none
  else some (ds.filterMap asciiDigit?, s.drop ds.length)

/-- One character, with what follows. -/
def sign? (c : Char) : List Char → Option (List Char)
  | d :: r => if d == c then some r else none
  | [] => none

/-- What follows some blanks. -/
def skipBlanks (s : List Char) : List Char :=
  s.dropWhile fun c => c == ' ' || c == '\t'

/-- The offset that ends a timestamp: nothing, the letter of universal time, or a sign, hours and perhaps
minutes. -/
def offset? (s : List Char) : Option (Option Int) :=
  match s, skipBlanks s with
  | [], _ => some none
  | _, ['Z'] => some (some 0)
  | _, c :: r =>
    if c == '+' || c == '-' then do
      let (hour, r) ← digits? 1 2 r
      let minutes ← match r with
        | [] => pure 0
        | r => do
          let (minute, r) ← digits? 2 2 (← sign? ':' r)
          if r.isEmpty then pure (ofDigits 10 minute) else none
      let n : Int := ofDigits 10 hour * 60 + minutes
      return some (if c == '-' then -n else n)
    else none
  | _, [] => none

/-- The time of day, with what follows. -/
def clock? (s : List Char) : Option ((Nat × Nat × Nat × List Nat) × List Char) := do
  let (hour, r) ← digits? 1 2 s
  let (minute, r) ← digits? 2 2 (← sign? ':' r)
  let (second, r) ← digits? 2 2 (← sign? ':' r)
  let (fraction, r) := match r with
    | '.' :: r => (r.takeWhile Char.isDigit |>.filterMap asciiDigit?, r.dropWhile Char.isDigit)
    | r => ([], r)
  return ((ofDigits 10 hour, ofDigits 10 minute, ofDigits 10 second, fraction), r)

/-- What separates the date from the time: a letter or blanks. -/
def gap? : List Char → Option (List Char)
  | 'T' :: r | 't' :: r => some r
  | ' ' :: r | '\t' :: r => some (skipBlanks r)
  | _ => none

/-- Reads a timestamp: a date, or a date and a time of day. -/
def readLine? (s : List Char) : Option Timestamp := do
  let (year, r) ← digits? 4 4 s
  let (month, r) ← digits? 1 2 (← sign? '-' r)
  let (day, r) ← digits? 1 2 (← sign? '-' r)
  let date (clock : Option (Nat × Nat × Nat × List Nat)) (offset : Option Int) : Timestamp :=
    { year := ofDigits 10 year, month := ofDigits 10 month, day := ofDigits 10 day
      full := month.length == 2 && day.length == 2, clock, offset }
  if r.isEmpty then return date none none
  let (clock, r) ← clock? (← gap? r)
  return date (some clock) (← offset? r)

/-- Reads a timestamp that may have a line break at its end. -/
def read? (s : List Char) : Option Timestamp :=
  readLine? (if s.getLast? == some '\n' then s.dropLast else s)

end Timestamp

/-! ### What a plain scalar looks like -/

/-- The words for nothing. -/
def nullWords : List String := ["", "~", "null", "Null", "NULL"]

/-- The words for truth values. -/
def boolWords : List String :=
  ["yes", "Yes", "YES", "no", "No", "NO", "true", "True", "TRUE", "false", "False", "FALSE",
    "on", "On", "ON", "off", "Off", "OFF"]

/-- A digit or an underscore. -/
def isDigitOrLine (c : Char) : Bool :=
  c.isDigit || c == '_'

/-- A text without the sign it may begin with. -/
def withoutSign : List Char → List Char
  | '+' :: r | '-' :: r => r
  | s => s

/-- A group of a number in base sixty: one or two digits, below sixty. -/
def isSixtieth : List Char → Bool
  | [a] => a.isDigit
  | [a, b] => '0' ≤ a && a ≤ '5' && b.isDigit
  | _ => false

/-- The parts of a text between colons. -/
def splitColons (s : List Char) : List (List Char) :=
  s.splitOn ':'

/-- The text of a whole number. -/
def looksLikeInt (s : List Char) : Bool :=
  let s := withoutSign s
  match s with
  | '0' :: 'b' :: r => !r.isEmpty && r.all fun c => c == '0' || c == '1' || c == '_'
  | '0' :: 'x' :: r => !r.isEmpty && r.all fun c =>
      isDigitOrLine c || ('a' ≤ c && c ≤ 'f') || ('A' ≤ c && c ≤ 'F')
  | '0' :: r => r.all fun c => ('0' ≤ c && c ≤ '7') || c == '_'
  | c :: _ =>
    c.isDigit &&
      match splitColons s with
      | first :: groups => first.all isDigitOrLine && groups.all isSixtieth
      | [] => false
  | [] => false

/-- The exponent of a double, if there is one: a letter, a sign and digits. -/
def isExponent : List Char → Bool
  | [] => true
  | c :: d :: r => (c == 'e' || c == 'E') && (d == '+' || d == '-') && !r.isEmpty && r.all Char.isDigit
  | _ => false

/-- The fraction of a double: digits and underscores, and an exponent. -/
def isFraction (s : List Char) : Bool :=
  isExponent (s.dropWhile isDigitOrLine)

/-- The text of a double. -/
def looksLikeFloat (s : List Char) : Bool :=
  let r := withoutSign s
  match s, r with
  | _, ['.', 'i', 'n', 'f'] | _, ['.', 'I', 'n', 'f'] | _, ['.', 'I', 'N', 'F'] => true
  | ['.', 'n', 'a', 'n'], _ | ['.', 'N', 'a', 'N'], _ | ['.', 'N', 'A', 'N'], _ => true
  | '.' :: d :: t, _ => d.isDigit && isFraction t
  | _, d :: t =>
    d.isDigit &&
      match t.dropWhile fun c => c != '.' with
      | [] => false
      | _ :: fraction =>
        match splitColons (d :: t.takeWhile (· != '.')) with
        | [whole] => whole.all isDigitOrLine && isFraction fraction
        | first :: groups =>
          first.all isDigitOrLine && groups.all isSixtieth && fraction.all isDigitOrLine
        | [] => false
  | _, _ => false

/-- The text of a timestamp: a date has to be written in full unless a time follows. -/
def looksLikeTimestamp (s : List Char) : Bool :=
  (Timestamp.readLine? s).any fun t => t.full || t.clock.isSome

/-- The words that only a scalar with the single exclamation mark can be, since they begin no plain one. -/
def indicatorWords : List String := ["!", "&", "*"]

/-- The tag that a text looks like. -/
def Tag.ofWord (s : List Char) : Tag :=
  let word := String.ofList s
  if boolWords.contains word then .bool
  else if looksLikeFloat s then .float
  else if looksLikeInt s then .int
  else if word == "<<" then .merge
  else if nullWords.contains word then .null
  else if looksLikeTimestamp s then .timestamp
  else if word == "=" then .value
  else if indicatorWords.contains word then .other (commonStart ++ "yaml")
  else .text

/-- The text without a line break at its end. -/
def withoutFinalBreak (s : List Char) : List Char :=
  if s.getLast? == some '\n' then s.dropLast else s

/-- The tag that a scalar gets by its text. A line break at the end does not count, unless there is nothing else. -/
def Tag.ofPlain (s : List Char) : Tag :=
  if s == ['\n'] then .text else .ofWord (withoutFinalBreak s)

end Landscape.Yaml
