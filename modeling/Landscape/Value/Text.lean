import Landscape.Number.Whole
import Landscape.Text.Literal
import Landscape.Value.Basic

/-!
# The text of a value

A value shows in diagrams as its text (`Landscape.Value.display`) and, inside collections and in
messages, as a literal (`Landscape.Value.literal`): a text is then quoted, and a date shows its
constructor. Things with fields are described alike, each field by its name and value
(`Landscape.described`).
-/

namespace Landscape.Value

/-- The word for a truth value. -/
def boolText (b : Bool) : String :=
  if b then "True" else "False"

/-- Some texts between brackets, with commas. -/
def bracketed (opening closing : String) (items : List String) : String :=
  opening ++ ", ".intercalate items ++ closing

mutual
/-- The literal of a value. -/
def literal : Value → String
  | .null => "None"
  | .bool b => boolText b
  | .int n => toString n
  | .float x => x.text
  | .nan _ => "nan"
  | .text s => quoted s
  | .bytes bs => String.ofList (bytesLiteral bs)
  | .date d => d.constructorText
  | .moment m => m.constructorText
  | .list xs => bracketed "[" "]" (literals xs)
  | .tuple [x] => "(" ++ literal x ++ ",)"
  | .tuple xs => bracketed "(" ")" (literals xs)
  | .mapping es => bracketed "\x7b" "\x7d" (entryLiterals es)
  | .set [] => "set()"
  | .set xs => bracketed "\x7b" "\x7d" (literals xs)
  | .again m => if m then "\x7b...\x7d" else "[...]"

/-- The literals of some values. -/
def literals : List Value → List String
  | [] => []
  | x :: xs => literal x :: literals xs

/-- The literals of some entries. -/
def entryLiterals : List (Value × Value) → List String
  | [] => []
  | (k, v) :: r => (literal k ++ ": " ++ literal v) :: entryLiterals r
end

mutual
/-- Whether a value has no literal, because a whole number in it has too many digits. -/
def hasLongNumber : Value → Bool
  | .int n => isLongNumber n
  | .list xs | .tuple xs | .set xs => anyLongNumber xs
  | .mapping es => longNumberAmong es
  | _ => false

/-- Whether one of some values has no literal. -/
def anyLongNumber : List Value → Bool
  | [] => false
  | x :: xs => hasLongNumber x || anyLongNumber xs

/-- Whether a key or value of some entries has no literal. -/
def longNumberAmong : List (Value × Value) → Bool
  | [] => false
  | (k, v) :: r => hasLongNumber k || hasLongNumber v || longNumberAmong r
end

/-- The text of a value as it shows in a diagram. -/
def display : Value → String
  | .text s => s
  | .date d => d.text
  | .moment m => m.text
  | v => v.literal

end Landscape.Value

namespace Landscape

/-! ### Descriptions -/

/-- A described thing: the name of its kind and its fields. -/
def described (kind : String) (fields : List (String × String)) : String :=
  Value.bracketed (kind ++ "(") ")" (fields.map fun f => f.1 ++ "=" ++ f.2)

/-- Described fields by their names alone. -/
def describedMapping (fields : List (String × String)) : String :=
  Value.bracketed "\x7b" "\x7d" (fields.map fun f => quoted f.1 ++ ": " ++ f.2)

/-- A described list. -/
def describedList (items : List String) : String :=
  Value.bracketed "[" "]" items

end Landscape
