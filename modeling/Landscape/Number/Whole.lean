import Landscape.Number.Numeral

/-!
# Reading whole numbers

A whole number is read in a base up to sixteen (`Landscape.readWhole?`): blanks around it, a sign, the
letter of its base after a zero, and digits of any script with single underscores between
them.
-/

namespace Landscape

/-- The most decimal digits of a whole number that are read or written. -/
def mostWholeDigits : Nat := 4300

/-- Whether a whole number has more decimal digits than are written. -/
def isLongNumber (n : Int) : Bool :=
  Nat.pow 10 mostWholeDigits ≤ n.natAbs

/-- The letter that may stand after a zero before the digits of a base. -/
def baseLetter? (base : Nat) : Option Char :=
  if base == 2 then some 'b' else if base == 8 then some 'o' else if base == 16 then some 'x' else none

/-- The value of a digit or of a letter that stands for a digit. -/
def digitIn? (base : Nat) (c : Char) : Option Nat :=
  let c := c.toLower
  let d? := if c.isDigit then some (c.toNat - '0'.toNat)
    else if 'a' ≤ c && c ≤ 'f' then some (c.toNat - 'a'.toNat + 10)
    else none
  d?.filter (· < base)

/-- The digits of a whole number, each underscore standing between two of them. -/
def digitsIn? (base : Nat) : List Char → Option (List Nat)
  | [] => none
  | [c] => (digitIn? base c).map ([·])
  | c :: '_' :: r => do return (← digitIn? base c) :: (← digitsIn? base r)
  | c :: r => do return (← digitIn? base c) :: (← digitsIn? base r)

/-- The digits of a whole number, after the letter of its base if that stands there. -/
def baseDigits? (base : Nat) : List Char → Option (List Nat)
  | '0' :: c :: r =>
    if baseLetter? base == some c.toLower then
      digitsIn? base (match r with
        | '_' :: r => r
        | r => r)
    else digitsIn? base ('0' :: c :: r)
  | s => digitsIn? base s

/-- The digits of a whole number and whether it is negative; `none` if the text is no whole number. -/
def wholeDigits? (base : Nat) (s : List Char) : Option (Bool × List Nat) :=
  let s := ((s.dropWhile isNumeralBlank).reverse.dropWhile isNumeralBlank).reverse
  match withAsciiDigits s with
  | '-' :: r => (baseDigits? base r).map (true, ·)
  | '+' :: r => (baseDigits? base r).map (false, ·)
  | r => (baseDigits? base r).map (false, ·)

/-- **The whole number that a text stands for** in a base. -/
def readWhole? (base : Nat) (s : List Char) : Option Int :=
  (wholeDigits? base s).map fun (negative, ds) =>
    let n : Int := ofDigits base ds
    if negative then -n else n

end Landscape
