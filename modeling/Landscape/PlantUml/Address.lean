import Landscape.Deflate.Basic
import Landscape.Text.Utf8

/-!
# Texts in addresses

A PlantUML server draws the text that stands in the address it is asked for. The text is compressed, and the
bytes are written in 64 letters, three bytes in four letters (`Landscape.PlantUml.encode`).
-/

namespace Landscape.PlantUml

/-- The letters, by their numbers. -/
def letters : List Char :=
  "0123456789ABCDEFGHIJKLMNOPQRSTUVWXYZabcdefghijklmnopqrstuvwxyz-_".toList

/-- The letter of a number below 64. -/
def letter (n : Nat) : Char :=
  letters.getD n '0'

/-- The letters of three bytes. -/
def lettersOf (a b c : UInt8) : List Char :=
  let n := a.toNat * 0x10000 + b.toNat * 0x100 + c.toNat
  [letter (n / 0x40000), letter (n / 0x1000 % 0x40), letter (n / 0x40 % 0x40), letter (n % 0x40)]

/-- Bytes in letters. If the last bytes are not three, zeros stand for what is missing. -/
def spell : List UInt8 → List Char
  | [] => []
  | [a] => lettersOf a 0 0
  | [a, b] => lettersOf a b 0
  | a :: b :: c :: r => lettersOf a b c ++ spell r

/-- **A text in an address**: its UTF-8, compressed, in letters. -/
def encode (text : String) : String :=
  String.ofList (spell (Deflate.compress (Utf8.encode text.toList)))

end Landscape.PlantUml
