import Landscape.Text.Half
import Landscape.Text.Printable

/-!
# Literals

Inside messages, lists and descriptions a text is written as a literal: in quotes, on one line, with
everything that does not print escaped. The quote is a single one unless the text holds a single
quote and no double one. Bytes are written alike, with a letter in front and all but printable
ASCII escaped.
-/

namespace Landscape

/-- A number in base sixteen with at least `width` digits. -/
def hexDigits (width n : Nat) : List Char :=
  let ds := Nat.toDigits 16 n
  List.replicate (width - ds.length) '0' ++ ds

/-- The escape of a character by its code point, of the shortest kind that has room for it. -/
def codeEscape (n : Nat) : List Char :=
  if n ≤ 0xff then '\\' :: 'x' :: hexDigits 2 n
  else if n ≤ 0xffff then '\\' :: 'u' :: hexDigits 4 n
  else '\\' :: 'U' :: hexDigits 8 n

/-- How a character is written in a literal with the given quote, where `plain` says which characters
may stand as they are. -/
def literalChar (plain : Char → Bool) (quote c : Char) : List Char :=
  if c == quote || c == '\\' then ['\\', c]
  else if c == '\t' then ['\\', 't']
  else if c == '\n' then ['\\', 'n']
  else if c == '\r' then ['\\', 'r']
  else if plain c then [c]
  else codeEscape c.toNat

/-- The quote for a literal: double only if the text holds single quotes and no double ones. -/
def literalQuote (s : List Char) : Char :=
  if s.contains '\'' && !s.contains '"' then '"' else '\''

/-- How a point is written in a literal with the given quote. -/
def literalPoint (quote : Char) : Point → List Char
  | .char c => literalChar isPrintable quote c
  | .half n => codeEscape n

/-- A text as a literal. -/
def textLiteral (s : List Char) : List Char :=
  let q := literalQuote s
  q :: (points s).flatMap (literalPoint q) ++ [q]

/-- A printable ASCII character. -/
def isPrintableAscii (c : Char) : Bool :=
  0x20 ≤ c.toNat && c.toNat ≤ 0x7e

/-- Bytes as a literal. -/
def bytesLiteral (bs : List UInt8) : List Char :=
  let s := bs.map fun b => Char.ofNat b.toNat
  let q := literalQuote s
  'b' :: q :: s.flatMap (literalChar isPrintableAscii q) ++ [q]

/-- A string as a literal. -/
def quoted (s : String) : String :=
  String.ofList (textLiteral s.toList)

end Landscape
