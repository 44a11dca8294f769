import Landscape.Text.Utf8

/-!
# Names of files

A file system knows names as bytes, and most of them are the bytes of a text. A byte that is no part of a character is
read as a half, the one whose number is `0xdc00` more, and where a text names a file such a half is that byte again
(`Landscape.FileName.bytes`). The other halves stand for no byte, so a text that holds one of them names no file
(`Landscape.FileName.stray?`).
-/

namespace Landscape.FileName

/-- Whether a half stands for a byte. -/
def isByte (n : Nat) : Bool :=
  0xdc80 ≤ n && n ≤ 0xdcff

/-- The bytes of a point; a half that stands for no byte has none. -/
def pointBytes : Point → List UInt8
  | .char c => Utf8.encodeChar c
  | .half n => if isByte n then [n.toUInt8] else []

/-- The bytes of a name. -/
def bytes (name : String) : List UInt8 :=
  (points name.toList).flatMap pointBytes

/-- The first half among some points that stands for no byte, with all the halves right behind it. The first of the
points has the given position. -/
def strayFrom? (position : Nat) : List Point → Option Utf8.HalfFault
  | [] => none
  | .char _ :: r => strayFrom? (position + 1) r
  | .half n :: r =>
    if isByte n then strayFrom? (position + 1) r else some ⟨position, n :: Utf8.leadingHalves r⟩

/-- The halves that keep a text from naming a file. -/
def stray? (s : List Char) : Option Utf8.HalfFault :=
  strayFrom? 0 (points s)

end Landscape.FileName
