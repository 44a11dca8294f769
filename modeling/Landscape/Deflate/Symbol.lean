import Landscape.Deflate.Code
import Landscape.Deflate.Token

/-!
# Symbols of compressed data

Tokens are written as symbols of two alphabets. The first has the bytes, the end of a block, and ranges of
copy lengths; the second has ranges of distances. Which number of a range is meant stands in some bits
after the symbol (`Landscape.Deflate.Range`).
-/

namespace Landscape.Deflate

/-- A range of numbers, by its first number and the bits that tell its numbers apart. -/
structure Range where
  first : Nat
  bits : Nat
  deriving DecidableEq, Repr, Inhabited

/-- The ranges of copy lengths. The longest copy has a range of its own. -/
def lengthRanges : List Range :=
  [⟨3, 0⟩, ⟨4, 0⟩, ⟨5, 0⟩, ⟨6, 0⟩, ⟨7, 0⟩, ⟨8, 0⟩, ⟨9, 0⟩, ⟨10, 0⟩, ⟨11, 1⟩, ⟨13, 1⟩, ⟨15, 1⟩, ⟨17, 1⟩,
    ⟨19, 2⟩, ⟨23, 2⟩, ⟨27, 2⟩, ⟨31, 2⟩, ⟨35, 3⟩, ⟨43, 3⟩, ⟨51, 3⟩, ⟨59, 3⟩, ⟨67, 4⟩, ⟨83, 4⟩, ⟨99, 4⟩,
    ⟨115, 4⟩, ⟨131, 5⟩, ⟨163, 5⟩, ⟨195, 5⟩, ⟨227, 5⟩, ⟨258, 0⟩]

/-- The ranges of distances. -/
def distanceRanges : List Range :=
  [⟨1, 0⟩, ⟨2, 0⟩, ⟨3, 0⟩, ⟨4, 0⟩, ⟨5, 1⟩, ⟨7, 1⟩, ⟨9, 2⟩, ⟨13, 2⟩, ⟨17, 3⟩, ⟨25, 3⟩, ⟨33, 4⟩, ⟨49, 4⟩,
    ⟨65, 5⟩, ⟨97, 5⟩, ⟨129, 6⟩, ⟨193, 6⟩, ⟨257, 7⟩, ⟨385, 7⟩, ⟨513, 8⟩, ⟨769, 8⟩, ⟨1025, 9⟩, ⟨1537, 9⟩,
    ⟨2049, 10⟩, ⟨3073, 10⟩, ⟨4097, 11⟩, ⟨6145, 11⟩, ⟨8193, 12⟩, ⟨12289, 12⟩, ⟨16385, 13⟩, ⟨24577, 13⟩]

/-- The last range that begins no later than a number, and its place among the ranges. -/
def rangeOf (ranges : List Range) (n : Nat) : Nat × Range :=
  let place := (ranges.takeWhile fun r => r.first ≤ n).length - 1
  (place, ranges.getD place default)

/-- The symbol that ends a block. -/
def endOfBlock : Nat := 256

/-- The symbol of the first range of lengths. -/
def firstLengthSymbol : Nat := 257

/-- How many symbols the first alphabet has. -/
def mainSymbols : Nat := 286

/-- How many symbols the second alphabet has. -/
def distanceSymbols : Nat := 30

/-- A symbol with the bits that follow it. -/
structure Spelled where
  symbol : Nat
  bits : Nat := 0
  value : Nat := 0
  deriving DecidableEq, Repr, Inhabited

/-- A number by its range, where the first range has the symbol `first`. -/
def spellNumber (ranges : List Range) (first n : Nat) : Spelled :=
  let (place, r) := rangeOf ranges n
  ⟨first + place, r.bits, n - r.first⟩

namespace Token

/-- The symbol of a token in the first alphabet. -/
def main : Token → Spelled
  | .byte b => ⟨b.toNat, 0, 0⟩
  | .copy length _ => spellNumber lengthRanges firstLengthSymbol length

/-- The symbol of a token in the second alphabet: copies have one. -/
def distance? : Token → Option Spelled
  | .byte _ => none
  | .copy _ distance => some (spellNumber distanceRanges 0 distance)

/-- How many bytes a token stands for. -/
def size : Token → Nat
  | .byte _ => 1
  | .copy length _ => length

end Token

/-- How often each of the first symbols occurs. -/
def countSymbols (symbols : Nat) (spelled : List Spelled) : List Nat :=
  (spelled.foldl (fun (counts : Array Nat) s => counts.modify s.symbol (· + 1))
    (Array.replicate symbols 0)).toList

/-- A symbol in a code, with the bits that follow it. -/
def Spelled.bitsIn (c : Code) (s : Spelled) : List Bool :=
  c.word s.symbol ++ bitsUp s.bits s.value

/-- How many bits symbols take, with what follows them, if their words have these lengths. -/
def costOf (lengths : List Nat) (spelled : List Spelled) : Nat :=
  let lengths := lengths.toArray
  spelled.foldl (fun cost s => cost + (lengths.getD s.symbol 0 + s.bits)) 0

end Landscape.Deflate
