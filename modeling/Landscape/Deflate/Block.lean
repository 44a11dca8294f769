import Landscape.Deflate.Symbol

/-!
# Blocks of compressed data

Tokens are written in blocks, each in the cheapest of three ways (`Landscape.Deflate.Block.bits`): as the bytes
they stand for, in a code that is the same for all, or in codes of the block's own. The lengths of its own
codes are then written in front, with runs of equal lengths drawn together
(`Landscape.Deflate.runs`), in a third code.
-/

namespace Landscape.Deflate

/-! ### Runs of lengths -/

/-- Part of a list of lengths: a length, the length before it some more times, or some zeros. -/
inductive Run where
  | length (l : Nat)
  | again (n : Nat)
  | zeros (n : Nat)
  deriving DecidableEq, Repr, Inhabited

/-- The symbol of a part. Few zeros and many zeros have symbols of their own. -/
def Run.spelled : Run → Spelled
  | .length l => ⟨l, 0, 0⟩
  | .again n => ⟨16, 2, n - 3⟩
  | .zeros n => if n ≤ 10 then ⟨17, 3, n - 3⟩ else ⟨18, 7, n - 11⟩

/-- The parts for `n` times the length `l`, where `before` is the length before it. -/
def runsOf (before : Option Nat) (l n : Nat) : List Run :=
  if l == 0 then if n < 3 then List.replicate n (.length 0) else [.zeros n]
  else if before == some l then if n < 3 then List.replicate n (.length l) else [.again n]
  else if n < 4 then List.replicate n (.length l) else [.length l, .again (n - 1)]

/-- How many equal lengths are drawn together at most. -/
def longestRun (before : Option Nat) (l : Nat) : Nat :=
  if l == 0 then 138 else if before == some l then 6 else 7

/-- A list of lengths in parts, each as long as it can be; `before` is the length before it. -/
def runs (before : Option Nat) : List Nat → List Run
  | [] => []
  | l :: ls =>
    let n := min (longestRun before l) ((ls.takeWhile (· == l)).length + 1)
    runsOf before l n ++ runs (some l) (ls.drop (n - 1))
termination_by ls => ls.length
decreasing_by simp only [List.length_drop, List.length_cons]; omega

/-! ### Codes of a block -/

/-- The longest word of a code. -/
def longestWord : Nat := 15

/-- The longest word of the code for lengths. -/
def longestLengthWord : Nat := 7

/-- The order in which the lengths of the code for lengths are written. -/
def lengthOrder : List Nat :=
  [16, 17, 18, 0, 8, 7, 9, 6, 10, 5, 11, 4, 12, 3, 13, 2, 14, 1, 15]

/-- The lengths of words that are the same for all blocks, first alphabet. -/
def fixedMain : List Nat :=
  List.replicate 144 8 ++ List.replicate 112 9 ++ List.replicate 24 7 ++ List.replicate 8 8

/-- The lengths of words that are the same for all blocks, second alphabet. -/
def fixedDistance : List Nat :=
  List.replicate 30 5

/-- A list without the zeros it ends with. -/
def dropZeros (ls : List Nat) : List Nat :=
  (ls.reverse.dropWhile (· == 0)).reverse

/-- A block: what it stands for, and its tokens. -/
structure Block where
  bytes : List UInt8
  tokens : List Token
  deriving Repr, Inhabited

namespace Block

/-- The symbols of the first alphabet, with the end. -/
def main (b : Block) : List Spelled :=
  b.tokens.map Token.main ++ [⟨endOfBlock, 0, 0⟩]

/-- The symbols of the second alphabet. -/
def distances (b : Block) : List Spelled :=
  b.tokens.filterMap Token.distance?

/-- The tokens in two codes, and the end. -/
def body (b : Block) (main distance : Code) : List Bool :=
  let main := main.toArray
  let distance := distance.toArray
  let write (c : Array (List Bool)) (s : Spelled) := c.getD s.symbol [] ++ bitsUp s.bits s.value
  b.tokens.flatMap (fun t => write main t.main ++ (t.distance?.map (write distance)).getD []) ++
    main.getD endOfBlock []

/-- What a block of its own codes begins with. -/
structure Header where
  main : List Nat
  distance : List Nat
  runs : List Run
  lengths : List Nat
  deriving Repr

/-- The lengths of the block's own codes, and how they are written. -/
def header (b : Block) : Header :=
  let main := dropZeros (codeLengths longestWord (countSymbols mainSymbols b.main))
  let distance := dropZeros (codeLengths longestWord (countSymbols distanceSymbols b.distances))
  let runs := runs none main ++ runs none distance
  let lengths := codeLengths longestLengthWord (countSymbols lengthOrder.length (runs.map Run.spelled))
  { main, distance, runs, lengths }

namespace Header

/-- The lengths of the code for lengths that are written, at least four of them. -/
def written (h : Header) : List Nat :=
  let ls := lengthOrder.map fun s => h.lengths.getD s 0
  ls.take (max 4 (dropZeros ls).length)

/-- How many bits the header takes. -/
def cost (h : Header) : Nat :=
  14 + 3 * h.written.length + costOf h.lengths (h.runs.map Run.spelled)

/-- The header. -/
def bits (h : Header) : List Bool :=
  let c := Code.ofLengths longestLengthWord h.lengths
  bitsUp 5 (h.main.length - firstLengthSymbol) ++ bitsUp 5 (h.distance.length - 1) ++
    bitsUp 4 (h.written.length - 4) ++ h.written.flatMap (bitsUp 3) ++
    h.runs.flatMap fun r => r.spelled.bitsIn c

end Header

/-! ### The three ways -/

/-- How many bytes some bits take, with the three bits that begin each block. -/
def bytesFor (bits : Nat) : Nat :=
  (bits + 3 + 7) / 8

/-- The bits up to the next byte, after so many bits. -/
def padding (n : Nat) : List Bool :=
  List.replicate ((8 - n % 8) % 8) false

/-- The block as the bytes it stands for, which begin with a byte; before the block there are `offset`
bits. -/
def stored (b : Block) (offset : Nat) (last : Bool) : List Bool :=
  let n := b.bytes.length
  [last, false, false] ++ padding (offset + 3) ++ bitsUp 16 n ++ bitsUp 16 (0xffff - n) ++
    b.bytes.flatMap fun x => bitsUp 8 x.toNat

/-- The block in the codes that are the same for all. -/
def fixed (b : Block) (last : Bool) : List Bool :=
  [last, true, false] ++
    b.body (Code.ofLengths longestWord fixedMain) (Code.ofLengths longestWord fixedDistance)

/-- The block in codes of its own. -/
def dynamic (b : Block) (h : Header) (last : Bool) : List Bool :=
  [last, false, true] ++ h.bits ++
    b.body (Code.ofLengths longestWord h.main) (Code.ofLengths longestWord h.distance)

/-- **The block in the cheapest way**: bytes if they save four, else the codes that are the same for all if
they are no worse than the block's own. -/
def bits (b : Block) (offset : Nat) (last : Bool) : List Bool :=
  let h := b.header
  let own := bytesFor (h.cost + costOf h.main b.main + costOf h.distance b.distances)
  let same := bytesFor (costOf fixedMain b.main + costOf fixedDistance b.distances)
  if b.bytes.length + 4 ≤ min own same then b.stored offset last
  else if same ≤ own then b.fixed last
  else b.dynamic h last

end Block

end Landscape.Deflate
