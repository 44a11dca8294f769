import Landscape.Deflate.Basic

/-!
# Reading compressed data

What was compressed can be read again, bit by bit (`Landscape.Deflate.inflate`). A reader takes bits from the front of
what is left and may fail (`Landscape.Deflate.Reader`). It knows the format alone and nothing of how the data were
compressed: it does not search, count or weigh, and of the codes it is told only the lengths of their words.

The last block says that it is the last, so whatever bits follow are not looked at.

What a reader makes of some bits whatever follows them is a judgment of its own (`Landscape.Deflate.Reads`), which is
put together like the readers themselves (`Landscape.Deflate.Reads.bind`).
-/

namespace Landscape.Deflate

/-! ### Readers -/

/-- The bits of some bytes, of each the least significant first. -/
def bitsOf (bytes : List UInt8) : List Bool :=
  bytes.flatMap fun b => bitsUp 8 b.toNat

/-- A reader, which takes bits from the front or fails. -/
abbrev Reader := StateT (List Bool) Option

/-- A number of `n` bits, the least significant first. -/
def readNumber (n : Nat) : Reader Nat := fun bits =>
  if n ≤ bits.length then some (ofBits (bits.take n), bits.drop n) else none

/-- The symbol whose word comes next. -/
def readSymbol (c : Code) : Reader Nat := fun bits =>
  (c.findIdx? fun w => !w.isEmpty && w.isPrefixOf bits).map fun s => (s, bits.drop (c.word s).length)

/-- Leaves out the bits up to the next byte. -/
def skipToByte : Reader Unit := fun bits =>
  some ((), bits.drop (bits.length % 8))

/-- So many of the same, one after the other. -/
def readMany {α : Type} (r : Reader α) : Nat → Reader (List α)
  | 0 => return []
  | n + 1 => do return (← r) :: (← readMany r n)

/-! ### Tokens -/

/-- A number of a range. -/
def readInRange (ranges : List Range) (place : Nat) : Reader Nat := do
  match ranges[place]? with
  | some r => return r.first + (← readNumber r.bits)
  | none => failure

/-- The next token of a block, or its end. -/
def readToken (main distance : Code) : Reader (Option Token) := do
  let s ← readSymbol main
  if s < endOfBlock then return some (.byte s.toUInt8)
  else if s = endOfBlock then return none
  else
    let length ← readInRange lengthRanges (s - firstLengthSymbol)
    let back ← readInRange distanceRanges (← readSymbol distance)
    return some (.copy length back)

/-- Whether a token can be expanded after some data: a copy does not reach back beyond their beginning. -/
def Token.isWithin (data : Array UInt8) : Token → Bool
  | .byte _ => true
  | .copy _ distance => 0 < distance && distance ≤ data.size

/-- The tokens up to the end of a block, expanded after the data before it. A token takes bits. -/
def readTokens (main distance : Code) (data : Array UInt8) (bits : List Bool) :
    Option (Array UInt8 × List Bool) :=
  match readToken main distance bits with
  | none => none
  | some (none, rest) => some (data, rest)
  | some (some t, rest) =>
    if rest.length < bits.length && t.isWithin data then readTokens main distance (t.append data) rest
    else none
termination_by bits.length
decreasing_by simp_all

/-! ### The codes of a block -/

/-- Part of a list of lengths. -/
def readRun (c : Code) : Reader Run := do
  let s ← readSymbol c
  if s ≤ longestWord then return .length s
  else if s = 16 then return .again (3 + (← readNumber 2))
  else if s = 17 then return .zeros (3 + (← readNumber 3))
  else return .zeros (11 + (← readNumber 7))

/-- The lengths that a part stands for, after some others. -/
def Run.expand (before : List Nat) : Run → Option (List Nat)
  | .length l => some [l]
  | .again n => before.getLast?.map (List.replicate n)
  | .zeros n => some (List.replicate n 0)

/-- Lengths in parts, of which so many are missing. Each part has some of them. -/
def readLengths (c : Code) (before : List Nat) (missing : Nat) : Reader (List Nat) :=
  if missing = 0 then return before
  else do
    match (← readRun c).expand before with
    | some (l :: ls) =>
      if ls.length < missing then readLengths c (before ++ l :: ls) (missing - (ls.length + 1)) else failure
    | _ => failure
termination_by missing
decreasing_by omega

/-- The lengths of the code for lengths, by their symbols. What is not written is zero. -/
def lengthsInOrder (written : List Nat) : List Nat :=
  (List.range lengthOrder.length).map fun s => written.getD (lengthOrder.idxOf s) 0

/-- The lengths of the two codes of a block. -/
def readHeader : Reader (List Nat × List Nat) := do
  let main := (← readNumber 5) + firstLengthSymbol
  let distance := (← readNumber 5) + 1
  let written ← readMany (readNumber 3) ((← readNumber 4) + 4)
  let c := Code.ofLengths longestLengthWord (lengthsInOrder written)
  let lengths ← readLengths c [] (main + distance)
  return (lengths.take main, lengths.drop main)

/-! ### Blocks -/

/-- Bytes as they are, after the data before them. Their number comes first, and once more with its bits turned. -/
def readBytes (data : Array UInt8) : Reader (Array UInt8) := do
  let n ← readNumber 16
  let complement ← readNumber 16
  if n + complement = 0xffff then
    let bytes ← readMany (readNumber 8) n
    return data ++ (bytes.map Nat.toUInt8).toArray
  else failure

/-- Bytes as they are, from the next byte on. -/
def readStored (data : Array UInt8) : Reader (Array UInt8) := do
  skipToByte
  readBytes data

/-- What a block stands for, after the data before it, if it is written in the way of this number. -/
def readBody (data : Array UInt8) : Nat → Reader (Array UInt8)
  | 0 => readStored data
  | 1 => readTokens (Code.ofLengths longestWord fixedMain) (Code.ofLengths longestWord fixedDistance) data
  | 2 => do
    let (main, distance) ← readHeader
    readTokens (Code.ofLengths longestWord main) (Code.ofLengths longestWord distance) data
  | _ => failure

/-- A block, expanded after the data before it, and whether it is the last. -/
def readBlock (data : Array UInt8) : Reader (Array UInt8 × Bool) := do
  let last ← readNumber 1
  let data ← readBody data (← readNumber 2)
  return (data, last == 1)

/-- The blocks up to the last one, expanded one after the other. A block takes bits. -/
def readBlocks (data : Array UInt8) (bits : List Bool) : Option (Array UInt8) :=
  match readBlock data bits with
  | none => none
  | some ((data, true), _) => some data
  | some ((data, false), rest) => if rest.length < bits.length then readBlocks data rest else none
termination_by bits.length

/-- **The data of which some bytes are the compressed form**, perhaps with others after it. -/
def inflate (bytes : List UInt8) : Option (List UInt8) :=
  (readBlocks #[] (bitsOf bytes)).map Array.toList

/-! ### What is read whatever follows -/

/-- A reader **reads** some bits as something if it takes these bits and no others, whatever follows them. -/
def Reads {α : Type} (r : Reader α) (bits : List Bool) (a : α) : Prop :=
  ∀ rest, r.run (bits ++ rest) = some (a, rest)

variable {α β : Type} {r : Reader α} {next : α → Reader β} {bits bits' : List Bool} {a : α} {b : β}

theorem reads_pure (a : α) : Reads (pure a) [] a :=
  fun _ => rfl

/-- **One reader after the other.** -/
theorem Reads.bind (h : Reads r bits a) (h' : Reads (next a) bits' b) : Reads (r >>= next) (bits ++ bits') b := by
  intro rest
  rw [List.append_assoc, StateT.run_bind, h]
  exact h' rest

/-- What is read and then only changed. -/
theorem Reads.map (h : Reads r bits a) (f : α → β) : Reads (do return f (← r)) bits (f a) :=
  List.append_nil bits ▸ h.bind (reads_pure (f a))

end Landscape.Deflate
