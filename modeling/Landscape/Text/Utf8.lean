import Landscape.Number.Arithmetic
import Landscape.Text.LineBreak
import Landscape.Text.Literal

/-!
# UTF-8

A text becomes bytes by `Landscape.Utf8.encode`. Bytes become a text in two ways: strictly, where the
first sequence that is no character is a fault with a place and a reason (`Landscape.Utf8.decode`), and
with replacement, where each longest part that cannot be the beginning of a character becomes one
U+FFFD (`Landscape.Utf8.decodeLossy`). Both read one sequence at a time
(`Landscape.Utf8.read`).

A file is read in blocks, and a fault is placed from the beginning of its block; what a block leaves
over, because its last sequence is not finished, goes in front of the next. The characters are handed out in
portions, and a fault in a block comes up only when a portion needs the block
(`Landscape.Utf8.decodeFile`). A text that holds halves of characters has no bytes
(`Landscape.Utf8.encode?`).
-/

namespace Landscape.Utf8

/-! ### Encoding -/

/-- The bytes of one character. -/
def encodeChar (c : Char) : List UInt8 :=
  let n := c.toNat
  if n < 0x80 then [n.toUInt8]
  else if n < 0x800 then [(0xc0 + n / 0x40).toUInt8, (0x80 + n % 0x40).toUInt8]
  else if n < 0x10000 then
    [(0xe0 + n / 0x1000).toUInt8, (0x80 + n / 0x40 % 0x40).toUInt8, (0x80 + n % 0x40).toUInt8]
  else
    [(0xf0 + n / 0x40000).toUInt8, (0x80 + n / 0x1000 % 0x40).toUInt8,
      (0x80 + n / 0x40 % 0x40).toUInt8, (0x80 + n % 0x40).toUInt8]

/-- The bytes of a text. -/
def encode (s : List Char) : List UInt8 :=
  s.flatMap encodeChar

/-! ### One sequence -/

/-- Why bytes are no character. -/
inductive Reason where
  /-- No character begins with this byte. -/
  | startByte
  /-- The bytes begin a character, and the next byte does not go on with it. -/
  | continuation
  /-- The bytes begin a character, and there is no next byte. -/
  | truncated
  deriving DecidableEq, Repr

/-- What stands at the beginning of some bytes: a character of `width` bytes, or `width` bytes that
are none. -/
inductive Sequence where
  | character (c : Char) (width : Nat)
  | broken (reason : Reason) (width : Nat)
  deriving DecidableEq, Repr

/-- How many bytes follow a first byte, and between which bounds the second lies; `none` if no
character begins so. Overlong forms, surrogates and numbers beyond the last code point are ruled out
by the second byte. -/
def lead? (b : UInt8) : Option (Nat × UInt8 × UInt8) :=
  if b < 0x80 then some (0, 0, 0)
  else if b < 0xc2 then none
  else if b < 0xe0 then some (1, 0x80, 0xbf)
  else if b == 0xe0 then some (2, 0xa0, 0xbf)
  else if b == 0xed then some (2, 0x80, 0x9f)
  else if b < 0xf0 then some (2, 0x80, 0xbf)
  else if b == 0xf0 then some (3, 0x90, 0xbf)
  else if b < 0xf4 then some (3, 0x80, 0xbf)
  else if b == 0xf4 then some (3, 0x80, 0x8f)
  else none

/-- Goes on with a character of which `seen` bytes are read and `left` are missing; `value` holds the
bits so far, and the next byte lies between `lo` and `hi`. -/
def readRest (value seen : Nat) (lo hi : UInt8) : Nat → List UInt8 → Sequence
  | 0, _ => .character (Char.ofNat value) seen
  | _ + 1, [] => .broken .truncated seen
  | left + 1, b :: r =>
    if lo ≤ b && b ≤ hi then
      readRest (value * 0x40 + b.toNat % 0x40) (seen + 1) 0x80 0xbf left r
    else .broken .continuation seen

/-- Reads the sequence that begins with `b` and goes on in `r`. -/
def read (b : UInt8) (r : List UInt8) : Sequence :=
  match lead? b with
  | none => .broken .startByte 1
  | some (left, lo, hi) =>
    let bits := if left == 0 then b.toNat else b.toNat % Nat.pow 2 (6 - left)
    readRest bits 1 lo hi left r

/-! ### Strict decoding -/

/-- Bytes that are no character, with the place of the first of them. -/
structure Fault where
  position : Nat
  bytes : List UInt8
  reason : Reason
  deriving DecidableEq, Repr

/-- The words for a reason. -/
def Reason.words : Reason → String
  | .startByte => "invalid start byte"
  | .continuation => "invalid continuation byte"
  | .truncated => "unexpected end of data"

/-- What is no character, in words: one byte is shown, of several only the places. -/
def Fault.message (f : Fault) : String :=
  let what := match f.bytes with
    | [b] => "byte 0x" ++ String.ofList (hexDigits 2 b.toNat) ++ s!" in position {f.position}"
    | bs => s!"bytes in position {f.position}-{f.position + bs.length - 1}"
  "'utf-8' codec can't decode " ++ what ++ ": " ++ f.reason.words

/-- Whether bytes begin a sequence that is not finished at their end. The first two bytes of what would be
half of a UTF-16 pair count as well: they are judged together with the third. -/
def isUnfinished (b : UInt8) (r : List UInt8) : Bool :=
  match read b r, r with
  | .broken .truncated _, _ => true
  | _, [x] => b == 0xed && 0xa0 ≤ x && x ≤ 0xbf
  | _, _ => false

/-- The fault of a sequence that is not finished when no more bytes come. -/
def unfinishedFault (position : Nat) : List UInt8 → Fault
  | [] => ⟨position, [], .truncated⟩
  | b :: r =>
    match read b r with
    | .broken reason width => ⟨position, (b :: r).take width, reason⟩
    | .character .. => ⟨position, b :: r, .truncated⟩

/-- The characters of some bytes, up to the end or up to a sequence that is not finished there; that
sequence is given back. `position` is the place of the first byte. -/
def decodeBlock (position : Nat) (bs : List UInt8) : Except Fault (List Char × List UInt8) :=
  match bs with
  | [] => .ok ([], [])
  | b :: r =>
    match read b r with
    | .character c width => do
      let (cs, rest) ← decodeBlock (position + width) (r.drop (width - 1))
      .ok (c :: cs, rest)
    | .broken reason width =>
      if isUnfinished b r then .ok ([], b :: r) else .error ⟨position, (b :: r).take width, reason⟩
termination_by bs.length
decreasing_by simp only [List.length_drop, List.length_cons]; omega

/-- The text that some bytes encode, or the first fault. -/
def decode (bs : List UInt8) : Except Fault (List Char) := do
  match ← decodeBlock 0 bs with
  | (cs, []) => .ok cs
  | (_, rest) => .error (unfinishedFault (bs.length - rest.length) rest)

/-! ### Decoding files -/

/-- How many characters of a file are asked for at a time. -/
def portion : Nat := 4096

/-- How many bytes of a file are read at a time, at least. -/
def blockSize : Nat := 8192

/-- How far the reading of a file is. -/
structure FileReading where
  /-- The bytes that are not read yet. -/
  bytes : List UInt8
  /-- A sequence that the last block left unfinished. -/
  left : List UInt8 := []
  /-- Whether the last block ended with a carriage return, which may belong to a line feed. -/
  heldReturn : Bool := false
  /-- The characters that nobody has asked for yet. -/
  ready : List Char := []
  /-- How many bytes and characters the last block had. -/
  last : Nat × Nat := (0, 0)

/-- How many bytes are read for some missing characters: a block, or more if the last block says that so many
characters need more. -/
def blockLength (last : Nat × Nat) (missing : Nat) : Nat :=
  if last.2 == 0 then blockSize
  else
    match (Double.nearest false last.1 last.2).timesNat missing with
    | .finite _ m q =>
      let (num, den) := divideByPowerOfTwo m 1 (-q)
      max blockSize (num / den)
    | _ => blockSize

/-- Reads a block of a file, whose line breaks become line feeds. -/
def FileReading.readBlock (r : FileReading) (missing : Nat) : Except Fault FileReading := do
  let size := blockLength r.last missing
  let block := r.bytes.take size
  let (cs, left) ← decodeBlock 0 (r.left ++ block)
  let held := r.heldReturn && !cs.isEmpty
  let cs := if held then '\r' :: cs else cs
  let heldReturn := if cs.isEmpty then r.heldReturn else cs.getLast? == some '\r'
  let cs := unifyBreaks (if heldReturn then cs.dropLast else cs)
  return { bytes := r.bytes.drop size, left, heldReturn, ready := r.ready ++ cs,
           last := (block.length, cs.length) }

/-- Reads a file portion by portion, up to its end or to a fault; a portion with a fault is lost. -/
def FileReading.readAll : Nat → FileReading → List Char × Option Fault
  | 0, r => (r.ready, none)
  | fuel + 1, r =>
    if portion ≤ r.ready.length then
      let (more, fault) := { r with ready := r.ready.drop portion }.readAll fuel
      (r.ready.take portion ++ more, fault)
    else if r.bytes.isEmpty then
      if r.left.isEmpty then (r.ready ++ (if r.heldReturn then ['\n'] else []), none)
      else ([], some (unfinishedFault 0 r.left))
    else
      match r.readBlock (portion - r.ready.length) with
      | .ok r => r.readAll fuel
      | .error f => ([], some f)

/-- The text of a file that holds these bytes, up to its end or to the portion with the first fault. Every step takes
bytes or characters away, of which there are no more than bytes. -/
def decodeFile (bs : List UInt8) : List Char × Option Fault :=
  FileReading.readAll (2 * bs.length + 2) { bytes := bs }

/-! ### Texts without bytes -/

/-- Some halves in a row, which no bytes stand for: the place of the first, and their numbers. -/
structure HalfFault where
  position : Nat
  numbers : List Nat
  deriving DecidableEq, Repr

/-- What has no bytes, in words: one half is shown, of several only the places. -/
def HalfFault.message (f : HalfFault) : String :=
  let what := match f.numbers with
    | [n] => "character '" ++ String.ofList (codeEscape n) ++ s!"' in position {f.position}"
    | ns => s!"characters in position {f.position}-{f.position + ns.length - 1}"
  "'utf-8' codec can't encode " ++ what ++ ": surrogates not allowed"

/-- The numbers of the halves that some points begin with. -/
def leadingHalves : List Point → List Nat
  | .half n :: r => n :: leadingHalves r
  | _ => []

/-- The first halves among some points, of which the first has the given position. -/
def halvesFrom? (position : Nat) : List Point → Option HalfFault
  | [] => none
  | .half n :: r => some ⟨position, n :: leadingHalves r⟩
  | .char _ :: r => halvesFrom? (position + 1) r

/-- The first halves in a text. -/
def halves? (s : List Char) : Option HalfFault :=
  halvesFrom? 0 (points s)

/-- The characters of a text that holds no halves. -/
def plain? (s : List Char) : Except HalfFault (List Char) :=
  match halves? s with
  | some f => .error f
  | none => .ok ((plainChars? (points s)).getD [])

/-- The bytes of a text that holds no halves. -/
def encode? (s : List Char) : Except HalfFault (List UInt8) :=
  (plain? s).map encode

/-- Points that come of characters hold no halves. -/
theorem halvesFrom?_map (position : Nat) (cs : List Char) :
    halvesFrom? position (cs.map .char) = none := by
  induction cs generalizing position with
  | nil => rfl
  | cons c r ih => exact ih (position + 1)

/-- The text of some characters has these characters. -/
theorem plain?_spelled (cs : List Char) : plain? (spelled cs) = .ok cs := by
  simp [plain?, halves?, points_spelled, halvesFrom?_map, plainChars?_map]

/-- The text of some characters has their bytes. -/
theorem encode?_spelled (cs : List Char) : encode? (spelled cs) = .ok (encode cs) := by
  simp [encode?, plain?_spelled, Except.map]

/-! ### Decoding with replacement -/

/-- What stands for bytes that are no character. -/
def replacement : Char := '\ufffd'

/-- The text that some bytes encode, with one replacement for each part that encodes nothing. -/
def decodeLossy (bs : List UInt8) : List Char :=
  match bs with
  | [] => []
  | b :: r =>
    match read b r with
    | .character c width => c :: decodeLossy (r.drop (width - 1))
    | .broken _ width => replacement :: decodeLossy (r.drop (width - 1))
termination_by bs.length
decreasing_by all_goals (simp only [List.length_drop, List.length_cons]; omega)

end Landscape.Utf8
