import Landscape.Number.Digit
import Landscape.Yaml.Cursor

/-!
# Scalars as they are written

A scalar is written plain, in single or double quotes, or as a block, literal or folded. Each
notation has its own rules for line breaks, blanks and escapes; this file reads the four and gives the
text that is meant, with the place where reading ended.

The loops end with the text: each is given as much fuel as there are characters left.
-/

namespace Landscape.Yaml

/-- The most rounds that a loop over the rest of a text can take. -/
def Cursor.fuel (c : Cursor) : Nat :=
  c.rest.length + 1

/-- How a folded line break reads: alone it is a space; before empty lines, only these count; and a
break that is no line feed stays. -/
def foldBreak (lineBreak : List Char) (more : List Char) : List Char :=
  (if lineBreak != ['\n'] then lineBreak else if more.isEmpty then [' '] else []) ++ more

/-! ### Quoted scalars -/

/-- The escapes of one character in double quotes. -/
def escapes : List (Char × Char) :=
  [('0', '\x00'), ('a', '\x07'), ('b', '\x08'), ('t', '\t'), ('\t', '\t'), ('n', '\n'), ('v', '\x0b'),
    ('f', '\x0c'), ('r', '\r'), ('e', '\x1b'), (' ', ' '), ('"', '"'), ('\\', '\\'), ('/', '/'),
    ('N', '\x85'), ('_', '\xa0'), ('L', '\u2028'), ('P', '\u2029')]

/-- How many hexadecimal digits follow the letter of a numeric escape. -/
def escapeWidth? (c : Char) : Option Nat :=
  if c == 'x' then some 2 else if c == 'u' then some 4 else if c == 'U' then some 8 else none

/-- The number that the next hexadecimal digits give; `wrong` is the fault if there are too few of them. -/
def hexNumber (c : Cursor) (width : Nat) (wrong : Fault) : Reading (Nat × Cursor) :=
  let ds := (c.rest.take width).map hexDigit?
  if ds.length == width && ds.all Option.isSome then
    .ok (ofDigits 16 (ds.filterMap id), c.advance width)
  else (c.advance (ds.takeWhile Option.isSome).length).fail wrong

/-- The line breaks from here on, with the blanks around them dropped, for a quoted scalar. -/
def quotedBreaks : Nat → Cursor → Reading (List Char × Cursor)
  | 0, c => c.fail .unfinishedQuote
  | fuel + 1, c =>
    if c.atBoundary then c.fail .unfinishedQuote
    else
      let c := c.skip fun ch => ch == ' ' || ch == '\t'
      if isBreak c.peek then do
        let (b, c) := c.lineBreak
        let (bs, c) ← quotedBreaks fuel c
        return (b ++ bs, c)
      else .ok ([], c)

/-- The blanks and line breaks from here on, for a quoted scalar: blanks within a line stay, line
breaks are folded. -/
def quotedBlanks (c : Cursor) : Reading (List Char × Cursor) := do
  let (blanks, c) := c.span fun ch => ch == ' ' || ch == '\t'
  if c.peek == endMark then c.fail .unfinishedQuote
  if isBreak c.peek then
    let (b, c) := c.lineBreak
    let (bs, c) ← quotedBreaks c.fuel c
    return (foldBreak b bs, c)
  else return (blanks, c)

/-- An escape in double quotes, from the character after the backslash on. -/
def escapeSequence (c : Cursor) : Reading (List Char × Cursor) :=
  let ch := c.peek
  match escapes.lookup ch, escapeWidth? ch with
  | some x, _ => .ok ([x], c.next)
  | none, some width => do
    let (n, d) ← hexNumber c.next width .badEscape
    if 0x10ffff < n then d.fail (.noCodePoint n) else return (spellNumber n, d)
  | none, none =>
    if isBreak ch then quotedBreaks c.fuel c.lineBreak.2 else c.fail .badEscape

/-- The characters that end a run of ordinary ones in quotes. -/
def endsQuotedRun (c : Char) : Bool :=
  c == '\'' || c == '"' || c == '\\' || isGapOrEnd c

/-- A quoted scalar from inside the quotes on, with the place after the closing quote. -/
def quotedBody (double : Bool) : Nat → Cursor → Reading (List Char × Cursor)
  | 0, c => c.fail .unfinishedQuote
  | fuel + 1, c => do
    let (run, c) := c.span (!endsQuotedRun ·)
    let ch := c.peek
    let (piece, c) ←
      if ch == (if double then '"' else '\'') then
        if !double && c.peek 1 == '\'' then pure (['\''], c.advance 2) else return (run, c.next)
      else if ch == '\'' || ch == '"' then pure ([ch], c.next)
      else if ch == '\\' then if double then escapeSequence c.next else pure ([ch], c.next)
      else quotedBlanks c
    let (more, c) ← quotedBody double fuel c
    return (run ++ piece ++ more, c)

/-- A quoted scalar, from its opening quote on. -/
def quotedScalar (double : Bool) (c : Cursor) : Reading (List Char × Cursor) :=
  quotedBody double c.fuel c.next

/-! ### Plain scalars -/

/-- How many characters of a plain scalar come next without a gap. A colon ends it before a gap, and
inside brackets also before a bracket or comma; there brackets, commas and question marks end it
too. -/
def plainLength (flow : Bool) : List Char → Nat
  | [] => 0
  | ch :: r =>
    let after := r.headD endMark
    if isGapOrEnd ch then 0
    else if ch == ':' && (isGapOrEnd after || (flow && ",[]\x7b\x7d".toList.contains after)) then 0
    else if flow && ",?[]\x7b\x7d".toList.contains ch then 0
    else plainLength flow r + 1

/-- The line breaks and spaces from here on, for a plain scalar; nothing if a document boundary comes
among them. -/
def plainBreaks : Nat → Cursor → Option (List Char) × Cursor
  | 0, c => (some [], c)
  | fuel + 1, c =>
    if c.peek == ' ' then plainBreaks fuel c.next
    else if isBreak c.peek then
      let (b, c) := c.lineBreak
      if c.atBoundary then (none, c)
      else
        let (bs, c) := plainBreaks fuel c
        (bs.map (b ++ ·), c)
    else (some [], c)

/-- What lies between two pieces of a plain scalar: its text, empty if the scalar cannot go on, whether a
line ended, and the place after it. -/
def plainBlanks (c : Cursor) : List Char × Bool × Cursor :=
  let (blanks, c) := c.span (· == ' ')
  if isBreak c.peek then
    let (b, c) := c.lineBreak
    if c.atBoundary then ([], true, c)
    else
      match plainBreaks c.fuel c with
      | (none, c) => ([], true, c)
      | (some bs, c) => (foldBreak b bs, true, c)
  else (blanks, false, c)

/-- A plain scalar whose lines after the first have to be indented to the column `indent`; `before` is
what lies before the next piece and `crossed` whether a line ended there. The answer says whether a
line ended after the last piece. -/
def plainBody (flow : Bool) (indent : Nat) (before : List Char) (crossed : Bool) :
    Nat → Cursor → List Char × Bool × Cursor
  | 0, c => ([], crossed, c)
  | fuel + 1, c =>
    let n := plainLength flow c.rest
    if c.peek == '#' || n == 0 then ([], crossed, c)
    else
      let piece := c.rest.take n
      let (blanks, crossed, c) := plainBlanks (c.advance n)
      if blanks.isEmpty || c.peek == '#' || (!flow && c.column < indent) then
        (before ++ piece, crossed, c)
      else
        let (more, crossed, c) := plainBody flow indent blanks crossed fuel c
        (before ++ piece ++ more, crossed, c)

/-- A plain scalar, whether a line ended after it, and the place after it. -/
def plainScalar (flow : Bool) (indent : Nat) (c : Cursor) : List Char × Bool × Cursor :=
  plainBody flow indent [] false c.fuel c

/-! ### Block scalars -/

/-- What a block scalar does with the line breaks at its end. -/
inductive Chomping where
  | strip | clip | keep
  deriving DecidableEq, Repr

/-- The chomping that an indicator asks for. -/
def chomping? (c : Char) : Option Chomping :=
  if c == '+' then some .keep else if c == '-' then some .strip else none

/-- An indentation indicator, if a digit stands here; zero is none. -/
def increment? (c : Cursor) : Reading (Option Nat × Cursor) :=
  if c.peek.isDigit then
    let n := c.peek.toNat - '0'.toNat
    if n == 0 then c.fail .badBlockHeader else .ok (some n, c.next)
  else .ok (none, c)

/-- The indicators of a block scalar, in either order, up to the end of their line. -/
def blockHeader (c : Cursor) : Reading (Chomping × Option Nat × Cursor) := do
  let (chomping, increment, c) ←
    match chomping? c.peek with
    | some chomping => do
      let (increment, c) ← increment? c.next
      pure (chomping, increment, c)
    | none => do
      let (increment, c) ← increment? c
      match increment, chomping? c.peek with
      | some _, some chomping => pure (chomping, increment, c.next)
      | _, _ => pure (Chomping.clip, increment, c)
  if !isSpaceOrEnd c.peek then c.fail .badBlockHeader
  let c := c.skipSpaces.skipComment
  if !isBreakOrEnd c.peek then c.fail .badBlockHeader
  return (chomping, increment, c.lineBreak.2)

/-- The empty lines at the beginning of a block, the greatest column that their spaces reach, and the
place after them. -/
def blockIndentation (widest : Nat) : Nat → Cursor → List Char × Nat × Cursor
  | 0, c => ([], widest, c)
  | fuel + 1, c =>
    if c.peek == ' ' then
      let c := c.next
      blockIndentation (max widest c.column) fuel c
    else if isBreak c.peek then
      let (b, c) := c.lineBreak
      let (bs, widest, c) := blockIndentation widest fuel c
      (b ++ bs, widest, c)
    else ([], widest, c)

/-- Goes over spaces, but not beyond a column. -/
def skipTo (indent : Nat) : Nat → Cursor → Cursor
  | 0, c => c
  | fuel + 1, c => if c.column < indent && c.peek == ' ' then skipTo indent fuel c.next else c

/-- The empty lines of a block that is indented to a column, and the place after them and after the
indentation of the next line. -/
def blockBreaks (indent : Nat) : Nat → Cursor → List Char × Cursor
  | 0, c => ([], c)
  | fuel + 1, c =>
    let c := skipTo indent indent c
    if isBreak c.peek then
      let (b, c) := c.lineBreak
      let (bs, c) := blockBreaks indent fuel c
      (b ++ bs, c)
    else ([], c)

/-- The lines of a block from here on, `breaks` being the empty lines before this one. The answer ends
with the break of the last line and the empty lines after it, which are chomped later. -/
def blockLines (folded : Bool) (indent : Nat) (breaks : List Char) :
    Nat → Cursor → List Char × List Char × List Char × Cursor
  | 0, c => ([], [], breaks, c)
  | fuel + 1, c =>
    if c.column == indent && c.peek != endMark then
      let indented := c.peek == ' ' || c.peek == '\t'
      let (line, c) := c.span (!isBreak ·)
      let (b, c) := c.lineBreak
      let (bs, c) := blockBreaks indent c.fuel c
      if c.column == indent && c.peek != endMark then
        let between :=
          if folded && b == ['\n'] && !indented && c.peek != ' ' && c.peek != '\t' then
            if bs.isEmpty then [' '] else []
          else b
        let (text, last, ending, c) := blockLines folded indent bs fuel c
        (breaks ++ line ++ between ++ text, last, ending, c)
      else (breaks ++ line, b, bs, c)
    else ([], [], breaks, c)

/-- A block scalar from its indicator on, where `base` is the least column its lines may be indented to. -/
def blockScalar (folded : Bool) (base : Nat) (c : Cursor) : Reading (List Char × Cursor) := do
  let (chomping, increment, c) ← blockHeader c.next
  let (breaks, indent, c) := match increment with
    | some n =>
      let indent := base + n - 1
      let (breaks, c) := blockBreaks indent c.fuel c
      (breaks, indent, c)
    | none =>
      let (breaks, widest, c) := blockIndentation 0 c.fuel c
      (breaks, max base widest, c)
  let (text, last, ending, c) := blockLines folded indent breaks c.fuel c
  let tail := match chomping with
    | .strip => []
    | .clip => last
    | .keep => last ++ ending
  return (text ++ tail, c)

end Landscape.Yaml
