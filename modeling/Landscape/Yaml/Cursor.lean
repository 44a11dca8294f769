import Landscape.Yaml.Fault

/-!
# Reading positions

A cursor is a place in a YAML text: what is left of the text, how many characters came before, and the
line and column of the place, both from zero (`Landscape.Yaml.Cursor`). Beyond the end of the text a
cursor shows the character U+0000, which no YAML text holds (`Landscape.Yaml.isAllowed`).
-/

namespace Landscape.Yaml

/-! ### Classes of characters -/

/-- The character that stands for the end of the text. -/
def endMark : Char := '\x00'

/-- The characters that end a line. -/
def isBreak (c : Char) : Bool :=
  c == '\n' || c == '\r' || c == '\x85' || c == '\u2028' || c == '\u2029'

/-- A line break or the end of the text. -/
def isBreakOrEnd (c : Char) : Bool :=
  c == endMark || isBreak c

/-- A space, a line break or the end of the text. -/
def isSpaceOrEnd (c : Char) : Bool :=
  c == ' ' || isBreakOrEnd c

/-- A space, a tab, a line break or the end of the text. -/
def isGapOrEnd (c : Char) : Bool :=
  c == '\t' || isSpaceOrEnd c

/-- The characters of anchors, handles and directive names. -/
def isNameChar (c : Char) : Bool :=
  c.isAlphanum || c == '-' || c == '_'

/-- The characters that a YAML text may hold. -/
def isAllowed (c : Char) : Bool :=
  let n := c.toNat
  n == 0x09 || n == 0x0a || n == 0x0d || (0x20 ≤ n && n ≤ 0x7e) || n == 0x85 ||
    (0xa0 ≤ n && n ≤ 0xd7ff) || (0xe000 ≤ n && n ≤ 0xfffd) || 0x10000 ≤ n

/-- The value of a hexadecimal digit. -/
def hexDigit? (c : Char) : Option Nat :=
  if '0' ≤ c && c ≤ '9' then some (c.toNat - '0'.toNat)
  else if 'a' ≤ c && c ≤ 'f' then some (c.toNat - 'a'.toNat + 10)
  else if 'A' ≤ c && c ≤ 'F' then some (c.toNat - 'A'.toNat + 10)
  else none

/-! ### Cursors -/

/-- A place in a text. -/
structure Cursor where
  rest : List Char
  index : Nat := 0
  line : Nat := 0
  column : Nat := 0
  deriving Repr

namespace Cursor

/-- The character `n` places ahead. -/
def peek (c : Cursor) (n : Nat := 0) : Char :=
  (c.rest.drop n).headD endMark

/-- A fault at this place. -/
def fail {α : Type} (c : Cursor) (f : Fault) : Reading α :=
  .error ⟨c.index, f⟩

/-- The place after one more character. A carriage return before a line feed does not end the line yet, and a
byte order mark has no width. -/
def next (c : Cursor) : Cursor :=
  match c.rest with
  | [] => c
  | ch :: r =>
    let ends := isBreak ch && !(ch == '\r' && r.headD endMark == '\n')
    { rest := r
      index := c.index + 1
      line := if ends then c.line + 1 else c.line
      column := if ends then 0 else if ch == '\ufeff' then c.column else c.column + 1 }

/-- The place after `n` more characters. -/
def advance (c : Cursor) : Nat → Cursor
  | 0 => c
  | n + 1 => c.next.advance n

/-- The characters up to the first that is not in a class, and the place of that one. -/
def span (c : Cursor) (p : Char → Bool) : List Char × Cursor :=
  let s := c.rest.takeWhile p
  (s, c.advance s.length)

/-- The place after all characters of a class that come next. -/
def skip (c : Cursor) (p : Char → Bool) : Cursor :=
  (c.span p).2

/-- The place after the next spaces. -/
def skipSpaces (c : Cursor) : Cursor :=
  c.skip (· == ' ')

/-- The place after a comment, if one begins here. -/
def skipComment (c : Cursor) : Cursor :=
  if c.peek == '#' then c.skip (!isBreak ·) else c

/-- The line break that stands here, and the place after it. All kinds of line break count as a line
feed, but for the line separator and the paragraph separator, which stay what they are. -/
def lineBreak (c : Cursor) : List Char × Cursor :=
  let ch := c.peek
  if ch == '\r' && c.peek 1 == '\n' then (['\n'], c.advance 2)
  else if ch == '\r' || ch == '\n' || ch == '\x85' then (['\n'], c.next)
  else if ch == '\u2028' || ch == '\u2029' then ([ch], c.next)
  else ([], c)

/-- Whether the three characters and then a gap stand here. -/
def marks (c : Cursor) (ch : Char) : Bool :=
  c.peek == ch && c.peek 1 == ch && c.peek 2 == ch && isGapOrEnd (c.peek 3)

/-- Whether a document boundary stands here, provided it is the beginning of a line. -/
def atBoundary (c : Cursor) : Bool :=
  c.marks '-' || c.marks '.'

end Cursor

end Landscape.Yaml
