import Landscape.Yaml.Scalar

/-!
# Tokens

A YAML text is a row of tokens (`Landscape.Yaml.Token`): indicators, anchors, tags and scalars as
they are written, and the beginnings and ends of block collections, which are not written but follow from
the indentation. `Landscape.Yaml.tokens` takes a text apart.

The difficulty is the key of a mapping without a question mark: that something is a key shows only
when the colon after it is met. Wherever such a key may begin, the place in the row is remembered as
a candidate, one for each open bracket; the colon turns the candidate into a mark, and the marks become
tokens when the row is complete (`Landscape.Yaml.withKeys`). A candidate is given up when its line ends
or when it is too long; if the key is required, because it stands where only a key can stand, that
is a fault.
-/

namespace Landscape.Yaml

/-! ### Tokens -/

/-- A directive before a document. -/
inductive Directive where
  | version (major minor : Nat)
  | handle (handle : String) (start : String)
  | other
  deriving DecidableEq, Repr

/-- A token of a YAML text. -/
inductive Token where
  | directive (d : Directive)
  | documentStart
  | documentEnd
  | streamEnd
  | blockSequenceStart
  | blockMappingStart
  | blockEnd
  | flowSequenceStart
  | flowSequenceEnd
  | flowMappingStart
  | flowMappingEnd
  | blockEntry
  | flowEntry
  | key
  | value
  | aliasTo (name : String)
  | anchor (name : String)
  | tag (handle : Option String) (suffix : String)
  | scalar (text : List Char) (plain : Bool)
  deriving DecidableEq, Repr

/-! ### Names, tags and directives -/

/-- An anchor or alias, from its indicator on. -/
def anchorName (c : Cursor) : Reading (String × Cursor) := do
  let (name, c) := c.next.span isNameChar
  if name.isEmpty then c.fail .badAnchor
  if !(isGapOrEnd c.peek || "?:,]\x7d%@\x60".toList.contains c.peek) then c.fail .badAnchor
  return (String.ofList name, c)

/-- A character that may stand in a tag as it is. -/
def isUriChar (c : Char) : Bool :=
  c.isAlphanum || "-;/?:@&=+$,_.!~*'()[]".toList.contains c

/-- The bytes of a row of percent escapes. -/
def percentEscapes : Nat → Cursor → Reading (List UInt8 × Cursor)
  | 0, c => .ok ([], c)
  | fuel + 1, c =>
    if c.peek != '%' then .ok ([], c)
    else do
      let (n, c) ← hexNumber c.next 2 .badTag
      let (bs, c) ← percentEscapes fuel c
      return (n.toUInt8 :: bs, c)

/-- The pieces of a tag from here on. -/
def uriPieces : Nat → Cursor → Reading (List Char × Cursor)
  | 0, c => .ok ([], c)
  | fuel + 1, c => do
    let (s, c) := c.span isUriChar
    if c.peek != '%' then return (s, c)
    let (bs, c) ← percentEscapes c.fuel c
    match Utf8.decode bs with
    | .error _ => c.fail .badTag
    | .ok t =>
      let (more, c) ← uriPieces fuel c
      return (s ++ spelled t ++ more, c)

/-- The text of a tag, which is not empty unless it comes from escapes. -/
def uri (c : Cursor) : Reading (String × Cursor) := do
  let begins := isUriChar c.peek || c.peek == '%'
  if !begins then c.fail .badTag
  let (s, c) ← uriPieces c.fuel c
  return (String.ofList s, c)

/-- A handle: an exclamation mark alone, or a name between two. -/
def tagHandle (c : Cursor) : Reading (String × Cursor) := do
  if c.peek != '!' then c.fail .badTag
  if c.peek 1 == ' ' then return ("!", c.next)
  let (name, d) := c.next.span isNameChar
  if d.peek != '!' then d.fail .badTag
  return (String.ofList ('!' :: name ++ ['!']), d.next)

/-- Whether another exclamation mark comes before the next space. -/
def hasSecondMark (s : List Char) : Bool :=
  (s.takeWhile (!isSpaceOrEnd ·)).contains '!'

/-- A tag, from its exclamation mark on. -/
def tagToken (c : Cursor) : Reading (Token × Cursor) := do
  let ch := c.peek 1
  let (t, c) ←
    if ch == '<' then do
      let (suffix, c) ← uri (c.advance 2)
      if c.peek != '>' then c.fail .badTag
      pure (Token.tag none suffix, c.next)
    else if isGapOrEnd ch then pure (Token.tag none "!", c.next)
    else do
      let (handle, c) ← if hasSecondMark (c.rest.drop 1) then tagHandle c else pure ("!", c.next)
      let (suffix, c) ← uri c
      pure (Token.tag (some handle) suffix, c)
  if !isSpaceOrEnd c.peek then c.fail .badTag
  return (t, c)

/-- A number of a version. -/
def versionNumber (c : Cursor) : Reading (Nat × Cursor) := do
  let (ds, d) := c.span Char.isDigit
  if ds.isEmpty then c.fail .badDirective
  if mostWholeDigits < ds.length then d.fail (.tooManyDigits ds.length)
  return (ofDigits 10 (ds.filterMap asciiDigit?), d)

/-- A directive, from its percent sign on to the end of its line. -/
def directiveToken (c : Cursor) : Reading (Token × Cursor) := do
  let (name, c) := c.next.span isNameChar
  if name.isEmpty || !isSpaceOrEnd c.peek then c.fail .badDirective
  let (d, c) ←
    if name == "YAML".toList then do
      let (major, c) ← versionNumber c.skipSpaces
      if c.peek != '.' then c.fail .badDirective
      let (minor, c) ← versionNumber c.next
      if !isSpaceOrEnd c.peek then c.fail .badDirective
      pure (Directive.version major minor, c)
    else if name == "TAG".toList then do
      let (handle, c) ← tagHandle c.skipSpaces
      if c.peek != ' ' then c.fail .badDirective
      let (start, c) ← uri c.skipSpaces
      if !isSpaceOrEnd c.peek then c.fail .badDirective
      pure (Directive.handle handle start, c)
    else pure (Directive.other, c.skip (!isBreak ·))
  let c := c.skipSpaces.skipComment
  if !isBreakOrEnd c.peek then c.fail .badDirective
  return (.directive d, c.lineBreak.2)

/-! ### Candidates for keys -/

/-- A place where a key may begin. -/
structure Candidate where
  /-- The number of the token that would be the key's first. -/
  number : Nat
  required : Bool
  index : Nat
  line : Nat
  column : Nat
  deriving Repr

/-- The longest key without a question mark, in characters. -/
def longestKey : Nat := 1024

/-- Whether a candidate can still become a key at a place. -/
def Candidate.isOpen (k : Candidate) (c : Cursor) : Bool :=
  k.line == c.line && c.index - k.index ≤ longestKey

/-- A key that was found: the number of its first token, and whether a block mapping begins with it. -/
structure KeyMark where
  number : Nat
  beginsMapping : Bool
  deriving Repr, DecidableEq

/-- The tokens with the keys put in where the marks say; `number` is the number of the first token. -/
def withKeys (marks : List KeyMark) (number : Nat) : List Token → List Token
  | [] => []
  | t :: ts =>
    let here := marks.filter (·.number == number)
    here.flatMap (fun k => if k.beginsMapping then [.blockMappingStart, .key] else [.key]) ++
      t :: withKeys marks (number + 1) ts

/-! ### The state between tokens -/

/-- What is known between two tokens. The candidate of the innermost bracket is `candidate`, those of
the brackets around it are `outer`, so the place is inside brackets iff `outer` is not empty. -/
structure Scan where
  cursor : Cursor
  /-- The tokens so far, the last one first, without the keys. -/
  tokens : List Token := []
  /-- How many tokens there are so far. -/
  count : Nat := 0
  marks : List KeyMark := []
  /-- The column of the innermost block collection, and those around it. -/
  indent : Option Nat := none
  indents : List (Option Nat) := []
  /-- Whether a key without a question mark may begin at the next token. -/
  keyAllowed : Bool := true
  candidate : Option Candidate := none
  outer : List (Option Candidate) := []

namespace Scan

/-- Whether the place is inside brackets. -/
def inFlow (s : Scan) : Bool :=
  !s.outer.isEmpty

/-- The least column that the lines of a scalar may have here. -/
def scalarIndent (s : Scan) : Nat :=
  (s.indent.map (· + 1)).getD 0

/-- Whether a column is deeper than that of the innermost block collection. -/
def isDeeper (column : Nat) (indent : Option Nat) : Bool :=
  indent.all (· < column)

/-- Adds a token. -/
def push (s : Scan) (t : Token) : Scan :=
  { s with tokens := t :: s.tokens, count := s.count + 1 }

/-- Goes on after a token of `n` characters. -/
def pushOver (s : Scan) (t : Token) (n : Nat) : Scan :=
  { s.push t with cursor := s.cursor.advance n }

/-- Gives a candidate up at a place; one that is required must not be. -/
def giveUp (c : Cursor) : Option Candidate → Reading Unit
  | some k => if k.required then c.fail .keyWithoutValue else .ok ()
  | none => .ok ()

/-- Without the candidate of the innermost bracket. -/
def dropCandidate (s : Scan) : Reading Scan := do
  giveUp s.cursor s.candidate
  return { s with candidate := none }

/-- The candidate, if it can still become a key. -/
def refresh (c : Cursor) : Option Candidate → Reading (Option Candidate)
  | some k => if k.isOpen c then .ok (some k) else do giveUp c (some k); return none
  | none => .ok none

/-- Without the candidates that can no longer become keys. -/
def refreshAll (s : Scan) : Reading Scan := do
  let candidate ← refresh s.cursor s.candidate
  let outer ← s.outer.mapM (refresh s.cursor)
  return { s with candidate, outer }

/-- How many tokens are sure not to become keys any more. -/
def settled (s : Scan) : Nat :=
  let pending := ((s.candidate :: s.outer).filterMap id).filter (·.isOpen s.cursor)
  (pending.map (·.number)).foldl min s.count

/-- Remembers that a key may begin here, if one may. In block context a key is required at the column of
the innermost collection. -/
def saveCandidate (s : Scan) : Reading Scan := do
  if !s.keyAllowed then return s
  let s ← s.dropCandidate
  let c := s.cursor
  let required := !s.inFlow && s.indent == some c.column
  return { s with candidate := some ⟨s.count, required, c.index, c.line, c.column⟩ }

/-- Ends the block collections that are deeper than a column; `none` is left of every column. -/
def unwindTo (column : Option Nat) : List (Option Nat) → Scan → Scan
  | [], s => s
  | i :: is, s =>
    match s.indent, column with
    | none, _ => s
    | some d, some c => if d ≤ c then s else unwindTo column is { s.push .blockEnd with indent := i, indents := is }
    | some _, none => unwindTo column is { s.push .blockEnd with indent := i, indents := is }

/-- Ends the block collections that are deeper than a column, unless the place is inside brackets. -/
def unwind (s : Scan) (column : Option Nat) : Scan :=
  if s.inFlow then s else unwindTo column s.indents s

/-- Begins a block collection at a column. -/
def indentTo (s : Scan) (column : Nat) : Scan :=
  { s with indent := some column, indents := s.indent :: s.indents }

/-- Begins a block collection here with a token, if the column is deeper than the collection around
it. -/
def openBlock (s : Scan) (t : Token) : Scan :=
  if isDeeper s.cursor.column s.indent then (s.indentTo s.cursor.column).push t else s

/-! ### From token to token -/

/-- Goes over spaces, comments and line breaks. After a line break in block context a key may begin. -/
def skipGaps : Nat → Scan → Scan
  | 0, s => s
  | fuel + 1, s =>
    let c := s.cursor.skipSpaces.skipComment
    if isBreak c.peek then
      skipGaps fuel { s with cursor := c.lineBreak.2, keyAllowed := s.keyAllowed || !s.inFlow }
    else { s with cursor := c }

/-- The end of the text, or a directive or document boundary, ends all block collections. -/
def boundary (s : Scan) : Reading Scan := do
  let s ← (s.unwind none).dropCandidate
  return { s with keyAllowed := false }

/-- An opening bracket. -/
def openBracket (s : Scan) (t : Token) : Reading Scan := do
  let s ← s.saveCandidate
  return { s.pushOver t 1 with
    keyAllowed := true, candidate := none, outer := s.candidate :: s.outer }

/-- A closing bracket; one that nothing opened is a fault. -/
def closeBracket (s : Scan) (t : Token) : Reading Scan := do
  let s ← s.dropCandidate
  match s.outer with
  | [] => s.cursor.fail (.expected "the node content")
  | k :: ks => return { s.pushOver t 1 with keyAllowed := false, candidate := k, outer := ks }

/-- A comma. -/
def comma (s : Scan) : Reading Scan := do
  let s ← s.dropCandidate
  return { s.pushOver .flowEntry 1 with keyAllowed := true }

/-- The dash of a sequence entry. -/
def dash (s : Scan) : Reading Scan := do
  if !s.inFlow && !s.keyAllowed then s.cursor.fail .misplacedEntry
  let s := if s.inFlow then s else s.openBlock .blockSequenceStart
  let s ← { s with keyAllowed := true }.dropCandidate
  return s.pushOver .blockEntry 1

/-- The question mark of a key. -/
def questionMark (s : Scan) : Reading Scan := do
  if !s.inFlow && !s.keyAllowed then s.cursor.fail .misplacedKey
  let s := if s.inFlow then s else s.openBlock .blockMappingStart
  let s ← { s with keyAllowed := !s.inFlow }.dropCandidate
  return s.pushOver .key 1

/-- The colon of a value. It turns the candidate into a key, if there is one; if not, the value stands
alone or follows a question mark. -/
def colon (s : Scan) : Reading Scan := do
  match s.candidate with
  | some k =>
    let begins := !s.inFlow && isDeeper k.column s.indent
    let s := if begins then s.indentTo k.column else s
    return { s.pushOver .value 1 with
      candidate := none, keyAllowed := false, marks := ⟨k.number, begins⟩ :: s.marks }
  | none =>
    if !s.inFlow && !s.keyAllowed then s.cursor.fail .misplacedValue
    let s := if s.inFlow then s else s.openBlock .blockMappingStart
    return { s.pushOver .value 1 with keyAllowed := !s.inFlow }

/-- A token that may begin a key, with the place after it. -/
def content (s : Scan) (read : Cursor → Reading (Token × Cursor)) : Reading Scan := do
  let s ← s.saveCandidate
  let (t, c) ← read s.cursor
  return { s.push t with cursor := c, keyAllowed := false }

/-- A plain scalar. If a line ended after it, a key may begin at the next token. -/
def plain (s : Scan) : Reading Scan := do
  let s ← s.saveCandidate
  let (text, crossed, c) := plainScalar s.inFlow s.scalarIndent s.cursor
  return { s.push (.scalar text true) with cursor := c, keyAllowed := crossed }

/-- A block scalar. -/
def block (s : Scan) (folded : Bool) : Reading Scan := do
  let s ← s.dropCandidate
  let (text, c) ← blockScalar folded (max s.scalarIndent 1) s.cursor
  return { s.push (.scalar text false) with cursor := c, keyAllowed := true }

/-- Whether a plain scalar may begin with a character before another. -/
def beginsPlain (inFlow : Bool) (ch after : Char) : Bool :=
  !(isGapOrEnd ch || "-?:,[]\x7b\x7d#&*!|>'\"%@\x60".toList.contains ch) ||
    (!isGapOrEnd after && (ch == '-' || (!inFlow && (ch == '?' || ch == ':'))))

/-- The next token, chosen by the character that it begins with. -/
def token (s : Scan) : Reading Scan :=
  let c := s.cursor
  let ch := c.peek
  let apart := isGapOrEnd (c.peek 1)
  if ch == '%' && c.column == 0 then do
    let s ← s.boundary
    let (t, c) ← directiveToken c
    return { s.push t with cursor := c }
  else if c.column == 0 && c.marks '-' then do return (← s.boundary).pushOver .documentStart 3
  else if c.column == 0 && c.marks '.' then do return (← s.boundary).pushOver .documentEnd 3
  else if ch == '[' then s.openBracket .flowSequenceStart
  else if ch == '\x7b' then s.openBracket .flowMappingStart
  else if ch == ']' then s.closeBracket .flowSequenceEnd
  else if ch == '\x7d' then s.closeBracket .flowMappingEnd
  else if ch == ',' then s.comma
  else if ch == '-' && apart then s.dash
  else if ch == '?' && (s.inFlow || apart) then s.questionMark
  else if ch == ':' && (s.inFlow || apart) then s.colon
  else if ch == '*' then s.content fun c => do
    let (name, c) ← anchorName c
    return (.aliasTo name, c)
  else if ch == '&' then s.content fun c => do
    let (name, c) ← anchorName c
    return (.anchor name, c)
  else if ch == '!' then s.content tagToken
  else if ch == '|' && !s.inFlow then s.block false
  else if ch == '>' && !s.inFlow then s.block true
  else if ch == '\'' || ch == '"' then s.content fun c => do
    let (text, c) ← quotedScalar (ch == '"') c
    return (.scalar text false, c)
  else if beginsPlain s.inFlow ch (c.peek 1) then s.plain
  else c.fail (.noToken ch)

/-- Goes on by a token, and answers whether it was the last. -/
def step (s : Scan) : Reading (Scan × Bool) := do
  let s ← (skipGaps s.cursor.fuel s).refreshAll
  let s := s.unwind (some s.cursor.column)
  if s.cursor.peek == endMark then return ((← s.boundary).push .streamEnd, true)
  return (← s.token, false)

/-- The tokens so far that are settled, with their keys. -/
def settledTokens (s : Scan) : List Token :=
  withKeys s.marks 0 (s.tokens.reverse.take s.settled)

end Scan

/-! ### Texts and their tokens -/

/-- A text that is read portion by portion: what can be read of it, and what is wrong with the portion after
that. -/
structure Source where
  text : List Char
  broken : Option Fault := none
  deriving Repr

/-- How many characters are read before the first token. -/
def readAhead : Nat := 2 * Utf8.portion

/-- A text of which all is there up to a fault. Characters that no YAML text may hold break a portion too. Two
portions are read at once, and if one of these is broken, nothing can be read. -/
def Source.of (text : List Char) (fault : Option Utf8.Fault) : Except Fault Source := do
  if let some f := fault then
    if text.length < readAhead then throw (.undecodable f)
  match text.findIdx? (!isAllowed ·) with
  | none => return { text, broken := fault.map .undecodable }
  | some i =>
    let wrong := Fault.forbiddenCharacter (text.getD i endMark)
    if i < readAhead then throw wrong
    return { text := text.take (i / Utf8.portion * Utf8.portion), broken := some wrong }

/-- The tokens of a text, up to its end or to a fault. What comes before the fault can be read, but for tokens that
might have become keys. -/
structure Row where
  tokens : List Token
  fault : Option Fault := none
  deriving Repr

namespace Scan

/-- The row that ends at a fault. -/
def endAt (s : Scan) (f : Fault) : Row :=
  { tokens := s.settledTokens, fault := some f }

/-- All tokens from here on. Where a broken text ends, its fault shows. -/
def run (source : Source) : Nat → Scan → Row
  | 0, s => s.endAt (.expected "the end of the text")
  | fuel + 1, s =>
    match s.step, source.broken with
    | .ok (t, last), none =>
      if last then { tokens := withKeys t.marks 0 t.tokens.reverse } else t.run source fuel
    | .ok (t, _), some f => if t.cursor.rest.isEmpty then s.endAt f else t.run source fuel
    | .error flaw, none => s.endAt flaw.fault
    | .error flaw, some f => s.endAt (if flaw.index < source.text.length then flaw.fault else f)

end Scan

/-- **The tokens of a text.** A byte order mark at its beginning is skipped. -/
def tokens (source : Source) : Row :=
  let c : Cursor := { rest := source.text }
  let c := if c.peek == '\ufeff' then c.next else c
  Scan.run source c.fuel { cursor := c }

end Landscape.Yaml
