/-!
# Identifiers of the DOT language

An identifier of DOT is written bare if it is a word of ASCII letters, digits and underscores that does not begin
with a digit, or a numeral, and is no keyword in any spelling; otherwise it stands in double quotes. Text
between angle brackets is markup to DOT, so it needs the quotes too, unless it is meant as markup.

In quotes only the quote itself is escaped (`Landscape.Dot.escapeQuotes`). Backslashes stay as they are,
but they must not swallow the escape of a quote: those before a quote count in pairs, and an odd
one becomes the escape.
-/

namespace Landscape.Dot

/-! ### Bare identifiers -/

/-- The words that DOT keeps for itself. -/
def keywords : List String :=
  ["node", "edge", "graph", "digraph", "subgraph", "strict"]

/-- A character that may begin a word. -/
def isWordStart (c : Char) : Bool :=
  c.isAlpha || c == '_'

/-- A character that may go on with a word. -/
def isWordChar (c : Char) : Bool :=
  c.isAlphanum || c == '_'

/-- A word. -/
def isWord : List Char → Bool
  | [] => false
  | c :: r => isWordStart c && r.all isWordChar

/-- A numeral without a sign: digits, perhaps with a point among or before or after them. -/
def isUnsignedNumeral (s : List Char) : Bool :=
  match s.dropWhile Char.isDigit with
  | [] => !s.isEmpty
  | '.' :: r => r.all Char.isDigit && (!r.isEmpty || s.head? != some '.')
  | _ => false

/-- A numeral. -/
def isNumeral : List Char → Bool
  | '-' :: r => isUnsignedNumeral r
  | s => isUnsignedNumeral s

/-- A word or a numeral. -/
def isPlain (s : List Char) : Bool :=
  isWord s || isNumeral s

/-- A text without the line break it ends with, if it ends with one. -/
def chompOne (s : List Char) : List Char :=
  if s.getLast? == some '\n' then s.dropLast else s

/-- A keyword in any spelling. -/
def isKeyword (s : List Char) : Bool :=
  keywords.contains (String.ofList (s.map Char.toLower))

/-- A text that needs no quotes. One line break after a word or numeral does no harm: it separates
tokens as a blank does. -/
def isBare (s : List Char) : Bool :=
  (isPlain s || isPlain (chompOne s)) && !isKeyword s

/-! ### Quotes -/

/-- The text with each quote escaped. Of the backslashes before a quote the pairs are kept and an odd one
is taken as the escape. -/
def escapeQuotes : List Char → List Char
  | '\\' :: '\\' :: r => '\\' :: '\\' :: escapeQuotes r
  | '\\' :: '"' :: r => '\\' :: '"' :: escapeQuotes r
  | '"' :: r => '\\' :: '"' :: escapeQuotes r
  | c :: r => c :: escapeQuotes r
  | [] => []

/-- A text as an identifier, with quotes if it needs them. -/
def quoteId (s : List Char) : List Char :=
  if isBare s then s else '"' :: escapeQuotes s ++ ['"']

/-- A text in angle brackets. -/
def isMarkup (s : List Char) : Bool :=
  match s with
  | '<' :: r => r.getLast? == some '>'
  | _ => false

/-- A text as an identifier or, in angle brackets, as markup. -/
def quoteIdOrMarkup (s : List Char) : List Char :=
  if isMarkup s then s else quoteId s

/-- A text with each backslash doubled, so that DOT shows it as written. -/
def escapeBackslashes (s : List Char) : List Char :=
  s.flatMap fun c => if c == '\\' then ['\\', '\\'] else [c]

/-! ### Ends of edges -/

/-- Splits at the first colon; the second part is absent if there is no colon. -/
def splitColon (s : List Char) : List Char × Option (List Char) :=
  match s.dropWhile (· != ':') with
  | [] => (s, none)
  | _ :: r => (s.takeWhile (· != ':'), some r)

/-- An end of an edge: a vertex, perhaps a place on its border, and perhaps a direction, with colons
between them. Vertex and place are quoted apart, and only a text without colon is surely no markup. -/
def edgeEnd (s : List Char) : List Char :=
  match splitColon s with
  | (_, none) => quoteId s
  | (vertex, some []) => quoteIdOrMarkup vertex
  | (vertex, some rest) =>
    let (place, direction) := splitColon rest
    quoteIdOrMarkup vertex ++ ':' :: quoteIdOrMarkup place ++
      match direction with
      | none | some [] => []
      | some d => ':' :: d

end Landscape.Dot
