import Landscape.Dot.Id

/-!
# DOT texts

A DOT text declares vertices with labels and joins them by edges. A statement
(`Landscape.Dot.Statement`) holds raw texts, and writing it quotes them; the text is the header, a
line for each statement, and the closing brace (`Landscape.Dot.text`).
-/

namespace Landscape.Dot

/-- A statement of a DOT text. -/
inductive Statement where
  | vertex (id label : List Char)
  | edge (tail head : List Char)
  deriving Repr, DecidableEq

/-- The line of a statement. -/
def Statement.line : Statement → List Char
  | .vertex id label =>
    '\t' :: quoteId id ++ " [label=".toList ++ quoteId label ++ "]\n".toList
  | .edge tail head =>
    '\t' :: edgeEnd tail ++ " -> ".toList ++ edgeEnd head ++ ['\n']

/-- The text of a simple directed graph: repeated edges count once. -/
def text (statements : List Statement) : List Char :=
  "strict digraph G \x7b\n".toList ++ statements.flatMap Statement.line ++ "\x7d\n".toList

end Landscape.Dot
