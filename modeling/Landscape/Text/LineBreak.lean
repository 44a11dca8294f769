/-!
# Line breaks

Files end their lines with a line feed, with a carriage return, or with both. Read as a text, all of these
become a line feed (`Landscape.unifyBreaks`).
-/

namespace Landscape

/-- The text with one line feed for each line break. -/
def unifyBreaks : List Char → List Char
  | '\r' :: '\n' :: r => '\n' :: unifyBreaks r
  | '\r' :: r => '\n' :: unifyBreaks r
  | c :: r => c :: unifyBreaks r
  | [] => []

end Landscape
