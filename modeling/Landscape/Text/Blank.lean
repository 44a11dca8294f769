/-!
# Blank characters, and trimming

The blank characters of this library are the white space of Unicode together with the four
information separators: the controls from tab to carriage return, those from U+001C to the space, the
next-line control, and the space separators and line separators outside ASCII. This file says which
characters these are (`Landscape.isBlank`), takes them off both ends of a text (`Landscape.trim`) and
takes every run of them out of a text (`Landscape.removeBlankRuns`).
-/

namespace Landscape

/-! ### The class -/

/-- A character that separates words and is not part of one. -/
def isBlank (c : Char) : Bool :=
  let n := c.toNat
  (0x09 ≤ n && n ≤ 0x0d) || (0x1c ≤ n && n ≤ 0x20) || n == 0x85 || n == 0xa0 || n == 0x1680 ||
    (0x2000 ≤ n && n ≤ 0x200a) || n == 0x2028 || n == 0x2029 || n == 0x202f || n == 0x205f ||
    n == 0x3000

/-- A text that holds nothing but blanks. -/
def allBlank (s : List Char) : Bool :=
  s.all isBlank

/-! ### Trimming -/

/-- The text without the blanks it ends with. -/
def trimEnd (s : List Char) : List Char :=
  (s.reverse.dropWhile isBlank).reverse

/-- The text without the blanks at either end. -/
def trim (s : List Char) : List Char :=
  trimEnd (s.dropWhile isBlank)

/-! ### Runs of blanks -/

/-- The text with every longest run of blanks taken out: at a blank the whole run is skipped at
once, and any other character is kept. -/
def removeBlankRuns : List Char → List Char
  | [] => []
  | c :: r =>
    if isBlank c then removeBlankRuns (r.dropWhile isBlank) else c :: removeBlankRuns r
termination_by s => s.length
decreasing_by
  · have := (List.dropWhile_sublist isBlank (l := r)).length_le
    simp only [List.length_cons]; omega
  · simp

end Landscape
