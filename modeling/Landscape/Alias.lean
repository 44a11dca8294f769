import Landscape.Text.Blank

/-!
# Aliases

A name is written for people and may hold blanks; a diagram needs an identifier for it. The **alias**
of a name (`Landscape.aliasOf`) is the trimmed name with every run of blanks inside taken out. Two
names that differ only in blanks share their alias, and nothing here prevents that.
-/

namespace Landscape

/-- The identifier that stands for `name` in diagram texts and file names. -/
def aliasOf (name : String) : String :=
  String.ofList (removeBlankRuns (trim name.toList))

end Landscape
