import Landscape.Host.FileName

/-!
# File paths

A path is absolute or relative and has parts (`Landscape.FilePath`). Reading a path from a text drops
empty parts and single dots, so there is one path for many texts; two dots stay, because what they
mean depends on the files. Two slashes at the beginning, but not three, make a root of their
own.
-/

namespace Landscape

/-- Where a path begins: at the current directory, at the root, or at the root with two slashes. -/
inductive FilePath.Root where
  | none | single | double
  deriving DecidableEq, Repr, Inhabited

/-- A path. -/
structure FilePath where
  root : FilePath.Root := .none
  parts : List String := []
  deriving DecidableEq, Repr, Inhabited

namespace FilePath

/-- The text of a root. -/
def Root.text : Root → String
  | .none => ""
  | .single => "/"
  | .double => "//"

/-- The root that a text begins with. -/
def Root.of : List Char → Root
  | '/' :: '/' :: '/' :: _ => .single
  | '/' :: '/' :: _ => .double
  | '/' :: _ => .single
  | _ => .none

/-- The path that a text gives. -/
def ofString (s : String) : FilePath :=
  let cs := s.toList
  let parts := (cs.splitOn '/').filter fun p => !p.isEmpty && p != ['.']
  { root := .of cs, parts := parts.map String.ofList }

/-- The text of a path; the current directory is a dot. -/
def toString (p : FilePath) : String :=
  if p.root == .none && p.parts.isEmpty then "." else p.root.text ++ "/".intercalate p.parts

instance : ToString FilePath := ⟨toString⟩

/-- Whether a path does not depend on the current directory. -/
def isAbsolute (p : FilePath) : Bool :=
  p.root != .none

/-- A path seen from another: an absolute one stays as it is. -/
def join (p q : FilePath) : FilePath :=
  if q.isAbsolute then q else { p with parts := p.parts ++ q.parts }

/-- The path that a text gives, seen from another. -/
def child (p : FilePath) (s : String) : FilePath :=
  p.join (.ofString s)

/-- The path without its last part; a path without parts is its own parent. -/
def parent (p : FilePath) : FilePath :=
  { p with parts := p.parts.dropLast }

/-! ### Names -/

/-- The last part of a path. -/
def name (p : FilePath) : String :=
  p.parts.getLast?.getD ""

/-- A name before and from its last dot. A dot at either end of the name does not count. -/
def splitName (name : String) : String × String :=
  let cs := name.toList
  let after := (cs.reverse.takeWhile (· != '.')).reverse
  let before := cs.take (cs.length - after.length - 1)
  if after.isEmpty || before.isEmpty || after.length == cs.length then (name, "")
  else (String.ofList before, String.ofList ('.' :: after))

/-- The last part of a path without its ending. -/
def stem (p : FilePath) : String :=
  (splitName p.name).1

/-- The ending of the last part of a path. -/
def suffix (p : FilePath) : String :=
  (splitName p.name).2

/-- All endings of the last part of a path. -/
def suffixes (p : FilePath) : List String :=
  if p.name.toList.getLast? == some '.' then []
  else
    let parts := (p.name.toList.dropWhile (· == '.')).splitOn '.'
    (parts.drop 1).map fun cs => String.ofList ('.' :: cs)

/-- Whether a path holds the character that no file name can hold. -/
def hasNul (p : FilePath) : Bool :=
  p.toString.contains '\x00'

/-- How many bytes a path has: its root, its parts and the slashes between these. -/
def byteLength (p : FilePath) : Nat :=
  if p.root == .none && p.parts.isEmpty then 1
  else p.root.text.length + (p.parts.flatMap FileName.bytes).length + (p.parts.length - 1)

/-- The path as a literal. -/
def literal (p : FilePath) : String :=
  "PosixPath(" ++ quoted p.toString ++ ")"

end FilePath

end Landscape
