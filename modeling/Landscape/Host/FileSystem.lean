import Landscape.Host.FilePath

/-!
# File systems

A file system is a tree of directories and files (`Landscape.FileSystem`), kept as the list of all places
that are taken, each by the names that lead to it from the root. Following a path goes from directory to
directory (`Landscape.FileSystem.follow`); two dots go up. Every operation either happens as a whole
or fails for one of a few reasons and changes nothing (`Landscape.FileFault`).

## What is left out

These are the files of somebody who may do everything with them, on a medium with room for everything:

* there are no links, so what lies up from a directory is the directory that its place lies in;
* there are no rights to be lacked, no full media and no broken ones, so the reasons of `Landscape.FileFault` are all
  there are;
* nobody else changes anything in between;
* names are told apart by their texts. A name in a tree has the text that its bytes are read as, so halves in it stand
  for bytes that are no part of a character. A path that spells the bytes of a character by halves leads past the file
  whose name is written with the character.
-/

namespace Landscape

/-! ### Faults -/

/-- Why an operation on a path fails. A file system may have other reasons, of which none comes up here. -/
inductive FileFault.Reason where
  | missing | exists | notDirectory | isDirectory | nameTooLong
  deriving DecidableEq, Repr

/-- An operation that failed, and the path it was about. -/
structure FileFault where
  reason : FileFault.Reason
  path : String
  deriving DecidableEq, Repr

/-- The number of a reason. -/
def FileFault.Reason.number : Reason → Nat
  | .missing => 2
  | .exists => 17
  | .notDirectory => 20
  | .isDirectory => 21
  | .nameTooLong => 36

/-- The words for a reason. -/
def FileFault.Reason.words : Reason → String
  | .missing => "No such file or directory"
  | .exists => "File exists"
  | .notDirectory => "Not a directory"
  | .isDirectory => "Is a directory"
  | .nameTooLong => "File name too long"

/-- What failed, in words. -/
def FileFault.message (f : FileFault) : String :=
  s!"[Errno {f.reason.number}] {f.reason.words}: " ++ quoted f.path

/-! ### The tree -/

/-- What is at a place. -/
inductive Entry where
  | directory
  | file (bytes : List UInt8)
  deriving DecidableEq, Repr

/-- The places that are taken, by the names that lead to them. The root is always a directory. -/
structure FileSystem where
  entries : List (List String × Entry) := []
  deriving DecidableEq, Repr, Inhabited

namespace FileSystem

/-- What is at a place. -/
def find? (fs : FileSystem) (place : List String) : Option Entry :=
  if place.isEmpty then some .directory else fs.entries.lookup place

/-- Puts something at a place, instead of what is there. -/
def put (fs : FileSystem) (place : List String) (e : Entry) : FileSystem :=
  if (fs.entries.lookup place).isSome then
    ⟨fs.entries.map fun x => if x.1 == place then (place, e) else x⟩
  else ⟨fs.entries ++ [(place, e)]⟩

/-- The most bytes that a name may have. -/
def longestName : Nat := 255

/-- The most bytes that a path may have. -/
def longestPath : Nat := 4095

/-- Follows names from a directory: the place they lead to and what is there. Only the last name may lead to
nothing or to a file. -/
def followFrom (fs : FileSystem) (place : List String) :
    List String → Except FileFault.Reason (List String × Option Entry)
  | [] => .ok (place, some .directory)
  | name :: rest =>
    if longestName < (FileName.bytes name).length then .error .nameTooLong
    else if name == ".." then fs.followFrom place.dropLast rest
    else
      let next := place ++ [name]
      match fs.find? next with
      | some .directory => fs.followFrom next rest
      | e =>
        if rest.isEmpty then .ok (next, e)
        else .error (if e.isNone then .missing else .notDirectory)

/-- Follows a path, where `here` is the current directory. -/
def follow (fs : FileSystem) (here : List String) (p : FilePath) :
    Except FileFault (List String × Option Entry) :=
  let failed (r : FileFault.Reason) : FileFault := ⟨r, p.toString⟩
  if longestPath < p.byteLength then .error (failed .nameTooLong)
  else (fs.followFrom (if p.isAbsolute then [] else here) p.parts).mapError failed

/-! ### Operations -/

/-- What is at a path; a path that leads nowhere has nothing. -/
def entry? (fs : FileSystem) (here : List String) (p : FilePath) : Except FileFault (Option Entry) :=
  match fs.follow here p with
  | .ok (_, e) => .ok e
  | .error f => if f.reason == .nameTooLong then .error f else .ok none

/-- The bytes of a file. -/
def read (fs : FileSystem) (here : List String) (p : FilePath) : Except FileFault (List UInt8) := do
  match ← fs.follow here p with
  | (_, some (.file bytes)) => return bytes
  | (_, some .directory) => throw ⟨.isDirectory, p.toString⟩
  | (_, none) => throw ⟨.missing, p.toString⟩

/-- Makes a file, or fills it anew. -/
def write (fs : FileSystem) (here : List String) (p : FilePath) (bytes : List UInt8) :
    Except FileFault FileSystem := do
  match ← fs.follow here p with
  | (_, some .directory) => throw ⟨.isDirectory, p.toString⟩
  | (place, _) => return fs.put place (.file bytes)

/-- Makes a directory where nothing is. -/
def makeDirectory (fs : FileSystem) (here : List String) (p : FilePath) : Except FileFault FileSystem := do
  match ← fs.follow here p with
  | (place, none) => return fs.put place .directory
  | (_, some _) => throw ⟨.exists, p.toString⟩

/-- Makes a directory, if there is none, and first those that lead to it; `fuel` is how many of them may
be missing. What was made stays also if a later step fails. -/
def makeDirectories (fs : FileSystem) (here : List String) (p : FilePath) :
    Nat → FileSystem × Option FileFault
  | 0 => (fs, none)
  | fuel + 1 =>
    match fs.makeDirectory here p with
    | .ok fs => (fs, none)
    | .error f =>
      if f.reason == .missing then
        if p.parent = p then (fs, some f)
        else
          match fs.makeDirectories here p.parent fuel with
          | (fs, some f) => (fs, some f)
          | (fs, none) =>
            match fs.makeDirectory here p with
            | .ok fs => (fs, none)
            | .error f => (fs, if fs.entry? here p matches .ok (some .directory) then none else some f)
      else (fs, if fs.entry? here p matches .ok (some .directory) then none else some f)

/-- Makes a directory with all that lead to it. -/
def ensureDirectory (fs : FileSystem) (here : List String) (p : FilePath) :
    FileSystem × Option FileFault :=
  fs.makeDirectories here p (p.parts.length + 2)

end FileSystem

end Landscape
