import Landscape.CommandLine.Run

/-!
# The command

`main` runs the command where it is called. It takes a picture of all that the run can meet, lets it run on the
picture, and carries out what has changed there. Programs and servers are out of its reach: it draws
nothing, and writes the texts of diagrams if they are asked for.
-/

namespace Landscape.Machine

/-- What is at a place of this machine. -/
def entryAt (place : List String) : IO (Option Entry) := do
  try
    let bytes ← IO.FS.readBinFile ("/" ++ "/".intercalate place)
    return some (.file bytes.toList)
  catch
    | .noFileOrDirectory .. => return none
    | _ => return some .directory

/-- A picture with all that lies on the way along some names, up to the first that leads nowhere. -/
def lookAlong (files : FileSystem) (place : List String) : List String → IO FileSystem
  | [] => return files
  | ".." :: rest => lookAlong files place.dropLast rest
  | name :: rest => do
    let next := place ++ [name]
    match ← entryAt next with
    | none => return files
    | some .directory => lookAlong (files.put next .directory) next rest
    | some e => return files.put next e

/-- The variables that matter. -/
def variableNames : List String :=
  ["PLANTUML_JAR_PATH", "PLANTUML_SERVER_URL", "MSVIZ_HTTP_FALLBACK", "MSVIZ_RENDER_TIMEOUT"]

/-- The paths that a command line names. -/
def pathsOf (words : List String) : List FilePath :=
  match CommandLine.parse words with
  | .ok (.read a) =>
    .ofString a.landscape :: (a.outputDir.toList ++ a.config.toList).map FilePath.ofString
  | _ => []

/-- A picture of this machine. -/
def picture (words : List String) : IO Host := do
  let directory := FilePath.ofString (← IO.currentDir).toString
  let home := FilePath.ofString (← IO.appDir).toString
  let usualSettings := home.child "config/msviz.yaml"
  let environment ← variableNames.filterMapM fun name => do return (← IO.getEnv name).map (name, ·)
  let jars := [home.join Settings.usualJar] ++
    ((environment.lookup "PLANTUML_JAR_PATH").map FilePath.ofString).toList
  let paths := [directory, usualSettings] ++ jars ++ pathsOf words
  let files ← paths.foldlM (fun files p => lookAlong files [] (directory.join p).parts) {}
  return { files, directory, home, usualSettings, environment,
           fetches := .failed "no connection" }

/-- Carries out what has changed between two pictures. -/
def carryOut (before after : FileSystem) : IO Unit := do
  for (place, e) in after.entries do
    if before.find? place != some e then
      let path := "/" ++ "/".intercalate place
      match e with
      | .directory => IO.FS.createDirAll path
      | .file bytes => IO.FS.writeBinFile path ⟨bytes.toArray⟩

end Landscape.Machine

open Landscape in
/-- Runs the command on this machine. -/
def main (words : List String) : IO UInt32 := do
  let host ← Machine.picture words
  let time := toString (← IO.monoMsNow)
  let (o, s) := CommandLine.run words time { host }
  Machine.carryOut host.files s.host.files
  IO.eprint o.errors
  IO.print o.output
  match o.code with
  | .ok code => return code.toUInt32
  | .error f => do
    IO.eprintln f.message
    return 1
