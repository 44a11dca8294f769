import Landscape.Host.Basic
import Landscape.Value.Text
import Landscape.Yaml.Fault

/-!
# Renderer settings

The settings say where the programs and services are that draw component diagrams, and how long they may
take (`Landscape.Settings`). They come from a settings file and from variables; this file holds the
settings themselves, those that hold if nobody says otherwise, and what can be wrong with a file
(`Landscape.SettingsFault`).
-/

namespace Landscape

/-- How component diagrams are drawn: by a local archive, or by a server if that is allowed. -/
structure Settings where
  /-- Where the archive is. -/
  jar : FilePath
  /-- The address of the server. -/
  server : Value
  /-- Whether the server may be asked. -/
  fallback : Bool
  /-- How many seconds a drawing may take. -/
  timeout : Value
  deriving Repr, Inhabited

namespace Settings

/-- Where the archive is in the directory of the library. -/
def usualJar : FilePath :=
  ⟨.none, ["tools", "plantuml", "plantuml.jar"]⟩

/-- The server that is asked if no other is named. -/
def usualServer : String :=
  "https://www.plantuml.com/plantuml"

/-- How many seconds a drawing may take if nobody says otherwise. -/
def usualTimeout : Int :=
  60

/-- The settings of a library that is installed in a directory. -/
def usual (home : FilePath) : Settings :=
  { jar := home.join usualJar, server := .text usualServer, fallback := true, timeout := .int usualTimeout }

end Settings

/-- Why a settings file gives no settings. -/
inductive SettingsFault where
  /-- The file holds no YAML. -/
  | invalid (path : FilePath) (f : Yaml.Fault)
  /-- The document in the file is no mapping. -/
  | notMapping (path : FilePath)
  /-- The timeout is no number. -/
  | badTimeout (v : Value)
  deriving Repr

/-- What is wrong with a settings file, in words. -/
def SettingsFault.message : SettingsFault → String
  | .invalid path f => s!"Invalid settings file {path}: {f.message}"
  | .notMapping path => s!"Settings file {path} must contain a mapping"
  | .badTimeout v => s!"Render timeout must be a number of seconds, got {v.literal}"

end Landscape
