import Landscape.Host.TextFile

/-!
# Where settings come from

Settings come from three places: variables, a file, and what holds if nobody says otherwise. A variable
hides the file's value for the same setting, whatever that is (`Landscape.Settings.choose`). The file is
the one that is named, which then has to exist, or the usual one, which need not
(`Landscape.Settings.load`).
-/

namespace Landscape

/-! ### Variables -/

/-- What the variables say; an empty one says nothing, but for the fallback, which it turns on. -/
structure Overrides where
  jar : Option String
  server : Option String
  fallback : Option String
  timeout : Option String
  deriving DecidableEq, Repr, Inhabited

/-- A text that is not empty. -/
def nonempty? (s : Option String) : Option String :=
  s.filter fun s => !s.isEmpty

/-- What the variables of a host say. -/
def Overrides.of (environment : List (String × String)) : Overrides where
  jar := nonempty? (environment.lookup "PLANTUML_JAR_PATH")
  server := nonempty? (environment.lookup "PLANTUML_SERVER_URL")
  fallback := environment.lookup "MSVIZ_HTTP_FALLBACK"
  timeout := nonempty? (environment.lookup "MSVIZ_RENDER_TIMEOUT")

/-- The words that turn something off, in small letters. -/
def wordsForOff : List String :=
  ["0", "false", "no", "off"]

/-- Whether a text is a word that turns something off, with any blanks around it. -/
def saysOff (s : String) : Bool :=
  wordsForOff.contains (String.ofList ((trim s.toList).map Char.toLower))

/-! ### Values of a file -/

/-- What is looked at in the document of a settings file. -/
def settingsShape : Shape :=
  .entries [("plantuml", .entries (["jar_path", "server_url", "http_fallback"].map (·, .whole))),
    ("render", .entries [("timeout", .whole)])]

/-- A section of the settings, which counts as empty if there is nothing in it. -/
def sectionOf (key : String) (config : Entries) : Value :=
  let v := config.get key
  if v.isFalsy then .mapping [] else v

/-- The value of a key in a section, if it is there. -/
def settingOf (key : String) : Value → Except Fault (Option Value)
  | .mapping es => .ok (Value.lookup? key es)
  | v => .error (.lacks v.kind.fullName "get")

/-- The path that a value gives. -/
def pathOf : Value → Except Fault FilePath
  | .text s => .ok (.ofString s)
  | v => .error (.misuse (.notPath v.kind.name))

/-- The characters of bytes that are all ASCII. -/
def asciiText? (bs : List UInt8) : Option (List Char) :=
  if bs.all (· < 0x80) then some (bs.map fun b => Char.ofNat b.toNat) else none

/-- The number of seconds that a value gives. -/
def secondsOf (v : Value) : Except Fault Value :=
  let bad : Fault := if v.hasLongNumber then .longNumber else .settings (.badTimeout v)
  match v with
  | .float x => .ok (.float x)
  | .nan place => .ok (.nan place)
  | .bool b => .ok (.float (Double.ofBool b))
  | .int n => ((Double.ofInt? n).map Value.float).elim (.error .hugeNumber) .ok
  | .text s => ((Double.read? s.toList).map Value.float).elim (.error bad) .ok
  | .bytes bs => (((asciiText? bs).bind Double.read?).map Value.float).elim (.error bad) .ok
  | _ => .error bad

namespace Settings

/-! ### Each setting -/

/-- Where the archive is. A path from a file is seen from the directory of the library, one from a
variable is taken as it is. -/
def chooseJar (home : FilePath) (override : Option String) (plantUml : Value) : Except Fault FilePath :=
  match override with
  | some s => .ok (.ofString s)
  | none => do
    match ← settingOf "jar_path" plantUml with
    | none => return home.join usualJar
    | some v => if v.isFalsy then return home.join usualJar else return home.join (← pathOf v)

/-- Whether the server may be asked. -/
def chooseFallback (override : Option String) (plantUml : Value) : Except Fault Bool := do
  let v ← settingOf "http_fallback" plantUml
  match override with
  | some s => return !saysOff s
  | none => return (v.getD (.bool true)).isTruthy

/-- How many seconds a drawing may take. -/
def chooseTimeout (override : Option String) (render : Value) : Except Fault Value :=
  match override with
  | some s => secondsOf (.text s)
  | none => do secondsOf ((← settingOf "timeout" render).getD (.int usualTimeout))

/-- The address of the server. -/
def chooseServer (override : Option String) (plantUml : Value) : Except Fault Value :=
  match override with
  | some s => .ok (.text s)
  | none => do
    let v := (← settingOf "server_url" plantUml).getD .null
    return if v.isFalsy then .text usualServer else v

/-- **The settings** that a file's mapping and the variables give together. -/
def choose (home : FilePath) (overrides : Overrides) (config : Entries) : Except Fault Settings := do
  let plantUml := sectionOf "plantuml" config
  let render := sectionOf "render" config
  let jar ← chooseJar home overrides.jar plantUml
  let fallback ← chooseFallback overrides.fallback plantUml
  let timeout ← chooseTimeout overrides.timeout render
  let server ← chooseServer overrides.server plantUml
  return { jar, server, fallback, timeout }

/-! ### Files -/

/-- The mapping that the document of a settings file gives; a document with nothing in it gives an empty
one. -/
def entriesOfDocument (path : FilePath) (document : Value) : Except Fault Entries :=
  if document.isFalsy then .ok []
  else
    match document with
    | .mapping es => .ok es
    | _ => .error (.settings (.notMapping path))

/-- What it means for settings that a file gives no document. -/
def fileFault (path : FilePath) : DocumentFileFault → Fault
  | .access f => .access f
  | .undecodable f => .undecodable f
  | .yaml f => if f.isSyntax then .settings (.invalid path f) else .scalar f

/-- The mapping in a settings file. -/
def readEntries (path : FilePath) : Step Fault Host Entries := do
  let document ← (Host.readDocument settingsShape path).blame (fileFault path)
  let config ← Step.of (entriesOfDocument path document)
  Host.note .debug .settings s!"Loaded renderer settings from {path}"
  return config

/-- The mapping in the settings file that is named, or in the usual one. An empty name names no file. -/
def loadEntries (name : Option String) : Step Fault Host Entries := do
  let named := (nonempty? name).map FilePath.ofString
  let path := named.getD (← get).usualSettings
  if (← (Host.entry? path).blame .access).isSome then readEntries path
  else
    match named with
    | some p => throw (.noSettings p)
    | none =>
      Host.note .debug .settings s!"No settings file at {path}, using defaults"
      return []

/-- **Loads the settings** from the file that is named, or from the usual one, and from the variables. -/
def load (name : Option String) : Step Fault Host Settings := do
  let config ← loadEntries name
  let h ← get
  Step.of (choose h.home (Overrides.of h.environment) config)

end Settings

end Landscape
