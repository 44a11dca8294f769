import Landscape.Diagram.Basic

/-!
# Arguments of the command line

A command line is a list of words. Some words are options, and the others are plain
(`Landscape.CommandLine.Word`); of the plain ones that no option takes for its value, the first names the
landscape and there may be no more. `Landscape.CommandLine.parse` reads the words in order and
answers what they ask for, or what is wrong with the first that fits nowhere
(`Landscape.CommandLine.UsageFault`).

An option may be cut short as long as it is clear which one is meant, and its value may be attached to it. After
two dashes alone every word is plain.

Readers of command lines differ from release to release, and the rules here are those of the first releases of argparse
3.11, which the tests of the command were recorded with. Two of them were changed later on: two dashes that are attached
as a value are dropped here, and the option is then there without a value (`Landscape.CommandLine.Reading.takeAttached`);
and letters that are attached to the call for help have to be options of their own
(`Landscape.CommandLine.checkAfterHelp`). Later releases keep the two dashes as the value, and give the help also where
such a letter is no option.
-/

namespace Landscape.CommandLine

/-! ### Options -/

/-- The options. -/
inductive Flag where
  | help | outputDir | kind | writeSource | config | logLevel
  deriving DecidableEq, Repr, Inhabited

namespace Flag

/-- All options, in the order in which they are listed. -/
def all : List Flag :=
  [.help, .outputDir, .kind, .writeSource, .config, .logLevel]

/-- The names of an option. -/
def names : Flag → List String
  | .help => ["-h", "--help"]
  | .outputDir => ["-o", "--output-dir"]
  | .kind => ["--kind"]
  | .writeSource => ["--write-source"]
  | .config => ["--config"]
  | .logLevel => ["--log-level"]

/-- The option as messages name it. -/
def label (f : Flag) : String :=
  "/".intercalate f.names

/-- Whether an option has a value. -/
def takesValue : Flag → Bool
  | .help | .writeSource => false
  | _ => true

/-- The values that an option may have, if not all. -/
def choices? : Flag → Option (List String)
  | .kind => some (DiagramKind.all.map DiagramKind.name ++ ["all"])
  | .logLevel => some ([Level.debug, .info, .warning, .error].map Level.name)
  | _ => none

/-- All names with their options. -/
def named : List (String × Flag) :=
  all.flatMap fun f => f.names.map fun n => (n, f)

/-- The option that has a name. -/
def ofName? (name : String) : Option Flag :=
  named.lookup name

end Flag

/-! ### What can be wrong -/

/-- Why a command line asks for nothing. -/
inductive UsageFault where
  /-- An option is cut too short. -/
  | ambiguous (word : String) (names : List String)
  /-- An option lacks its value. -/
  | lacksValue (f : Flag)
  /-- An option that has no value is given one. -/
  | needlessValue (f : Flag) (text : String)
  /-- An option cannot have this value. -/
  | badChoice (f : Flag) (text : String) (choices : List String)
  /-- Nothing says where the landscape is. -/
  | noLandscape
  /-- Words are left over. -/
  | leftOver (words : List String)
  deriving DecidableEq, Repr

/-- What is wrong with a command line, in words. -/
def UsageFault.message : UsageFault → String
  | .ambiguous word names => s!"ambiguous option: {word} could match " ++ ", ".intercalate names
  | .lacksValue f => s!"argument {f.label}: expected one argument"
  | .needlessValue f text => s!"argument {f.label}: ignored explicit argument {quoted text}"
  | .badChoice f text choices =>
    s!"argument {f.label}: invalid choice: {quoted text} (choose from " ++
      ", ".intercalate (choices.map quoted) ++ ")"
  | .noLandscape => "the following arguments are required: landscape"
  | .leftOver words => "unrecognized arguments: " ++ " ".intercalate words

/-! ### Words -/

/-- A word of the command line. -/
inductive Word where
  | plain (s : String)
  /-- The two dashes after which there are no options. -/
  | dashes
  /-- An option with the value that is attached to it, with an equals sign or without. -/
  | flag (f : Flag) (short : Bool) (value : Option (List Char))
  /-- What looks like an option and is none. -/
  | unknown (s : String)
  deriving DecidableEq, Repr

/-- The word as it was written, as far as words are left over. -/
def Word.text : Word → String
  | .plain s | .unknown s => s
  | .dashes => "--"
  | .flag f .. => f.label

/-- A text up to its first equals sign, and what is after it. -/
def splitEquals (s : List Char) : List Char × Option (List Char) :=
  match s.dropWhile (· != '=') with
  | [] => (s, none)
  | _ :: r => (s.takeWhile (· != '='), some r)

/-- Whether a text is a negative number: a minus sign, digits, and perhaps a point before the last of them. A line
break at the end does no harm. -/
def isNegativeNumber : List Char → Bool
  | '-' :: r =>
    let r := if r.getLast? == some '\n' then r.dropLast else r
    let isDigit (c : Char) := (digitValue? c).isSome
    match r.dropWhile isDigit with
    | [] => !r.isEmpty
    | '.' :: r => !r.isEmpty && r.all isDigit
    | _ => false
  | _ => false

/-- Whether a name begins with one dash and not with two. -/
def isShort (name : List Char) : Bool :=
  match name with
  | '-' :: '-' :: _ => false
  | _ => true

/-- The options that a word may mean that is not the name of one. A word with two dashes may be cut short, and
one with a single dash may have its value attached. -/
def meanings (s : List Char) : List (String × Flag × Option (List Char)) :=
  if isShort s then
    Flag.named.filterMap fun (name, f) =>
      if name.toList == s.take 2 then some (name, f, some (s.drop 2))
      else if s.isPrefixOf name.toList then some (name, f, none)
      else none
  else
    let (start, value) := splitEquals s
    Flag.named.filterMap fun (name, f) =>
      if start.isPrefixOf name.toList then some (name, f, value) else none

/-- The option that a word names in full, with the value after an equals sign. -/
def exactFlag? (s : List Char) : Option Word :=
  match Flag.ofName? (String.ofList s) with
  | some f => some (.flag f (isShort s) none)
  | none =>
    match splitEquals s with
    | (name, some value) =>
      (Flag.ofName? (String.ofList name)).map fun f => .flag f (isShort name) (some value)
    | (_, none) => none

/-- What a word with a dash in front is. -/
def wordOfDash (s : List Char) : Except UsageFault Word :=
  match exactFlag? s with
  | some w => .ok w
  | none =>
    match meanings s with
    | [(name, f, value)] => .ok (.flag f (isShort name.toList) value)
    | [] =>
      if isNegativeNumber s || s.contains ' ' then .ok (.plain (String.ofList s))
      else .ok (.unknown (String.ofList s))
    | several => .error (.ambiguous (String.ofList s) (several.map (·.1)))

/-- What a word is. A dash alone is plain. -/
def wordOf (s : String) : Except UsageFault Word :=
  match s.toList with
  | '-' :: c :: r => wordOfDash ('-' :: c :: r)
  | _ => .ok (.plain s)

/-- What the words of a command line are. -/
def wordsOf : List String → Except UsageFault (List Word)
  | [] => .ok []
  | s :: r =>
    if s == "--" then .ok (.dashes :: r.map .plain)
    else do return (← wordOf s) :: (← wordsOf r)

/-! ### Arguments -/

/-- What a command line asks for. An option that is there without a value is `none`. -/
structure Arguments where
  landscape : String
  outputDir : Option String := some "."
  kinds : Option (List DiagramKind) := some DiagramKind.all
  writeSource : Bool := false
  /-- Where the settings are, `none` also if nobody says so. -/
  config : Option String := none
  logLevel : Option Level := some .info
  deriving Repr, Inhabited

/-- What has been read of a command line. -/
structure Reading where
  landscape : Option String := none
  given : Arguments := { landscape := "" }
  leftOver : List String := []
  deriving Repr, Inhabited

/-- What a command line turns out to be: a call for help, or a reading of it. -/
inductive Parsed (α : Type) where
  | help
  | read (a : α)
  deriving Repr

/-- The level of a name. -/
def levelOf (name : String) : Level :=
  ([Level.debug, .info, .warning, .error].find? fun l => l.name == name).getD .info

/-- The kinds of diagrams of a name, all of them for a name that is none of a kind. -/
def kindsOf (name : String) : List DiagramKind :=
  match DiagramKind.of? (.text name) with
  | some k => [k]
  | none => DiagramKind.all

/-- The arguments with an option and its value. -/
def Arguments.with (a : Arguments) (f : Flag) (value : Option String) : Arguments :=
  match f with
  | .help => a
  | .outputDir => { a with outputDir := value }
  | .kind => { a with kinds := value.map kindsOf }
  | .writeSource => { a with writeSource := true }
  | .config => { a with config := value }
  | .logLevel => { a with logLevel := value.map levelOf }

/-- The reading with an option, if it may have this value. -/
def Reading.take (r : Reading) (f : Flag) (value : String) : Except UsageFault Reading :=
  let taken := { r with given := r.given.with f (some value) }
  match f.choices? with
  | none => .ok taken
  | some choices => if choices.contains value then .ok taken else .error (.badChoice f value choices)

/-- The reading with an option and the value that is attached to it. -/
def Reading.takeAttached (r : Reading) (f : Flag) (value : String) : Except UsageFault Reading :=
  if value == "--" then .ok { r with given := r.given.with f none } else r.take f value

/-- Whether a word may be the value of the option before it. -/
def isPlain : Option Word → Bool
  | some (.plain _) => true
  | _ => false

/-- What is wrong with letters that are attached to the call for help: each has to be an option of its own, and the
one with a value has to have it. -/
def checkAfterHelp (next : Option Word) : List Char → Except UsageFault Unit
  | [] => .ok ()
  | 'h' :: r => checkAfterHelp next r
  | 'o' :: r => if r.isEmpty && !isPlain next then .error (.lacksValue .outputDir) else .ok ()
  | s => .error (.needlessValue .help (String.ofList s))

/-- What a value means that is attached to an option without one: with a single dash the letters are more
options, anything else is wrong. -/
def checkNeedless (f : Flag) (short : Bool) (value : List Char) (next : Option Word) :
    Except UsageFault Unit :=
  if short && !value.isEmpty then checkAfterHelp next value
  else .error (.needlessValue f (String.ofList value))

/-- Puts the words together. `options` says that there are options among them. -/
def assemble (r : Reading) : List Word → Except UsageFault (Parsed Reading)
  | [] => .ok (.read r)
  | .flag .help short value :: rest => do
    if let some v := value then checkNeedless .help short v rest.head?
    return .help
  | .flag f _ value :: rest =>
    match value with
    | some v =>
      if f.takesValue then do assemble (← r.takeAttached f (String.ofList v)) rest
      else .error (.needlessValue f (String.ofList v))
    | none =>
      if f.takesValue then
        match rest with
        | .plain s :: rest => do assemble (← r.take f s) rest
        | _ => .error (.lacksValue f)
      else do assemble (← r.take f "") rest
  | .unknown s :: rest => assemble { r with leftOver := r.leftOver ++ [s] } rest
  | .plain s :: rest =>
    if r.landscape.isNone then
      match rest with
      | .dashes :: rest =>
        .ok (.read { r with landscape := some s, leftOver := r.leftOver ++ rest.map Word.text })
      | rest => assemble { r with landscape := some s } rest
    else assemble { r with leftOver := r.leftOver ++ [s] } rest
  | .dashes :: rest =>
    match r.landscape, rest with
    | none, .plain s :: rest =>
      .ok (.read { r with landscape := some s, leftOver := r.leftOver ++ rest.map Word.text })
    | _, rest => .ok (.read { r with leftOver := r.leftOver ++ "--" :: rest.map Word.text })

/-- **Reads a command line.** -/
def parse (words : List String) : Except UsageFault (Parsed Arguments) := do
  match ← assemble {} (← wordsOf words) with
  | .help => return .help
  | .read r =>
    match r.landscape, r.leftOver with
    | none, _ => throw .noLandscape
    | some s, [] => return .read { r.given with landscape := s }
    | some _, leftOver => throw (.leftOver leftOver)

/-! ### Usage -/

/-- How the command is called. -/
def usage : List String :=
  ["usage: msviz [-h] [-o OUTPUT_DIR] [--kind \x7bsimple,uml,all\x7d] [--write-source]",
    "             [--config CONFIG] [--log-level \x7bDEBUG,INFO,WARNING,ERROR\x7d]",
    "             landscape"]

/-- What the command does and what its arguments mean. -/
def explanation : List String :=
  ["",
    "Render graph and UML component diagrams of a microservice landscape",
    "",
    "positional arguments:",
    "  landscape             YAML file describing the system",
    "",
    "options:",
    "  -h, --help            show this help message and exit",
    "  -o OUTPUT_DIR, --output-dir OUTPUT_DIR",
    "                        Directory for the generated diagrams (default: current",
    "                        directory)",
    "  --kind \x7bsimple,uml,all\x7d",
    "                        Diagram kind to export (default: all)",
    "  --write-source        Also write the DOT/PlantUML text next to each image",
    "  --config CONFIG       Renderer settings YAML (default: config/msviz.yaml)",
    "  --log-level \x7bDEBUG,INFO,WARNING,ERROR\x7d",
    "                        Logging level (default: INFO)"]

/-- Some lines as a text. -/
def linesText (lines : List String) : String :=
  String.join (lines.map (· ++ "\n"))

/-- The help. -/
def helpText : String :=
  linesText (usage ++ explanation)

/-- What is written about a command line that asks for nothing. -/
def UsageFault.text (f : UsageFault) : String :=
  linesText (usage ++ ["msviz: error: " ++ f.message])

end Landscape.CommandLine
