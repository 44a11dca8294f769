import Landscape.PlantUml.Address
import Landscape.Render.Image
import Landscape.Settings.Load

/-!
# Drawing with PlantUML

A PlantUML text is drawn by a local archive and, if that is missing or fails, by a server, unless the settings
forbid it (`Landscape.PlantUml.drawSvg`). How a drawing comes by what the settings say, and by what is to be
found out for it, is its plan (`Landscape.PlantUml.Plan`). What the renderer finds out once it does not ask
again: the settings, whether the archive can be used, and whether Graphviz is there
(`Landscape.PlantUml.Renderer`). A drawing that fails for want of settings has found out nothing.
-/

namespace Landscape.PlantUml

/-! ### What is to be found out -/

/-- Whether the archive is a file and there is something to run it. -/
def probeJar (jar : FilePath) : Step Fault Host Bool := do
  match ← (Host.entry? jar).blame .access with
  | some (.file _) =>
    if ← Host.hasProgram "java" then
      Host.note .info .renderer s!"PlantUML local JAR available at {jar}"
      return true
    else
      Host.note .info .renderer "Java not in PATH — PlantUML JAR present but unusable"
      return false
  | _ =>
    Host.note .info .renderer s!"PlantUML JAR not found at {jar}"
    return false

/-- Whether Graphviz is there. -/
def probeGraphviz : Step Fault Host Bool := do
  let b ← Host.hasProgram "dot"
  if !b then
    Host.note .info .renderer
      "Graphviz (dot) not found — PlantUML will use built-in Smetana layout engine"
  return b

/-- The address of a server without the slashes it ends with. -/
def serverAddress : Value → Except Fault String
  | .text s => .ok (String.ofList (s.toList.reverse.dropWhile (· == '/')).reverse)
  | .bytes _ => .error (.misuse .bytesForText)
  | v => .error (.lacks v.kind.fullName "rstrip")

/-! ### The layout -/

/-- The mark that begins a diagram. -/
def startMark : String :=
  "@startuml"

/-- The line that asks for a layout without Graphviz. -/
def layoutPragma : String :=
  "!pragma layout smetana"

/-- A text with something put in after the first occurrence of a mark. -/
def insertAfter (mark what : List Char) : List Char → List Char
  | [] => if mark.isEmpty then what else []
  | c :: r =>
    if mark.isPrefixOf (c :: r) then mark ++ what ++ (c :: r).drop mark.length
    else c :: insertAfter mark what r

/-- **The text with its layout**: without Graphviz, the pragma goes after the start mark, unless it is there
already. -/
def withLayout (graphviz : Bool) (text : String) : String :=
  if graphviz || occursIn layoutPragma.toList text.toList then text
  else String.ofList (insertAfter startMark.toList ('\n' :: layoutPragma.toList) text.toList)

/-! ### The two ways of drawing -/

/-- What a drawing works with, as steps on states `σ`. -/
structure Plan (σ : Type) where
  /-- Whether the archive can be used. -/
  jarUsable : Step Fault σ Bool
  /-- Whether Graphviz is there. -/
  graphvizThere : Step Fault σ Bool
  /-- The path of the archive. -/
  jar : Step Fault σ String
  /-- The address of the server, without the slashes it ends with. -/
  server : Step Fault σ String
  /-- Whether the server may be asked. -/
  fallback : Step Fault σ Bool
  /-- How many seconds a drawing may take. -/
  timeout : Step Fault σ Value
  /-- A step on the host. -/
  onHost : {α : Type} → Step Fault Host α → Step Fault σ α

/-- The command that runs the archive. -/
def jarCommand (jar : String) : List String :=
  ["java", "-Djava.awt.headless=true", "-jar", jar, "-tsvg", "-pipe"]

/-- How much of the archive's errors is told. -/
def toldOfErrors : Nat := 300

/-- The bytes as a text, with the blanks at its ends taken off. -/
def trimmedText (bytes : List UInt8) : String :=
  String.ofList (trim (spelled (Utf8.decodeLossy bytes)))

namespace Plan

variable {σ : Type}

/-- Tells something. -/
def tell (p : Plan σ) (level : Level) (text : String) : Step Fault σ Unit :=
  p.onHost (Host.note level .renderer text)

/-- Draws a text with the archive, to which a text without bytes cannot be sent. There is no image if that fails in a
way that the server may make good. -/
def drawByJar (p : Plan σ) (text : String) : Step Fault σ (Option String) := do
  let text := withLayout (← p.graphvizThere) text
  let jar ← p.jar
  let _ ← bytesOf text
  let timeout ← p.timeout
  match ← p.onHost (Host.run (jarCommand jar) text timeout) with
  | .timedOut =>
    p.tell .warning s!"PlantUML JAR timed out after {timeout.display}s"
    return none
  | .failed message =>
    p.tell .warning s!"PlantUML JAR execution failed: {message}"
    return none
  | .raised f => throw (.foreign f)
  | .ended status output errors =>
    let image := spelled (Utf8.decodeLossy output)
    if status == 0 && looksLikeSvg image then return some (String.ofList image)
    else
      let told := cut toldOfErrors (trimmedText errors)
      let told := if told.isEmpty then "(empty)" else told
      p.tell .warning s!"PlantUML JAR failed (exit={status}, stderr={told})"
      return none

/-- Draws a text with the server. A text without bytes cannot be sent. -/
def drawByServer (p : Plan σ) (text : String) : Step Fault σ String := do
  let server ← p.server
  let plain ← charsOf text
  p.onHost (Host.ask (.encode text))
  let encoded := encode (String.ofList plain)
  p.tell .debug s!"Rendering PlantUML via HTTP {server} (encoded len={encoded.length})"
  let timeout ← p.timeout
  match ← p.onHost (Host.fetch (server ++ "/svg/" ++ encoded) timeout) with
  | .failed message => throw (.render (.request message))
  | .raised f => throw (.foreign f)
  | .answered status body =>
    if status != 200 then throw (.render (.status status))
    else if !looksLikeSvg body.toList then throw (.render (.notImage body))
    else return body

/-- **Draws a text**, as an SVG text: with the archive, else with the server. -/
def drawSvg (p : Plan σ) (text : String) : Step Fault σ String := do
  if ← p.jarUsable then
    match ← p.drawByJar text with
    | some image =>
      p.tell .debug s!"Rendered via local JAR ({(points image.toList).length} chars SVG)"
      return image
    | none =>
      if !(← p.fallback) then throw (.render .jarFailed)
      p.drawByServer text
  else
    if !(← p.fallback) then throw (.render (.jarMissing (← p.jar)))
    p.drawByServer text

end Plan

/-! ### What a renderer knows -/

/-- What a renderer has found out so far. -/
structure Renderer where
  settings : Option Settings := none
  jarUsable : Option Bool := none
  graphvizThere : Option Bool := none
  deriving Repr, Inhabited

/-- A step of drawing, on what the renderer knows and on the host. -/
abbrev Drawing := Step Fault (Renderer × Host)

/-- A step on the host alone. -/
def onHost {α : Type} (act : Step Fault Host α) : Drawing α :=
  act.within Prod.snd fun h s => (s.1, h)

/-- Changes what the renderer knows. -/
def learn (f : Renderer → Renderer) : Drawing Unit :=
  modify fun s => (f s.1, s.2)

/-- What it means for a drawing that there are no settings. -/
def settingsFault : Fault → Fault
  | .settings f => .render (.settings f)
  | f => f

/-- The settings, which are loaded when they are needed first. -/
def settings : Drawing Settings := do
  match (← get).1.settings with
  | some s => return s
  | none =>
    let s ← onHost ((Settings.load none).blame settingsFault)
    learn fun r => { r with settings := some s }
    return s

/-- Whether the archive can be used. -/
def jarUsable : Drawing Bool := do
  match (← get).1.jarUsable with
  | some b => return b
  | none =>
    let b ← onHost (probeJar (← settings).jar)
    learn fun r => { r with jarUsable := some b }
    return b

/-- Whether Graphviz is there. -/
def graphvizThere : Drawing Bool := do
  match (← get).1.graphvizThere with
  | some b => return b
  | none =>
    let b ← onHost probeGraphviz
    learn fun r => { r with graphvizThere := some b }
    return b

/-- The plan of a renderer, which goes by its settings and keeps what it finds out. -/
def plan : Plan (Renderer × Host) where
  jarUsable := jarUsable
  graphvizThere := graphvizThere
  jar := do return (← settings).jar.toString
  server := do Step.of (serverAddress (← settings).server)
  fallback := do return (← settings).fallback
  timeout := do return (← settings).timeout
  onHost := onHost

/-- **Draws a text**, as an SVG text. -/
def drawSvg (text : String) : Drawing String :=
  plan.drawSvg text

/-- The image of a text. -/
def image (text : String) (format : Choice) : Drawing (List UInt8) := do
  requireSvg format
  bytesOf (← drawSvg text)

/-- Draws a text and stores the image. -/
def draw (text : String) (format : Choice) (target : FilePath) : Drawing FilePath := do
  let bytes ← image text format
  onHost (storeImage target bytes)

end Landscape.PlantUml
