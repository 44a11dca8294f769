import Landscape.Render.Image
import Landscape.Text.Case

/-!
# Drawing with Graphviz

A DOT text is drawn by one of the layout engines of Graphviz (`Landscape.drawDot`), whose name may be spelled in
any letters.
-/

namespace Landscape

/-- The layout engine that is used if none is named. -/
def usualEngine : String :=
  "dot"

/-- The layout engine that a value names, however it is spelled. -/
def engineOf : Value → Except Fault String
  | .null => .ok usualEngine
  | .text name =>
    let engine := String.ofList (smallLetters name.toList)
    if layoutEngines.contains engine then .ok engine else .error (.unknownEngine engine)
  | v => .error (.lacks v.kind.fullName "lower")

/-- The text with a line break at its end. -/
def endLine (s : String) : String :=
  if s.toList.getLast? == some '\n' then s else s ++ "\n"

/-- The image of a DOT text. -/
def dotImage (engine : Value) (source : String) (format : Choice) : Step Fault Host (List UInt8) := do
  requireSvg format
  let name ← Step.of (engineOf engine)
  match ← Host.draw name "svg" (endLine source) with
  | .drawn image => return image
  | .missing => throw (.render (.noEngine engine.display))
  | .failed f => throw (.render (.layout f))
  | .raised f => throw (.foreign f)

/-- **Draws a DOT text** with a layout engine, and stores the image. -/
def drawDot (engine : Value) (source : String) (format : Choice) (target : FilePath) :
    Step Fault Host FilePath := do
  storeImage target (← dotImage engine source format)

end Landscape
