import Landscape.Render.Graphviz
import Landscape.Render.Memory
import Landscape.Render.PlantUml

/-!
# Renderers

A renderer turns the text of a diagram into an image at a path (`Landscape.Renderer.draw`). Renderers have a
state: what they have found out or remember.
-/

namespace Landscape

/-- A renderer. -/
inductive Renderer where
  | graphviz (engine : Value)
  | plantUml (r : PlantUml.Renderer)
  | memory (m : Memory)
  deriving Repr

namespace Renderer

/-- The renderer for graphs. -/
def usualForGraphs : Renderer :=
  .graphviz (.text usualEngine)

instance : Inhabited Renderer := ⟨usualForGraphs⟩

/-- **Draws a text** in a format, and stores the image at a path. -/
def draw (source : String) (format : Choice) (target : FilePath) :
    Step Fault (Renderer × Host) FilePath := do
  match (← get).1 with
  | .graphviz engine => (drawDot engine source format target).within Prod.snd fun h s => (s.1, h)
  | .plantUml r =>
    (PlantUml.draw source format target).within (fun s => (r, s.2)) fun t _ => (.plantUml t.1, t.2)
  | .memory m =>
    (Memory.draw source format target).within (fun s => (m, s.2)) fun t _ => (.memory t.1, t.2)

end Renderer

end Landscape
