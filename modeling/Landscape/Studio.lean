import Landscape.Diagram.Simple
import Landscape.Diagram.Uml
import Landscape.Host.TextFile
import Landscape.Render.Basic

/-!
# The studio

Diagrams are made in a studio (`Landscape.Studio`): there are the models, the renderers and the host. A
landscape comes into it from a document (`Landscape.Studio.load`) or from a file
(`Landscape.Studio.loadFile`), and its renderers draw what they are given (`Landscape.Studio.draw`).
-/

namespace Landscape

/-- A renderer of a studio, by its number. -/
structure RendererRef where
  index : Nat
  deriving DecidableEq, Repr, Inhabited

/-- What there is to work with. -/
structure Studio where
  model : Model := {}
  renderers : Table Renderer := {}
  host : Host := {}
  deriving Inhabited

/-- A step in a studio. -/
abbrev Work := Step Fault Studio

namespace Studio

/-- A step on the host alone. -/
def onHost {α : Type} (act : Step Fault Host α) : Work α :=
  act.within Studio.host fun h s => { s with host := h }

/-- Changes the model. -/
def changeModel (f : Model → Model) : Work Unit :=
  modify fun s => { s with model := f s.model }

/-- Puts a renderer into the studio. -/
def addRenderer (r : Renderer) : Work RendererRef :=
  modifyGet fun s => (⟨s.renderers.size⟩, { s with renderers := s.renderers.add r })

/-- The renderer with a number. -/
def renderer (s : Studio) (r : RendererRef) : Renderer :=
  s.renderers.get r.index

/-! ### Landscapes -/

/-- **Loads a landscape** from its document. If that is faulty, no model is left of it. -/
def load (document : Value) : Work (Ref .system) := do
  match (← get).model.load document with
  | .error f => throw (.document f)
  | .ok (r, m) =>
    changeModel fun _ => m
    let y := m.system r
    onHost (Host.note .debug .document
      s!"Built system '{y.name}' with {y.microservices.length} microservices and {y.contracts.length} contracts")
    return r

/-- What it means for a landscape that a file gives no document. -/
def fileFault (path : FilePath) : DocumentFileFault → Fault
  | .access (.file f) => .landscapeFile path f
  | .access f => .access f
  | .undecodable f => .undecodable f
  | .yaml f => if f.isSyntax then .landscapeYaml path f else .scalar f

/-- **Loads a landscape** from a file. -/
def loadFile (path : FilePath) : Work (Ref .system) := do
  let document ← onHost ((Host.readDocument documentShape path).blame (fileFault path))
  onHost (Host.note .debug .document s!"Loaded landscape document from {path}")
  load document

/-! ### Drawing -/

/-- **Draws a text** with one of the renderers. -/
def draw (r : RendererRef) (source : String) (format : Choice) (target : FilePath) : Work FilePath :=
  (Renderer.draw source format target).within (fun s => (s.renderer r, s.host)) fun t s =>
    { s with renderers := s.renderers.modify r.index fun _ => t.1, host := t.2 }

end Studio

end Landscape
