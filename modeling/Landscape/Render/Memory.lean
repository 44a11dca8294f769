import Landscape.Render.Image

/-!
# Remembering instead of drawing

For tests and dry runs there is a renderer that draws nothing and remembers what it was asked to draw
(`Landscape.Memory`). On demand it stores the text itself, so that there is a file.
-/

namespace Landscape

/-- Something that was to be drawn. -/
structure DrawCall where
  source : String
  format : Choice
  target : FilePath
  deriving Repr, Inhabited

/-- What a renderer remembers, the last call at the end. -/
structure Memory where
  writesSource : Bool := false
  calls : List DrawCall := []
  deriving Repr, Inhabited

namespace Memory

/-- The text of the last call. -/
def lastSource? (m : Memory) : Option String :=
  m.calls.getLast?.map (·.source)

/-- **Remembers a call.** That stays also if the text cannot be stored. -/
def draw (source : String) (format : Choice) (target : FilePath) :
    Step Fault (Memory × Host) FilePath := do
  modify fun s => ({ s.1 with calls := s.1.calls ++ [⟨source, format, target⟩] }, s.2)
  if (← get).1.writesSource then
    let bytes ← bytesOf source
    (storeImage target bytes).within Prod.snd fun h s => (s.1, h)
  else return target

end Memory

end Landscape
