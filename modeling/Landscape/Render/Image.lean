import Landscape.Fault

/-!
# Images

An image is stored at a path, with the directories that lead to it (`Landscape.storeImage`). It is stored only
when it is there as a whole, so a drawing that fails leaves no part of one. All images are SVG; a text
is taken for one if it looks like one at its beginning (`Landscape.looksLikeSvg`).
-/

namespace Landscape

/-- Whether a text occurs in another. -/
def occursIn (what : List Char) : List Char → Bool
  | [] => what.isEmpty
  | c :: r => what.isPrefixOf (c :: r) || occursIn what r

/-- How much of a text is looked at for the beginning of an image. -/
def lookedAt : Nat := 500

/-- Whether a text looks like an SVG image: it begins with a tag, and that of the image is not far. -/
def looksLikeSvg (text : List Char) : Bool :=
  (trim text).head? == some '<' && occursIn "<svg".toList (firstPoints lookedAt text)

/-- Refuses all formats but one. -/
def requireSvg {σ : Type} (format : Choice) : Step Fault σ Unit :=
  match format with
  | .svg => pure ()
  | c => throw (.render (.format c.literal))

/-- The characters of a text that is to be sent. -/
def charsOf {σ : Type} (s : String) : Step Fault σ (List Char) :=
  Step.of ((Utf8.plain? s.toList).mapError fun f => .access (.unencodable f))

/-- The bytes of a text that is to be sent or stored. -/
def bytesOf {σ : Type} (s : String) : Step Fault σ (List UInt8) := do
  return Utf8.encode (← charsOf s)

/-- **Stores an image**, or says why it cannot be stored. -/
def storeImage (target : FilePath) (image : List UInt8) : Step Fault Host FilePath := do
  (Host.store target image).blame fun
    | .file f => .render (.unwritable target f)
    | f => .access f
  let place ← Host.absolute target
  Host.note .info .renderer s!"Diagram written to {place}"
  return target

end Landscape
