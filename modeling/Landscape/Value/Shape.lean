import Landscape.Value.Basic

/-!
# Shapes of documents

A shape (`Landscape.Shape`) says which parts of a document somebody is going to look at: the items of a list, some
entries of a mapping, or a value as a whole. A document may put a collection inside itself; a part that has a
shape is then read as deep as the shape goes, and only inside a value that is taken as a whole is the inner
place marked (`Landscape.Value.again`).
-/

namespace Landscape

/-- What is looked at in a part of a document. -/
inductive Shape where
  /-- Nothing. -/
  | ignored
  /-- The value as a whole. -/
  | whole
  /-- The items, if it is a list, and each of them by a shape. -/
  | list (items : Shape)
  /-- The entries with text keys, if it is a mapping, and each of them by the shape for its key. -/
  | mapping (entry : String → Shape)

/-- The shape of a mapping of which some entries are looked at. -/
def Shape.entries (parts : List (String × Shape)) : Shape :=
  .mapping fun key => (parts.lookup key).getD .ignored

end Landscape
