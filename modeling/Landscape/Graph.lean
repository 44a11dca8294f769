/-!
# Directed graphs in order of insertion

A graph here has vertices and edges, each once, and remembers the order in which they came
(`Landscape.Graph`). An edge brings its ends along: first the tail, then the head. The edges are listed
by tail, the tails in vertex order, and within a tail in the order in which they came
(`Landscape.Graph.edgesByTail`).
-/

namespace Landscape

/-- Vertices and edges in the order in which they were added. -/
structure Graph (α : Type) where
  vertices : List α := []
  edges : List (α × α) := []
  deriving Repr, DecidableEq

/-- A list with an element at its end, unless the list has it already. -/
def appendNew {α : Type} [DecidableEq α] (xs : List α) (x : α) : List α :=
  if x ∈ xs then xs else xs ++ [x]

namespace Graph

variable {α : Type} [DecidableEq α]

/-- The graph with a vertex. -/
def addVertex (g : Graph α) (v : α) : Graph α :=
  { g with vertices := appendNew g.vertices v }

/-- The graph with an edge and its ends. -/
def addEdge (g : Graph α) (tail head : α) : Graph α :=
  let g := (g.addVertex tail).addVertex head
  { g with edges := appendNew g.edges (tail, head) }

/-- The edges, grouped by their tails in the order of the vertices. -/
def edgesByTail (g : Graph α) : List (α × α) :=
  g.vertices.flatMap fun v => g.edges.filter (·.1 = v)

end Graph

end Landscape
