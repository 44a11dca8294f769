/-!
# Prefix codes

A code gives symbols words of bits, none of which begins another (`Landscape.Deflate.Code.isPrefixFree`). Here
a code follows from the lengths of its words alone (`Landscape.Deflate.Code.ofLengths`): shorter words
come first, words of one length count up with their symbols.

The lengths are those of a tree in which rare symbols lie deep (`Landscape.Deflate.codeLengths`). The tree is
grown by joining the two lightest parts again and again; of equally light parts the lower counts as
lighter, and between equals of this kind the order in a binary heap decides.
-/

namespace Landscape.Deflate

/-! ### Codes -/

/-- The words of the symbols 0, 1, …; a symbol that has none has the empty word. -/
abbrev Code := List (List Bool)

/-- The lowest `n` bits of a number, the most significant first. -/
def bitsDown (n value : Nat) : List Bool :=
  (List.range n).reverse.map value.testBit

/-- The lowest `n` bits of a number, the least significant first. -/
def bitsUp (n value : Nat) : List Bool :=
  (List.range n).map value.testBit

namespace Code

/-- The words for lengths: `next` gives for each length the number of the next word of this length. -/
def assign (next : List Nat) : List Nat → Code
  | [] => []
  | l :: ls => bitsDown l (next.getD l 0) :: assign (next.modify l (· + 1)) ls

/-- The numbers of the first words of the lengths from `l` on, `first` being that of `l`: a word of the next
length follows all words of this one and is a bit longer. -/
def firstWords (lengths : List Nat) (l first : Nat) : Nat → List Nat
  | 0 => []
  | n + 1 => first :: firstWords lengths (l + 1) (2 * (first + lengths.count l)) n

/-- The code whose words have these lengths; no length is more than `longest`. -/
def ofLengths (longest : Nat) (lengths : List Nat) : Code :=
  assign (0 :: firstWords lengths 1 0 longest) lengths

/-- The word of a symbol. -/
def word (c : Code) (symbol : Nat) : List Bool :=
  c.getD symbol []

/-- Whether no word begins another. -/
def isPrefixFree : Code → Bool
  | [] => true
  | w :: ws =>
    (w.isEmpty || ws.all fun v => v.isEmpty || !(w.isPrefixOf v || v.isPrefixOf w)) && isPrefixFree ws

end Code

/-! ### Trees -/

/-- A tree with symbols at its leaves. -/
inductive Tree where
  | leaf (symbol : Nat)
  | fork (left right : Tree)
  deriving Repr, Inhabited

/-- The symbols of a tree with their depths, those of the root's depth being given. -/
def Tree.depths (depth : Nat) : Tree → List (Nat × Nat)
  | .leaf symbol => [(symbol, depth)]
  | .fork left right => left.depths (depth + 1) ++ right.depths (depth + 1)

/-- How many nodes, leaves or not, lie deeper than `most`. -/
def Tree.countBelow (most depth : Nat) : Tree → Nat
  | .leaf _ => if most < depth then 1 else 0
  | .fork left right =>
    left.countBelow most (depth + 1) + right.countBelow most (depth + 1) + if most < depth then 1 else 0

/-- A part of the tree to be grown. -/
structure Part where
  weight : Nat
  height : Nat
  tree : Tree
  deriving Repr, Inhabited

/-- Whether a part is at least as light as another. -/
def Part.isLighter (p q : Part) : Bool :=
  p.weight < q.weight || (p.weight == q.weight && p.height ≤ q.height)

/-- Two parts joined into one. -/
def Part.join (p q : Part) : Part :=
  ⟨p.weight + q.weight, max p.height q.height + 1, .fork p.tree q.tree⟩

/-! ### Heaps -/

/-- A binary heap: the parts below the place `k` are those below `2k + 1` and `2k + 2`. -/
abbrev Heap := Array Part

/-- Whether the part after the place `j` is as light as the part there. -/
def Heap.lighterBelow (h : Heap) (j : Nat) : Bool :=
  j + 1 < h.size && ((h.getD (j + 1) default).isLighter (h.getD j default))

/-- Puts a part at the place `k` or below it, lighter parts going up. -/
def Heap.sink (h : Heap) (p : Part) (k : Nat) : Heap :=
  let j := 2 * k + 1
  if j < h.size then
    let c := j + (h.lighterBelow j).toNat
    if p.isLighter (h.getD c default) then h.setIfInBounds k p
    else Heap.sink (h.setIfInBounds k (h.getD c default)) p c
  else h.setIfInBounds k p
termination_by h.size - k
decreasing_by
  simp only [Array.size_setIfInBounds]
  omega

/-- The heap of some parts. -/
def Heap.ofArray (h : Heap) : Heap :=
  (List.range (h.size / 2)).reverse.foldl (fun h k => h.sink (h.getD k default) k) h

/-- The lightest part, and the heap without it. -/
def Heap.removeLeast (h : Heap) : Part × Heap :=
  let last := h.back?.getD default
  (h.getD 0 default, Heap.sink h.pop last 0)

/-- Joins the two lightest parts, `n` times. Answers what is left, and the symbols in the order in which
they were joined. -/
def Heap.grow : Nat → Heap → Heap × List Nat
  | 0, h => (h, [])
  | n + 1, h =>
    let (p, h) := h.removeLeast
    let q := h.getD 0 default
    let symbols := [p.tree, q.tree].filterMap fun
      | .leaf symbol => some symbol
      | .fork .. => none
    let (h, later) := Heap.grow n (h.sink (p.join q) 0)
    (h, symbols ++ later)

/-! ### Lengths -/

/-- The symbols that get words, with their weights: those that occur and, since a word has to have a bit, others
besides if fewer than two do. -/
def weights (counts : List Nat) : List (Nat × Nat) :=
  let used := counts.zipIdx.filterMap fun (n, symbol) => if n == 0 then none else some (symbol, n)
  match used with
  | [] => [(0, 1), (1, 1)]
  | [(symbol, n)] => [(symbol, n), (if symbol < 2 then symbol + 1 else 0, 1)]
  | used => used

/-- Makes room among the numbers of words of each length, two words at a time: a word of the greatest length
less than `longest` that has any becomes two that are longer by one. -/
def makeRoom (longest : Nat) (perLength : List Nat) : Nat → List Nat
  | 0 => perLength
  | n + 1 =>
    let l := ((List.range longest).reverse.find? fun l => perLength.getD l 0 != 0).getD 0
    let perLength := ((perLength.modify l (· - 1)).modify (l + 1) (· + 2)).modify longest (· - 1)
    makeRoom longest perLength n

/-- The lengths of the words of symbols, where `counts` says how often each symbol occurs and no length may be
more than `longest`. A symbol that needs no word has length zero. -/
def codeLengths (longest : Nat) (counts : List Nat) : List Nat :=
  let parts := (weights counts).map fun (symbol, n) => Part.mk n 0 (.leaf symbol)
  let (h, order) := Heap.grow (parts.length - 1) (Heap.ofArray parts.toArray)
  let tree := (h.getD 0 default).tree
  let depths := tree.depths 0
  let overflow := tree.countBelow longest 0
  let lengths :=
    if overflow == 0 then depths
    else
      let perLength := (List.range (longest + 1)).map fun l => depths.countP fun d => min d.2 longest == l
      let perLength := makeRoom longest perLength ((overflow + 1) / 2)
      order.zip ((List.range (longest + 1)).reverse.flatMap fun l => List.replicate (perLength.getD l 0) l)
  lengths.foldl (fun ls d => ls.set d.1 d.2) (List.replicate counts.length 0)

end Landscape.Deflate
