import Landscape.Deflate.Token

/-!
# Searching for repetitions

Data are taken apart into tokens by a search for the longest earlier occurrence of what comes next
(`Landscape.Deflate.tokens`). Places that begin with the same three bytes are chained, each to the last
one before it, and the search goes back along the chain for so many places at most. It is lazy: what was
found at a place is used only if the next place has nothing longer.
-/

namespace Landscape.Deflate

/-! ### Limits -/

/-- The shortest copy. -/
def shortestCopy : Nat := 3

/-- The longest copy. -/
def longestCopy : Nat := 258

/-- The farthest that a copy may reach back: the window less the longest copy and what is needed to see
beyond it. -/
def farthestCopy : Nat := 32768 - (longestCopy + shortestCopy + 1)

/-- The farthest that a shortest copy is worth it. -/
def farthestShortest : Nat := 4096

/-- How many places are looked at. -/
def chainLength : Nat := 128

/-- A copy of this length found at the place before is good: only a quarter as many places are then looked
at. -/
def goodLength : Nat := 8

/-- A copy of this length found at the place before is used without another search. -/
def lazyLength : Nat := 16

/-- A copy of this length ends the search. -/
def niceLength : Nat := 128

/-! ### Chains -/

/-- The key of the three bytes at a place. Places with equal keys share a chain, though their bytes may
differ. -/
def key (data : Array UInt8) (i : Nat) : Nat :=
  let b (k : Nat) := (data.getD (i + k) 0).toNat
  ((b 0 <<< 10) ^^^ (b 1 <<< 5) ^^^ b 2) % 0x8000

/-- The links of the places from `i` on, `heads` being the last places of each key before that. -/
def linksFrom (data : Array UInt8) (heads links : Array (Option Nat)) (i : Nat) : Array (Option Nat) :=
  if i + 2 < data.size then
    let k := key data i
    let links := links.push (heads.getD k none)
    linksFrom data (heads.setIfInBounds k (some i)) links (i + 1)
  else links
termination_by data.size - i

/-- For each place that begins three bytes, the last place before it with an equal key. -/
def links (data : Array UInt8) : Array (Option Nat) :=
  linksFrom data (Array.replicate 0x8000 none) #[] 0

/-! ### The search -/

/-- How many bytes from two places on agree, up to a limit. -/
def agreement (data : Array UInt8) (i j : Nat) : Nat → Nat
  | 0 => 0
  | n + 1 =>
    if data.getD i 0 == data.getD j 0 then agreement data (i + 1) (j + 1) n + 1 else 0

/-- An earlier occurrence: its length and its place. -/
structure Found where
  length : Nat
  place : Nat
  deriving DecidableEq, Repr, Inhabited

/-- Nothing that a copy could use. -/
def nothing : Found :=
  ⟨shortestCopy - 1, 0⟩

/-- Goes along the chain from `j` on, past `lowest` and for so many places at most, and answers the first of
the longest occurrences that are longer than `best`. The rest of the data has `rest` bytes. -/
def search (data : Array UInt8) (links : Array (Option Nat)) (i rest lowest : Nat) :
    Nat → Nat → Found → Found
  | 0, _, best => best
  | n + 1, j, best =>
    let length := agreement data i j (min longestCopy rest)
    let best' := if best.length < length then ⟨length, j⟩ else best
    if best.length < length && min niceLength rest ≤ length then best'
    else
      match links.getD j none with
      | some k => if lowest < k then search data links i rest lowest n k best' else best'
      | none => best'

/-- The occurrence to use at a place, where `before` is what was found at the place before. A shortest copy
from far away is nothing. -/
def find (data : Array UInt8) (links : Array (Option Nat)) (i : Nat) (before : Found) : Found :=
  let rest := data.size - i
  match links.getD i none with
  | none => nothing
  | some j =>
    if j == 0 || farthestCopy < i - j || lazyLength ≤ before.length then nothing
    else
      let n := if goodLength ≤ before.length then chainLength / 4 else chainLength
      let best := search data links i rest (i - farthestCopy) n j before
      let best := ⟨min best.length rest, best.place⟩
      if best.length == shortestCopy && farthestShortest < i - best.place then nothing else best

/-! ### Tokens -/

/-- The tokens from a place on. `before` is what was found at the place before; `pending` says that the byte
there has no token yet. -/
def tokensFrom (data : Array UInt8) (links : Array (Option Nat)) (i : Nat) (before : Found)
    (pending : Bool) : List Token :=
  let byte := Token.byte (data.getD (i - 1) 0)
  if i < data.size then
    let here := find data links i before
    if shortestCopy ≤ before.length && here.length ≤ before.length then
      .copy before.length (i - 1 - before.place) ::
        tokensFrom data links (i + 1 + (before.length - 2)) nothing false
    else if pending then byte :: tokensFrom data links (i + 1) here true
    else tokensFrom data links (i + 1) here true
  else if pending then [byte] else []
termination_by data.size - i

/-- **The tokens of some data.** -/
def tokens (data : Array UInt8) : List Token :=
  tokensFrom data (links data) 0 nothing false

end Landscape.Deflate
