import Landscape.Number.Double

/-!
# Residues of numbers

Equal numbers of whatever kind have the same residue modulo the prime `2 ^ 61 - 1`, with the sign of the number
(`Landscape.signedResidue`). Two to the power of 61 is one there, so each power of two has a residue, also
one below one, and with it each double (`Landscape.Double.residue?`). Minus one is never a residue: the one next to it
takes its place.
-/

namespace Landscape

/-- The modulus of residues. -/
def residueModulus : Nat :=
  Nat.pow 2 61 - 1

/-- The residue of a number by its sign and a natural with the residue of its size. -/
def signedResidue (negative : Bool) (size : Nat) : Int :=
  let n : Int := (size % residueModulus : Nat)
  let n := if negative then -n else n
  if n == -1 then -2 else n

/-- What stands for the size of an infinity. -/
def infiniteSize : Nat :=
  314159

/-- The residue of a double. -/
def Double.residue? : Double → Option Int
  | .finite negative m q => some (signedResidue negative (m * Nat.pow 2 (Int.emod q 61).toNat))
  | .infinite negative => some (signedResidue negative infiniteSize)
  | .notANumber => none

/-- The residue of a whole number. -/
def wholeResidue (n : Int) : Int :=
  signedResidue (decide (n < 0)) n.natAbs

end Landscape
