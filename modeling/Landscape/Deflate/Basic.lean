import Landscape.Deflate.Block
import Landscape.Deflate.Search

/-!
# Compressing

Data are compressed by taking them apart into tokens, the tokens into blocks of a certain size, and writing the
blocks one after the other (`Landscape.Deflate.compress`).
-/

namespace Landscape.Deflate

/-- How many tokens a block has at most. -/
def tokensPerBlock : Nat := 16383

/-- The tokens of the blocks. A full block that ends with a copy is closed at once, so an empty block comes
after it if nothing else does. -/
def tokenBlocks (tokens : List Token) : List (List Token) :=
  if tokens.length < tokensPerBlock then [tokens]
  else
    let first := tokens.take tokensPerBlock
    let rest := tokens.drop tokensPerBlock
    let closed := match first.getLast? with
      | some (.copy ..) => true
      | _ => false
    if rest.isEmpty && !closed then [first] else first :: tokenBlocks rest
termination_by tokens.length
decreasing_by simp only [List.length_drop, tokensPerBlock] at *; omega

/-- The bits of blocks, after `offset` bits. `bytes` is what the blocks stand for. -/
def blockBits (offset : Nat) (bytes : List UInt8) : List (List Token) → List Bool
  | [] => []
  | tokens :: rest =>
    let n := (tokens.map Token.size).sum
    let bits := Block.bits ⟨bytes.take n, tokens⟩ offset rest.isEmpty
    bits ++ blockBits (offset + bits.length) (bytes.drop n) rest

/-- The number that bits stand for, the least significant first. -/
def ofBits : List Bool → Nat
  | [] => 0
  | b :: bs => b.toNat + 2 * ofBits bs

/-- Bits as bytes, the first bit of each being the least significant. -/
def packBits : List Bool → List UInt8
  | [] => []
  | b :: bs => (ofBits (b :: bs.take 7)).toUInt8 :: packBits (bs.drop 7)
termination_by bs => bs.length
decreasing_by simp only [List.length_drop, List.length_cons]; omega

/-- **The compressed form of some data.** -/
def compress (data : List UInt8) : List UInt8 :=
  packBits (blockBits 0 data (tokenBlocks (tokens data.toArray)))

end Landscape.Deflate
