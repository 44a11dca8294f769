/-!
# Tokens of compressed data

Compression first finds what was there before: data become tokens, each a byte or a copy of some bytes
that lie a distance back (`Landscape.Deflate.Token`). `Landscape.Deflate.expand` gives the data back.

A copy may be longer than its distance; it then goes on with bytes that it has just made.
-/

namespace Landscape.Deflate

/-- A byte, or a copy of `length` bytes from `distance` bytes back. -/
inductive Token where
  | byte (b : UInt8)
  | copy (length distance : Nat)
  deriving DecidableEq, Repr, Inhabited

/-- The data with a copy of bytes from some way back at their end, byte by byte. -/
def appendCopy (data : Array UInt8) (distance : Nat) : Nat → Array UInt8
  | 0 => data
  | n + 1 => appendCopy (data.push (data.getD (data.size - distance) 0)) distance n

/-- The data with what a token stands for at their end. -/
def Token.append (data : Array UInt8) : Token → Array UInt8
  | .byte b => data.push b
  | .copy length distance => appendCopy data distance length

/-- The data that tokens stand for. -/
def expand (tokens : List Token) : List UInt8 :=
  (tokens.foldl Token.append #[]).toList

end Landscape.Deflate
