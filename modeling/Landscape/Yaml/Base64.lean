import Landscape.Yaml.Fault

/-!
# Binary data

Binary data is written in base 64, four characters for three bytes. Characters that are no digits are
skipped, so lines may be broken anywhere. Padding ends the data as soon as it completes a group of four; a
group that is not complete at the end is a fault.
-/

namespace Landscape.Yaml

/-- The value of a base 64 digit. -/
def base64Digit? (c : Char) : Option Nat :=
  if 'A' ≤ c && c ≤ 'Z' then some (c.toNat - 'A'.toNat)
  else if 'a' ≤ c && c ≤ 'z' then some (c.toNat - 'a'.toNat + 26)
  else if '0' ≤ c && c ≤ '9' then some (c.toNat - '0'.toNat + 52)
  else if c == '+' then some 62
  else if c == '/' then some 63
  else none

/-- Decodes from inside a group: `seen` digits of the group are read, `bits` holds what of them is not
yet a byte, and `pads` counts the padding since the last digit. -/
def decodeBase64From (seen bits pads : Nat) : List Char → Except Fault (List UInt8)
  | [] => if seen == 0 then .ok [] else .error .badBinary
  | c :: r =>
    if c == '=' then
      if 2 ≤ seen && 4 ≤ seen + pads + 1 then .ok []
      else decodeBase64From seen bits (if 2 ≤ seen then pads + 1 else pads) r
    else
      match base64Digit? c with
      | none => decodeBase64From seen bits pads r
      | some d =>
        match seen with
        | 0 => decodeBase64From 1 d 0 r
        | 1 => do return (bits * 4 + d / 16).toUInt8 :: (← decodeBase64From 2 (d % 16) 0 r)
        | 2 => do return (bits * 16 + d / 4).toUInt8 :: (← decodeBase64From 3 (d % 4) 0 r)
        | _ => do return (bits * 64 + d).toUInt8 :: (← decodeBase64From 0 0 0 r)

/-- The bytes that a text stands for. -/
def decodeBase64 (s : List Char) : Except Fault (List UInt8) :=
  if s.any fun c => 0x80 ≤ c.toNat then .error .badBinary else decodeBase64From 0 0 0 s

end Landscape.Yaml
