import Landscape.Number.Shortest
import Landscape.Number.Digit
import Landscape.Text.Blank

/-!
# Numerals: writing and reading doubles

A double is written with the fewest digits that read back (`Landscape.Double.text`): with a point
somewhere among the digits while its decimal exponent is small, and in scientific notation
otherwise. `Landscape.Double.read?` reads a numeral: blanks around it, a sign, digits of any script
with single underscores between them, a point, an exponent, or one of the words for infinity and for
what is not a number. Reading rounds to the nearest double.
-/

namespace Landscape

/-! ### Writing -/

/-- The least decimal exponent that is written without scientific notation. -/
def leastPlainExponent : Int := -4

/-- The greatest decimal exponent that is written without scientific notation. -/
def greatestPlainExponent : Int := 15

/-- The ASCII characters of digits. -/
def digitChars (ds : List Nat) : List Char :=
  ds.map Nat.digitChar

/-- A decimal written with a point: at least one digit stands on either side of it. -/
def Decimal.plain (d : Decimal) : List Char :=
  if d.point ≤ 0 then
    '0' :: '.' :: (List.replicate (-d.point).toNat '0' ++ digitChars d.digits)
  else
    let p := d.point.toNat
    let whole := digitChars (d.digits.take p) ++ List.replicate (p - d.digits.length) '0'
    let rest := digitChars (d.digits.drop p)
    whole ++ '.' :: (if rest.isEmpty then ['0'] else rest)

/-- A decimal in scientific notation: one digit before the point, the point only if more follow, and
an exponent with its sign and at least two digits. -/
def Decimal.scientific (d : Decimal) : List Char :=
  let e := d.point - 1
  let first := digitChars (d.digits.take 1)
  let rest := digitChars (d.digits.drop 1)
  let exponent := Nat.toDigits 10 e.natAbs
  first ++ (if rest.isEmpty then [] else '.' :: rest) ++ 'e' :: (if e < 0 then '-' else '+') ::
    (List.replicate (2 - exponent.length) '0' ++ exponent)

/-- A decimal in the notation that its size asks for. -/
def Decimal.text (d : Decimal) : List Char :=
  if leastPlainExponent ≤ d.point - 1 && d.point - 1 ≤ greatestPlainExponent then d.plain
  else d.scientific

/-- The text of a double: the shortest decimal that reads back, `inf` or `nan`. -/
def Double.text : Double → String
  | .notANumber => "nan"
  | .infinite s => if s then "-inf" else "inf"
  | .finite s m q =>
    let d := if m == 0 then ⟨[0], 1⟩ else Double.shortest m q
    String.ofList (if s then '-' :: d.text else d.text)

/-! ### Reading -/

/-- The blanks that may stand around a numeral: all but the information separators. -/
def isNumeralBlank (c : Char) : Bool :=
  isBlank c && !(0x1c ≤ c.toNat && c.toNat ≤ 0x1f)

/-- The text with each digit of another script replaced by the ASCII digit of its value. -/
def withAsciiDigits (s : List Char) : List Char :=
  s.map fun c => (digitValue? c).elim c Nat.digitChar

/-- The text without its underscores, provided each stands between two digits. -/
def withoutSeparators? : List Char → Option (List Char)
  | [] => some []
  | '_' :: _ => none
  | c :: '_' :: d :: r =>
    if c.isDigit && d.isDigit then (withoutSeparators? (d :: r)).map (c :: ·) else none
  | c :: r => (withoutSeparators? r).map (c :: ·)

/-- A text split after the ASCII digits that it begins with. -/
def spanDigits (s : List Char) : List Nat × List Char :=
  (s.takeWhile Char.isDigit |>.map (fun c => c.toNat - '0'.toNat), s.dropWhile Char.isDigit)

/-- The double nearest to `± m * 10 ^ e`. A quotient far outside the doubles is answered by its size
alone. -/
def Double.ofScientific (negative : Bool) (m : Nat) (e : Int) : Double :=
  let p : Int := decimalLength m + e
  if m == 0 then .zero negative
  else if 400 < p then .infinite negative
  else if p < -400 then .zero negative
  else
    let (n, d) := decimalUnit e
    .nearest negative (m * n) d

/-- The exponent at the end of a numeral: nothing, or a letter `e`, a sign and at least one digit. -/
def exponent? : List Char → Option Int
  | [] => some 0
  | c :: r =>
    if c == 'e' || c == 'E' then
      let (negative, r) := match r with
        | '-' :: r => (true, r)
        | '+' :: r => (false, r)
        | r => (false, r)
      match spanDigits r with
      | (d :: ds, []) =>
        let n : Int := ofDigits 10 (d :: ds)
        some (if negative then -n else n)
      | _ => none
    else none

/-- An unsigned numeral: digits, a point and digits, at least one digit in all, and an exponent. -/
def Double.readUnsigned? (negative : Bool) (s : List Char) : Option Double :=
  let (whole, r) := spanDigits s
  let (fraction, r) := match r with
    | '.' :: r => spanDigits r
    | r => ([], r)
  if whole.isEmpty && fraction.isEmpty then none
  else (exponent? r).map fun e =>
    .ofScientific negative (ofDigits 10 (whole ++ fraction)) (e - fraction.length)

/-- The words for the values that have no digits, with a sign before them. -/
def Double.readWord? (negative : Bool) (s : List Char) : Option Double :=
  let w := String.ofList (s.map Char.toLower)
  if w == "inf" || w == "infinity" then some (.infinite negative)
  else if w == "nan" then some .notANumber
  else none

/-- **The double that a numeral stands for**; `none` if the text is no numeral. -/
def Double.read? (s : List Char) : Option Double := do
  let s := ((s.dropWhile isNumeralBlank).reverse.dropWhile isNumeralBlank).reverse
  let s ← withoutSeparators? (withAsciiDigits s)
  let (negative, s) := match s with
    | '-' :: r => (true, r)
    | '+' :: r => (false, r)
    | r => (false, r)
  (readUnsigned? negative s).or (readWord? negative s)

end Landscape
