/-!
# Halves of characters

UTF-16 writes a character beyond U+FFFF as two halves, numbers between 0xD800 and 0xDFFF that no character has. A
document can name a half by its number, alone or beside another, and it then stays a half. So a text is made of
points, which are characters and halves (`Landscape.Point`).

A text holds a half as the character that lies `Landscape.halfDistance` beyond its number, in the last of the private
planes. A character from there that means itself has a mark in front, and so has the mark
(`Landscape.spell`). Thus every list of points has a text of its own, out of which it can be read again
(`Landscape.points_spelled`), and a text without characters of that zone is written as it is.
-/

namespace Landscape

/-! ### Points -/

/-- What a text is made of: characters, and halves by their numbers. -/
inductive Point where
  | char (c : Char)
  | half (n : Nat)
  deriving DecidableEq, Repr, Inhabited

/-- How far the character that stands for a half is beyond the half's number. -/
def halfDistance : Nat := 0x100000

/-- What is written before a character that could be taken for a half. -/
def meantMark : Char := Char.ofNat 0x10d7ff

/-- Whether a number is that of a half. -/
def isHalfNumber (n : Nat) : Bool :=
  0xd800 ≤ n && n ≤ 0xdfff

/-- Whether a character stands for a half, unless a mark is in front of it. -/
def isHalf (c : Char) : Bool :=
  halfDistance ≤ c.toNat && isHalfNumber (c.toNat - halfDistance)

/-! ### Writing -/

/-- The text of a character. -/
def spell (c : Char) : List Char :=
  if isHalf c || c == meantMark then [meantMark, c] else [c]

/-- The text of some characters. -/
def spelled (cs : List Char) : List Char :=
  cs.flatMap spell

/-- The text of the point that a number stands for. -/
def spellNumber (n : Nat) : List Char :=
  if isHalfNumber n then [Char.ofNat (n + halfDistance)] else spell (Char.ofNat n)

/-! ### Reading -/

/-- The point of a character without a mark in front. -/
def pointOf (c : Char) : Point :=
  if isHalf c then .half (c.toNat - halfDistance) else .char c

/-- The points of a text. -/
def points : List Char → List Point
  | [] => []
  | [c] => [pointOf c]
  | c :: d :: r => if c == meantMark then .char d :: points r else pointOf c :: points (d :: r)

/-- The text of the first points of a text. -/
def firstPoints : Nat → List Char → List Char
  | 0, _ => []
  | _ + 1, [] => []
  | _ + 1, [c] => [c]
  | n + 1, c :: d :: r => if c == meantMark then c :: d :: firstPoints n r else c :: firstPoints n (d :: r)

/-- The characters of some points, if they are all characters. -/
def plainChars? : List Point → Option (List Char)
  | [] => some []
  | .char c :: r => (plainChars? r).map (c :: ·)
  | .half _ :: _ => none

/-- The text of a character is read as this character. -/
theorem points_spell_append (c : Char) (r : List Char) :
    points (spell c ++ r) = .char c :: points r := by
  unfold spell
  split
  · simp [points]
  · rename_i h
    simp only [Bool.not_eq_true, Bool.or_eq_false_iff] at h
    cases r <;> simp [points, pointOf, h.1, h.2]

/-- The text of some characters is read as these characters. -/
theorem points_spelled (cs : List Char) : points (spelled cs) = cs.map .char := by
  induction cs with
  | nil => rfl
  | cons c r ih =>
    show points (spell c ++ spelled r) = _
    rw [points_spell_append, ih, List.map_cons]

/-- A character that is no mark is read by itself. -/
theorem points_cons_of_ne {c : Char} (hmark : (c == meantMark) = false) (s : List Char) :
    points (c :: s) = pointOf c :: points s := by
  cases s <;> simp [points, hmark]

/-- The first points of a text are read as they are in the text. -/
theorem points_firstPoints (n : Nat) (s : List Char) : points (firstPoints n s) = (points s).take n := by
  fun_induction firstPoints n s with
  | case1 s => simp [points]
  | case2 n => simp [points]
  | case3 n c => simp [points]
  | case4 n c d r hmark ih => simp [points, hmark, ih]
  | case5 n c d r hmark ih =>
    simp only [Bool.not_eq_true] at hmark
    rw [points_cons_of_ne hmark, points_cons_of_ne hmark, ih, List.take_succ_cons]

/-- Points that come of characters give them back. -/
theorem plainChars?_map (cs : List Char) : plainChars? (cs.map .char) = some cs := by
  induction cs with
  | nil => rfl
  | cons c r ih => simp [plainChars?, ih]

end Landscape
