import Landscape.Text.Utf8

/-!
# Texts come back from their bytes

The bytes of a character are read as this character, whatever follows them (`Landscape.Utf8.read_encodeChar`): the first
says how many more there are, and the second lies within the bounds that rule out overlong forms and halves, since the
number of a character needs its bytes and is not that of a half. So a text is decoded from its bytes
(`Landscape.Utf8.decode_encode`), and no two texts have the same bytes.
-/

namespace Landscape.Utf8

/-! ### First bytes -/

/-- A number that a byte holds. -/
theorem toNat_toUInt8 {n : Nat} (h : n < 0x100) : n.toUInt8.toNat = n :=
  UInt8.toNat_ofNat_of_lt' h

theorem lead?_one : ∀ n < 0x80, lead? n.toUInt8 = some (0, 0, 0) := by
  decide +kernel

theorem lead?_two : ∀ k < 30, lead? (0xc2 + k).toUInt8 = some (1, 0x80, 0xbf) := by
  decide +kernel

theorem lead?_three : ∀ k < 16, lead? (0xe0 + k).toUInt8 =
    some (2, if k = 0 then 0xa0 else 0x80, if k = 13 then 0x9f else 0xbf) := by
  decide +kernel

theorem lead?_four : ∀ k < 5, lead? (0xf0 + k).toUInt8 =
    some (3, if k = 0 then 0x90 else 0x80, if k = 4 then 0x8f else 0xbf) := by
  decide +kernel

/-! ### The bytes after them -/

/-- A byte within the bounds goes on with the character. -/
theorem readRest_cons {m value seen left : Nat} {lo hi : UInt8} {r : List UInt8} (hm : m < 0x40)
    (hlo : lo.toNat ≤ 0x80 + m) (hhi : 0x80 + m ≤ hi.toNat) :
    readRest value seen lo hi (left + 1) ((0x80 + m).toUInt8 :: r) =
      readRest (value * 0x40 + m) (seen + 1) 0x80 0xbf left r := by
  have hbyte : (0x80 + m).toUInt8.toNat = 0x80 + m := toNat_toUInt8 (by omega)
  have hlow : (0x80 + m) % 0x40 = m := by omega
  have hlo' : lo ≤ (0x80 + m).toUInt8 := by rwa [UInt8.le_iff_toNat_le, hbyte]
  have hhi' : (0x80 + m).toUInt8 ≤ hi := by rwa [UInt8.le_iff_toNat_le, hbyte]
  rw [readRest, decide_eq_true hlo', decide_eq_true hhi', Bool.and_self, if_pos rfl, hbyte, hlow]

/-- A byte that goes on with a character and is not the second one. -/
theorem readRest_tail {m value seen left : Nat} {r : List UInt8} (hm : m < 0x40) :
    readRest value seen 0x80 0xbf (left + 1) ((0x80 + m).toUInt8 :: r) =
      readRest (value * 0x40 + m) (seen + 1) 0x80 0xbf left r :=
  readRest_cons hm (Nat.le_add_right _ _) (Nat.add_le_add_left (Nat.le_of_lt_succ hm) 0x80)

theorem read_two {n : Nat} (hlong : 0x80 ≤ n) (hshort : n < 0x800) (rest : List UInt8) :
    read (0xc0 + n / 0x40).toUInt8 ((0x80 + n % 0x40).toUInt8 :: rest) = .character (Char.ofNat n) 2 := by
  -- no character begins with 0xc0 or 0xc1: both would begin overlong forms
  obtain ⟨k, hk⟩ : ∃ k, n / 0x40 = k + 2 := ⟨n / 0x40 - 2, by omega⟩
  have hbyte : (0xc2 + k).toUInt8.toNat % Nat.pow 2 5 = k + 2 := by
    rw [toNat_toUInt8 (by omega)]
    show (0xc2 + k) % 32 = k + 2
    omega
  have hnumber : (k + 2) * 0x40 + n % 0x40 = n := by omega
  have hfirst : 0xc0 + n / 0x40 = 0xc2 + k := by omega
  rw [hfirst, read, lead?_two k (by omega)]
  dsimp only
  rw [if_neg (by decide), readRest_tail (Nat.mod_lt n (by decide)), hbyte, hnumber, readRest]

theorem read_three {n : Nat} (hlong : 0x800 ≤ n) (hshort : n < 0x10000) (hvalid : n < 0xd800 ∨ 0xdfff < n)
    (rest : List UInt8) :
    read (0xe0 + n / 0x1000).toUInt8
      ((0x80 + n / 0x40 % 0x40).toUInt8 :: (0x80 + n % 0x40).toUInt8 :: rest) = .character (Char.ofNat n) 3 := by
  have hbyte : (0xe0 + n / 0x1000).toUInt8.toNat % Nat.pow 2 4 = n / 0x1000 := by
    rw [toNat_toUInt8 (by omega)]
    show (0xe0 + n / 0x1000) % 16 = n / 0x1000
    omega
  have hnumber : (n / 0x1000 * 0x40 + n / 0x40 % 0x40) * 0x40 + n % 0x40 = n := by omega
  rw [read, lead?_three (n / 0x1000) (by omega)]
  dsimp only
  rw [if_neg (by decide), readRest_cons (by omega) ?_ ?_, readRest_tail (by omega), hbyte, hnumber, readRest]
  · -- no overlong form
    split
    · show 0xa0 ≤ 0x80 + n / 0x40 % 0x40
      omega
    · exact Nat.le_add_right _ _
  · -- no half
    split
    · show 0x80 + n / 0x40 % 0x40 ≤ 0x9f
      omega
    · show 0x80 + n / 0x40 % 0x40 ≤ 0xbf
      omega

theorem read_four {n : Nat} (hlong : 0x10000 ≤ n) (hvalid : n < 0x110000) (rest : List UInt8) :
    read (0xf0 + n / 0x40000).toUInt8 ((0x80 + n / 0x1000 % 0x40).toUInt8 ::
      (0x80 + n / 0x40 % 0x40).toUInt8 :: (0x80 + n % 0x40).toUInt8 :: rest) = .character (Char.ofNat n) 4 := by
  have hbyte : (0xf0 + n / 0x40000).toUInt8.toNat % Nat.pow 2 3 = n / 0x40000 := by
    rw [toNat_toUInt8 (by omega)]
    show (0xf0 + n / 0x40000) % 8 = n / 0x40000
    omega
  have hnumber : ((n / 0x40000 * 0x40 + n / 0x1000 % 0x40) * 0x40 + n / 0x40 % 0x40) * 0x40 + n % 0x40 = n := by omega
  rw [read, lead?_four (n / 0x40000) (by omega)]
  dsimp only
  rw [if_neg (by decide), readRest_cons (by omega) ?_ ?_, readRest_tail (by omega), readRest_tail (by omega), hbyte,
    hnumber, readRest]
  · -- no overlong form
    split
    · show 0x90 ≤ 0x80 + n / 0x1000 % 0x40
      omega
    · exact Nat.le_add_right _ _
  · -- no number beyond the last
    split
    · show 0x80 + n / 0x1000 % 0x40 ≤ 0x8f
      omega
    · show 0x80 + n / 0x1000 % 0x40 ≤ 0xbf
      omega

/-- **The bytes of a character are read as this character**, whatever follows them. -/
theorem read_encodeChar (c : Char) : ∃ b bs, encodeChar c = b :: bs ∧
    ∀ rest, read b (bs ++ rest) = .character c (bs.length + 1) := by
  have hvalid : c.toNat < 0xd800 ∨ (0xdfff < c.toNat ∧ c.toNat < 0x110000) := c.valid
  have hback : Char.ofNat c.toNat = c := Char.ofNat_toNat c
  rw [encodeChar]
  generalize c.toNat = n at hvalid hback
  rw [← hback]
  split
  · rename_i hone
    refine ⟨_, _, rfl, fun rest => ?_⟩
    rw [read, lead?_one n hone]
    dsimp only
    rw [if_pos (beq_self_eq_true 0), readRest, toNat_toUInt8 (by omega)]
    rfl
  · split
    · exact ⟨_, _, rfl, fun rest => read_two (by omega) (by omega) rest⟩
    · split
      · exact ⟨_, _, rfl, fun rest => read_three (by omega) (by omega) (by omega) rest⟩
      · exact ⟨_, _, rfl, fun rest => read_four (by omega) (by omega) rest⟩

/-! ### Texts -/

theorem decodeBlock_encode (position : Nat) (s : List Char) : decodeBlock position (encode s) = .ok (s, []) := by
  induction s generalizing position with
  | nil => rw [encode, List.flatMap_nil, decodeBlock]
  | cons c s ih =>
    obtain ⟨b, bs, hbytes, hread⟩ := read_encodeChar c
    have hcons : encode (c :: s) = b :: (bs ++ encode s) := by
      rw [encode, List.flatMap_cons, hbytes]
      rfl
    rw [hcons, decodeBlock, hread]
    dsimp only
    rw [Nat.add_sub_cancel, List.drop_left, ih]
    rfl

/-- **A text is decoded from its bytes.** -/
theorem decode_encode (s : List Char) : decode (encode s) = .ok s := by
  rw [decode, decodeBlock_encode]
  rfl

/-- **No two texts have the same bytes.** -/
theorem encode_injective {s s' : List Char} (h : encode s = encode s') : s = s' := by
  have hdecode := decode_encode s
  rw [h, decode_encode] at hdecode
  exact (Except.ok.inj hdecode).symm

end Landscape.Utf8
