import Landscape.Deflate.Block
import Landscape.Proofs.Deflate.Reader
import Mathlib.Algebra.GroupWithZero.Nat

/-!
# Bits and numbers

Bits are packed into bytes, the last of which is filled up with zeros; taken out of the bytes again they are the same
bits with zeros after them (`Landscape.Deflate.bitsOf_packBits`). A number that is written in enough bits is read back
from them (`Landscape.Deflate.reads_number`), and so are several numbers in a row.
-/

namespace Landscape.Deflate

/-! ### Bits of numbers -/

@[simp] theorem length_bitsUp (n value : Nat) : (bitsUp n value).length = n := by
  simp [bitsUp]

theorem bitsUp_succ (n value : Nat) : bitsUp (n + 1) value = value.testBit 0 :: bitsUp n (value / 2) := by
  rw [bitsUp, bitsUp, List.range_succ_eq_map, List.map_cons, List.map_map]
  congr 1
  exact List.map_congr_left fun i _ => Nat.testBit_succ value i

/-- **A number is what its bits stand for**, if there are enough of them. -/
theorem ofBits_bitsUp {n value : Nat} (h : value < 2 ^ n) : ofBits (bitsUp n value) = value := by
  induction n generalizing value with
  | zero =>
    rw [Nat.pow_zero] at h
    have hzero : value = 0 := by omega
    rw [hzero]
    rfl
  | succ n ih =>
    have hhalf : value / 2 < 2 ^ n := by
      rw [Nat.pow_succ] at h
      omega
    rw [bitsUp_succ, ofBits, ih hhalf, Nat.testBit_zero]
    -- the lowest bit is the remainder modulo two
    rcases Nat.mod_two_eq_zero_or_one value with hmod | hmod
    · simp [hmod]
      omega
    · simp [hmod]
      omega

theorem ofBits_lt (bits : List Bool) : ofBits bits < 2 ^ bits.length := by
  induction bits with
  | nil => exact Nat.one_pos
  | cons b bits ih =>
    have hbit : b.toNat ≤ 1 := Bool.toNat_le b
    rw [ofBits, List.length_cons, Nat.pow_succ]
    omega

theorem bitsUp_zero (n : Nat) : bitsUp n 0 = List.replicate n false := by
  refine List.eq_replicate_iff.mpr ⟨length_bitsUp n 0, fun b hb => ?_⟩
  obtain ⟨i, -, rfl⟩ := List.mem_map.mp hb
  exact Nat.zero_testBit i

/-- Bits are those of the number they stand for, with zeros after them. -/
theorem bitsUp_ofBits {n : Nat} {bits : List Bool} (h : bits.length ≤ n) :
    bitsUp n (ofBits bits) = bits ++ List.replicate (n - bits.length) false := by
  induction bits generalizing n with
  | nil => exact bitsUp_zero n
  | cons b bits ih =>
    obtain ⟨m, rfl⟩ : ∃ m, n = m + 1 := ⟨n - 1, by rw [List.length_cons] at h; omega⟩
    rw [List.length_cons] at h
    have hbit : (b.toNat + 2 * ofBits bits).testBit 0 = b := by
      rw [Nat.testBit_zero]
      cases b <;> simp [Nat.add_mod]
    have hhalf : (b.toNat + 2 * ofBits bits) / 2 = ofBits bits := by
      have hle := Bool.toNat_le b
      omega
    rw [ofBits, bitsUp_succ, hbit, hhalf, ih (by omega), List.length_cons, Nat.add_sub_add_right]
    rfl

/-! ### Bits of bytes -/

theorem bitsOf_cons (b : UInt8) (bytes : List UInt8) : bitsOf (b :: bytes) = bitsUp 8 b.toNat ++ bitsOf bytes :=
  rfl

theorem bitsOf_append (bytes bytes' : List UInt8) : bitsOf (bytes ++ bytes') = bitsOf bytes ++ bitsOf bytes' :=
  List.flatMap_append

/-- There are eight bits in a byte. -/
theorem length_bitsOf (bytes : List UInt8) : (bitsOf bytes).length = 8 * bytes.length := by
  induction bytes with
  | nil => rfl
  | cons b bytes ih =>
    rw [bitsOf_cons, List.length_append, length_bitsUp, ih, List.length_cons]
    omega

/-- **Packed bits come out again**, with zeros up to the end of the last byte. -/
theorem bitsOf_packBits (bits : List Bool) : bitsOf (packBits bits) = bits ++ Block.padding bits.length := by
  induction bits using packBits.induct with
  | case1 =>
    rw [packBits]
    rfl
  | case2 b bits ih =>
    have hbyte : (ofBits (b :: bits.take 7)).toUInt8.toNat = ofBits (b :: bits.take 7) := by
      have hpow : 2 ^ (b :: bits.take 7).length ≤ 2 ^ 8 :=
        Nat.pow_le_pow_right (by decide) (by rw [List.length_cons, List.length_take]; omega)
      exact UInt8.toNat_ofNat_of_lt' (Nat.lt_of_lt_of_le (ofBits_lt _) hpow)
    rw [packBits, bitsOf_cons, hbyte, ih, bitsUp_ofBits (by rw [List.length_cons, List.length_take]; omega)]
    rcases Nat.lt_or_ge bits.length 7 with hshort | hlong
    · -- the last byte, which holds all that is left
      have hfill : (8 - (bits.length + 1) % 8) % 8 = 8 - (bits.length + 1) := by omega
      rw [List.take_of_length_le (by omega), List.drop_of_length_le (by omega), List.length_cons,
        Block.padding, Block.padding, hfill]
      exact List.append_nil _
    · -- a full byte
      have hlength : (b :: bits.take 7).length = 8 := by
        rw [List.length_cons, List.length_take]
        omega
      rw [hlength, Nat.sub_self, List.replicate_zero, List.append_nil, List.length_drop, List.length_cons,
        ← List.append_assoc, List.cons_append, List.take_append_drop, Block.padding, Block.padding]
      congr 2
      omega

/-! ### Reading numbers -/

/-- **A number is read from its bits**, if there are enough of them. -/
theorem reads_number {n value : Nat} (h : value < 2 ^ n) : Reads (readNumber n) (bitsUp n value) value := by
  intro rest
  have hle : n ≤ (bitsUp n value ++ rest).length := by
    rw [List.length_append, length_bitsUp]
    exact Nat.le_add_right _ _
  show readNumber n _ = _
  rw [readNumber, if_pos hle, List.take_left' (length_bitsUp n value), List.drop_left' (length_bitsUp n value),
    ofBits_bitsUp h]

/-- Several of the same are read one after the other. -/
theorem reads_many {α β : Type} {r : Reader α} {bits : β → List Bool} {value : β → α} {xs : List β}
    (h : ∀ x ∈ xs, Reads r (bits x) (value x)) :
    Reads (readMany r xs.length) (xs.flatMap bits) (xs.map value) := by
  induction xs with
  | nil => exact reads_pure []
  | cons x xs ih =>
    have hrest := ih fun y hy => h y (List.mem_cons_of_mem x hy)
    exact (h x List.mem_cons_self).bind (hrest.map _)

end Landscape.Deflate
