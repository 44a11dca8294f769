import Landscape.PlantUml.Address
import Landscape.Proofs.Deflate.Inflate
import Landscape.Proofs.Text.Utf8

/-!
# Texts come back from their addresses

Four letters hold the bits of three bytes, and each letter holds six of them, its number among the letters
(`Landscape.PlantUml.number?`). So the bytes come back from the letters, with zeros for what was missing of the last
three (`Landscape.PlantUml.unspell_spell`). Nothing in the letters says how many of these zeros there are; but the
compressed bytes say themselves where they end, and so the text comes back as well
(`Landscape.PlantUml.encode_undone`).
-/

namespace Landscape.PlantUml

/-! ### Letters and numbers -/

/-- The number of a letter. -/
def number? (c : Char) : Option Nat :=
  letters.idxOf? c

theorem length_letters : letters.length = 64 := by
  decide

theorem number?_letter : ∀ n < 64, number? (letter n) = some n := by
  decide +kernel

theorem letter_mem {n : Nat} (hn : n < 64) : letter n ∈ letters := by
  rw [letter, List.getD_eq_getElem letters '0' (length_letters ▸ hn)]
  exact List.getElem_mem _

/-- The bytes that letters stand for, three for every four letters. -/
def unspell : List Char → Option (List UInt8)
  | [] => some []
  | p :: q :: r :: s :: cs => do
    let n := (((← number? p) * 0x40 + (← number? q)) * 0x40 + (← number? r)) * 0x40 + (← number? s)
    return (n / 0x10000).toUInt8 :: (n / 0x100 % 0x100).toUInt8 :: (n % 0x100).toUInt8 :: (← unspell cs)
  | _ => none

/-! ### Bytes in letters -/

/-- The letters of three bytes are among the 64. -/
theorem mem_lettersOf (a b c : UInt8) : ∀ x ∈ lettersOf a b c, x ∈ letters := by
  have ha := a.toNat_lt
  have hb := b.toNat_lt
  have hc := c.toNat_lt
  intro x hx
  simp only [lettersOf, List.mem_cons, List.not_mem_nil, or_false] at hx
  rcases hx with rfl | rfl | rfl | rfl
  · exact letter_mem (by omega)
  · exact letter_mem (by omega)
  · exact letter_mem (by omega)
  · exact letter_mem (by omega)

/-- **Three bytes come back from their letters.** -/
theorem unspell_lettersOf (a b c : UInt8) (cs : List Char) :
    unspell (lettersOf a b c ++ cs) = (unspell cs).map fun bytes => a :: b :: c :: bytes := by
  have ha := a.toNat_lt
  have hb := b.toNat_lt
  have hc := c.toNat_lt
  generalize hn : a.toNat * 0x10000 + b.toNat * 0x100 + c.toNat = n
  -- the letters are the digits of the number of the three bytes
  have hletters : lettersOf a b c =
      [letter (n / 0x40000), letter (n / 0x1000 % 0x40), letter (n / 0x40 % 0x40), letter (n % 0x40)] := by
    rw [lettersOf, hn]
  have hnumber : ((n / 0x40000 * 0x40 + n / 0x1000 % 0x40) * 0x40 + n / 0x40 % 0x40) * 0x40 + n % 0x40 = n := by
    omega
  have hfirst : n / 0x10000 = a.toNat := by omega
  have hsecond : n / 0x100 % 0x100 = b.toNat := by omega
  have hthird : n % 0x100 = c.toNat := by omega
  rw [hletters, List.cons_append, List.cons_append, List.cons_append, List.singleton_append, unspell,
    number?_letter _ (by omega), number?_letter _ (by omega), number?_letter _ (by omega),
    number?_letter _ (by omega)]
  simp only [Option.bind_eq_bind, Option.bind_some]
  rw [hnumber, hfirst, hsecond, hthird]
  simp only [Nat.toUInt8_eq, UInt8.ofNat_toNat]
  cases unspell cs <;> rfl

theorem mem_spell (bytes : List UInt8) : ∀ x ∈ spell bytes, x ∈ letters := by
  fun_induction spell bytes with
  | case1 => exact fun x hx => absurd hx List.not_mem_nil
  | case2 a => exact mem_lettersOf a 0 0
  | case3 a b => exact mem_lettersOf a b 0
  | case4 a b c bytes ih => exact fun x hx => (List.mem_append.mp hx).elim (mem_lettersOf a b c x) (ih x)

theorem length_lettersOf (a b c : UInt8) : (lettersOf a b c).length = 4 :=
  rfl

theorem length_spell (bytes : List UInt8) : (spell bytes).length = 4 * ((bytes.length + 2) / 3) := by
  fun_induction spell bytes with
  | case1 => rfl
  | case2 a => simp [length_lettersOf]
  | case3 a b => simp [length_lettersOf]
  | case4 a b c bytes ih =>
    rw [List.length_append, ih]
    show 4 + 4 * ((bytes.length + 2) / 3) = 4 * ((bytes.length + 3 + 2) / 3)
    omega

/-- **Bytes come back from their letters**, with zeros up to a multiple of three. -/
theorem unspell_spell (bytes : List UInt8) :
    unspell (spell bytes) = some (bytes ++ List.replicate ((3 - bytes.length % 3) % 3) 0) := by
  fun_induction spell bytes with
  | case1 => rfl
  | case2 a =>
    have hback := unspell_lettersOf a 0 0 []
    rwa [List.append_nil] at hback
  | case3 a b =>
    have hback := unspell_lettersOf a b 0 []
    rwa [List.append_nil] at hback
  | case4 a b c bytes ih =>
    have hmod : (a :: b :: c :: bytes).length % 3 = bytes.length % 3 := by
      simp only [List.length_cons]
      omega
    rw [unspell_lettersOf, ih, hmod]
    rfl

/-! ### Texts in letters -/

/-- **The letters of a text can be undone**, and no two texts have the same. -/
theorem encode_undone (text : String) :
    let bytes := Deflate.compress (Utf8.encode text.toList)
    (∀ c ∈ (encode text).toList, c ∈ letters) ∧ (encode text).length = 4 * ((bytes.length + 2) / 3) ∧
      unspell (encode text).toList = some (bytes ++ List.replicate ((3 - bytes.length % 3) % 3) 0) ∧
      (unspell (encode text).toList).bind Deflate.inflate = some (Utf8.encode text.toList) ∧
      ∀ text', encode text = encode text' → text = text' := by
  intro bytes
  have hletters (t : String) : (encode t).toList = spell (Deflate.compress (Utf8.encode t.toList)) :=
    String.toList_ofList
  have hbytes (t : String) : (unspell (encode t).toList).bind Deflate.inflate = some (Utf8.encode t.toList) := by
    rw [hletters, unspell_spell, Option.bind_some, Deflate.inflate_compress]
  refine ⟨?_, ?_, ?_, hbytes text, fun text' h => ?_⟩
  · rw [hletters]
    exact mem_spell bytes
  · rw [← String.length_toList, hletters]
    exact length_spell bytes
  · rw [hletters]
    exact unspell_spell bytes
  · -- the bytes of the texts are the same, since they come back from the same letters
    have hsame := hbytes text
    rw [h, hbytes text'] at hsame
    exact (String.toList_inj.mp (Utf8.encode_injective (Option.some.inj hsame))).symm

end Landscape.PlantUml
