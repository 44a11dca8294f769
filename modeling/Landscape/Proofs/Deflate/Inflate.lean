import Landscape.Deflate.Basic
import Landscape.Proofs.Deflate.Body

/-!
# What was compressed is read back

The tokens of some data are cut into blocks, none of which is too long, and none of the tokens is lost
(`Landscape.Deflate.flatten_tokenBlocks`). The blocks are read one after the other up to the last, each continuing the
data where the one before it ended (`Landscape.Deflate.readBlocks_blockBits`). So the compressed form of some data is
read as these data, whatever bytes come after it (`Landscape.Deflate.inflate_compress`), and different data have
different compressed forms (`Landscape.Deflate.compress_append_injective`).
-/

namespace Landscape.Deflate

/-! ### Blocks of tokens -/

theorem tokenBlocks_ne_nil (tokens : List Token) : tokenBlocks tokens ≠ [] := by
  fun_induction tokenBlocks tokens with
  | case1 => exact List.cons_ne_nil _ _
  | case2 => exact List.cons_ne_nil _ _
  | case3 => exact List.cons_ne_nil _ _

/-- **No token is lost.** -/
theorem flatten_tokenBlocks (tokens : List Token) : (tokenBlocks tokens).flatten = tokens := by
  fun_induction tokenBlocks tokens with
  | case1 tokens hfew => exact List.flatten_singleton
  | case2 tokens hmany first rest closed hlast =>
    have hrest : tokens.drop tokensPerBlock = [] := List.isEmpty_iff.mp (Bool.and_eq_true _ _ ▸ hlast).1
    have hall := List.take_append_drop tokensPerBlock tokens
    rw [hrest, List.append_nil] at hall
    rw [List.flatten_singleton]
    exact hall
  | case3 tokens hmany first rest closed hmore ih =>
    rw [List.flatten_cons, ih]
    exact List.take_append_drop tokensPerBlock tokens

/-- **No block is too long.** -/
theorem length_le_of_mem_tokenBlocks (tokens : List Token) :
    ∀ block ∈ tokenBlocks tokens, block.length ≤ tokensPerBlock := by
  fun_induction tokenBlocks tokens with
  | case1 tokens hfew => exact List.forall_mem_singleton.mpr (Nat.le_of_lt hfew)
  | case2 tokens hmany first rest closed hlast =>
    exact List.forall_mem_singleton.mpr (List.length_take_le _ _)
  | case3 tokens hmany first rest closed hmore ih =>
    exact List.forall_mem_cons.mpr ⟨List.length_take_le _ _, ih⟩

/-! ### Reading blocks -/

theorem blockBits_cons (offset : Nat) (bytes : List UInt8) (tokens : List Token) (blocks : List (List Token)) :
    blockBits offset bytes (tokens :: blocks) =
      let n := (tokens.map Token.size).sum
      let bits := Block.bits ⟨bytes.take n, tokens⟩ offset blocks.isEmpty
      bits ++ blockBits (offset + bits.length) (bytes.drop n) blocks :=
  rfl

variable {data : Array UInt8} {i : Nat}

theorem take_toList_extract {n : Nat} (hn : i + n ≤ data.size) :
    (data.extract i data.size).toList.take n = (data.extract i (i + n)).toList := by
  rw [Array.toList_extract, Array.toList_extract, List.extract_eq_take_drop, List.extract_eq_take_drop,
    List.take_take]
  congr 1
  omega

theorem drop_toList_extract (data : Array UInt8) (i n : Nat) :
    (data.extract i data.size).toList.drop n = (data.extract (i + n) data.size).toList := by
  rw [Array.toList_extract, Array.toList_extract, List.extract_eq_take_drop, List.extract_eq_take_drop,
    List.drop_take, List.drop_drop, Nat.sub_sub]

theorem Block.length_bits_pos (b : Block) (offset : Nat) (last : Bool) : 0 < (b.bits offset last).length := by
  rw [bits]
  split
  · exact Nat.zero_lt_succ _
  · split
    · exact Nat.zero_lt_succ _
    · exact Nat.zero_lt_succ _

/-- A block is read in front of others, if all the bits fill up bytes, and leaves fewer bits. -/
theorem readBlock_next {block : Block} {m offset : Nat} {last : Bool} {later rest : List Bool}
    (h : Tells data i block.tokens m) (hbytes : block.bytes = (data.extract i m).toList)
    (hfew : block.tokens.length ≤ tokensPerBlock)
    (haligned : (offset + (block.bits offset last ++ later).length + rest.length) % 8 = 0) :
    readBlock (data.extract 0 i) (block.bits offset last ++ (later ++ rest)) =
        some ((data.extract 0 m, last), later ++ rest) ∧
      (later ++ rest).length < (block.bits offset last ++ (later ++ rest)).length := by
  constructor
  · refine Block.readBlock_bits h hbytes hfew ?_
    rw [List.length_append] at haligned ⊢
    rwa [Nat.add_assoc, ← Nat.add_assoc _ later.length, ← Nat.add_assoc offset]
  · have hpos := block.length_bits_pos offset last
    simp only [List.length_append]
    omega

/-- **The blocks are read as the data they tell.** -/
theorem readBlocks_blockBits {blocks : List (List Token)} (hne : blocks ≠ [])
    (hfew : ∀ block ∈ blocks, block.length ≤ tokensPerBlock) (h : Tells data i blocks.flatten data.size)
    (hi : i ≤ data.size) {bytes : List UInt8} (hbytes : bytes = (data.extract i data.size).toList) {offset : Nat}
    {rest : List Bool} (haligned : (offset + (blockBits offset bytes blocks).length + rest.length) % 8 = 0) :
    readBlocks (data.extract 0 i) (blockBits offset bytes blocks ++ rest) = some data := by
  induction blocks generalizing i offset bytes with
  | nil => exact absurd rfl hne
  | cons tokens blocks ih =>
    obtain ⟨hfirst, hlater⟩ := List.forall_mem_cons.mp hfew
    obtain ⟨m, htells, hrest⟩ := h.split
    obtain rfl := htells.end_eq
    have hle := htells.end_le hi
    rw [blockBits_cons] at haligned ⊢
    dsimp only at haligned ⊢
    generalize (tokens.map Token.size).sum = n at *
    have htake : bytes.take n = (data.extract i (i + n)).toList := hbytes ▸ take_toList_extract hle
    have hdrop : bytes.drop n = (data.extract (i + n) data.size).toList := hbytes ▸ drop_toList_extract data i n
    have htells' : Tells data i (Block.mk (bytes.take n) tokens).tokens (i + n) := htells
    obtain ⟨hread, hfewer⟩ := readBlock_next htells' htake hfirst haligned
    rw [List.append_assoc, readBlocks, hread]
    cases blocks with
    | nil =>
      -- the last block tells all the rest of the data
      have hend := hrest.end_eq
      rw [List.flatten_nil, List.map_nil, List.sum_nil, Nat.add_zero] at hend
      rw [← hend, Array.extract_size]
      rfl
    | cons b bs =>
      rw [List.length_append, ← Nat.add_assoc] at haligned
      dsimp only [List.isEmpty_cons] at hfewer haligned ⊢
      rw [if_pos hfewer]
      exact ih (List.cons_ne_nil b bs) hlater hrest hle hdrop haligned

/-- **What was compressed is read back**, whatever comes after it. -/
theorem inflate_compress (data rest : List UInt8) : inflate (compress data ++ rest) = some data := by
  have hall : data = (data.toArray.extract 0 data.toArray.size).toList := by rw [Array.extract_size]
  have htells : Tells data.toArray 0 (tokenBlocks (tokens data.toArray)).flatten data.toArray.size := by
    rw [flatten_tokenBlocks]
    exact tells_tokens data.toArray
  generalize hbits : blockBits 0 data (tokenBlocks (tokens data.toArray)) = bits
  -- after the bits of the blocks come those that fill up the last byte, and those of what comes after
  have haligned : (0 + bits.length + (Block.padding bits.length ++ bitsOf rest).length) % 8 = 0 := by
    rw [List.length_append, length_bitsOf, Block.padding, List.length_replicate]
    omega
  have hread := readBlocks_blockBits (tokenBlocks_ne_nil _) (length_le_of_mem_tokenBlocks _) htells (Nat.zero_le _)
    hall (hbits.symm ▸ haligned)
  rw [hbits, Array.extract_zero] at hread
  rw [inflate, compress, hbits, bitsOf_append, bitsOf_packBits, List.append_assoc, hread]
  rfl

/-- **Different data have different compressed forms**, even if something else comes after them. -/
theorem compress_append_injective {data data' rest rest' : List UInt8}
    (h : compress data ++ rest = compress data' ++ rest') : data = data' := by
  have hread := inflate_compress data rest
  rw [h, inflate_compress] at hread
  exact (Option.some.inj hread).symm

end Landscape.Deflate
