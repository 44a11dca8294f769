import Landscape.Proofs.Deflate.Header
import Landscape.Proofs.Deflate.Search

/-!
# Reading blocks

The tokens of a block are read one after the other up to its end, and expanded they are the data that they tell
(`Landscape.Deflate.readTokens_tells`). So whichever of the three ways a block is written in, it is read back
(`Landscape.Deflate.Block.readBlock_bits`). Bytes that are written as they are begin with a byte: the bits that are left out
before them are found again if all the bits, before and after, fill up bytes.
-/

namespace Landscape.Deflate

variable {data : Array UInt8} {i j : Nat} {ts : List Token}

/-! ### Tokens -/

section

variable {main distance : Code}

/-- The end of a block is read from its symbol. -/
theorem reads_endOfBlock (hmain : main.isPrefixFree = true) (hend : main.word endOfBlock ≠ []) :
    Reads (readToken main distance) (main.word endOfBlock) none := by
  rw [← List.append_nil (main.word endOfBlock)]
  refine (reads_symbol hmain hend).bind ?_
  rw [if_neg (Nat.lt_irrefl endOfBlock), if_pos rfl]
  exact reads_pure none

/-- A token is read, expanded, and leaves fewer bits. -/
theorem readTokens_token (hmain : main.isPrefixFree = true) (hdistance : distance.isPrefixFree = true) {t : Token}
    (ht : t.IsWritable) (hwords : t.HasWords main distance) {before : Array UInt8}
    (hwithin : t.isWithin before = true) (rest : List Bool) :
    readTokens main distance before (t.bitsIn main distance ++ rest) =
      readTokens main distance (t.append before) rest := by
  have hread : readToken main distance (t.bitsIn main distance ++ rest) = some (some t, rest) :=
    reads_token hmain hdistance ht hwords rest
  have hshorter : rest.length < (t.bitsIn main distance ++ rest).length := by
    have hword := List.length_pos_iff.mpr hwords.1
    rw [List.length_append, Token.bitsIn, List.length_append, Spelled.bitsIn, List.length_append]
    omega
  rw [readTokens, hread]
  dsimp only
  rw [hwithin, decide_eq_true hshorter, Bool.and_self, if_pos rfl]

/-- **The tokens of a block are read up to its end**, and expanded they are the data they tell. -/
theorem readTokens_tells (hmain : main.isPrefixFree = true) (hdistance : distance.isPrefixFree = true)
    (hend : main.word endOfBlock ≠ []) (h : Tells data i ts j) (hwords : ∀ t ∈ ts, t.HasWords main distance)
    (rest : List Bool) :
    readTokens main distance (data.extract 0 i)
      (ts.flatMap (Token.bitsIn main distance) ++ (main.word endOfBlock ++ rest)) =
      some (data.extract 0 j, rest) := by
  induction h with
  | done i =>
    have hread : readToken main distance (main.word endOfBlock ++ rest) = some (none, rest) :=
      reads_endOfBlock hmain hend rest
    rw [List.flatMap_nil, List.nil_append, readTokens, hread]
  | @byte i j ts hi hrest ih =>
    obtain ⟨hword, hwords⟩ := List.forall_mem_cons.mp hwords
    have hwritable : (Token.byte (data.getD i 0)).IsWritable := trivial
    rw [List.flatMap_cons, List.append_assoc, readTokens_token hmain hdistance hwritable hword rfl, Token.append,
      push_getD_extract hi]
    exact ih hwords
  | copy hwritable hback hend hsame hrest ih =>
    obtain ⟨hword, hwords⟩ := List.forall_mem_cons.mp hwords
    rw [List.flatMap_cons, List.append_assoc, readTokens_token hmain hdistance hwritable hword ?_, Token.append,
      appendCopy_extract hwritable.2.2.1 hback hend hsame]
    · exact ih hwords
    · rw [Token.isWithin, Array.size_extract, Bool.and_eq_true, decide_eq_true_eq, decide_eq_true_eq]
      have hpos := hwritable.2.2.1
      omega

end

/-! ### Bodies -/

namespace Block

/-- The body of a block is its tokens with the end after them. -/
theorem body_eq (b : Block) (main distance : Code) :
    b.body main distance = b.tokens.flatMap (Token.bitsIn main distance) ++ main.word endOfBlock := by
  have hword (c : Code) (s : Nat) : c.toArray.getD s [] = c.word s := by
    simp [Code.word, Array.getD_eq_getD_getElem?, List.getD_eq_getElem?_getD]
  simp only [body, hword]
  rfl

end Block

/-! ### The three ways -/

/-- A block begins with whether it is the last, and with the way it is written in. -/
theorem readBlock_of_readBody {before after : Array UInt8} (way : Nat) (hway : way < 2 ^ 2)
    {bits rest : List Bool} (h : (readBody before way).run bits = some (after, rest)) (last : Bool) :
    (readBlock before).run ([last] ++ (bitsUp 2 way ++ bits)) = some ((after, last), rest) := by
  have hlast : Reads (readNumber 1) [last] last.toNat := by
    have hread := reads_number (show last.toNat < 2 ^ 1 from last.toNat_lt)
    cases last <;> exact hread
  rw [readBlock, StateT.run_bind, hlast, Option.bind_eq_bind, Option.bind_some, StateT.run_bind, reads_number hway,
    Option.bind_eq_bind, Option.bind_some, StateT.run_bind, h]
  cases last <;> rfl

namespace Block

variable {b : Block}

/-- A block in the codes that are the same for all. -/
theorem readBlock_fixed (h : Tells data i b.tokens j) (last : Bool) (rest : List Bool) :
    (readBlock (data.extract 0 i)).run (b.fixed last ++ rest) = some ((data.extract 0 j, last), rest) := by
  have hend : (Code.ofLengths longestWord fixedMain).word endOfBlock ≠ [] :=
    word_ne_nil_iff.mpr (fixedMain_spec (by decide)).1
  have hbody := readTokens_tells isPrefixFree_fixedMain isPrefixFree_fixedDistance hend h
    (fun t ht => Token.hasWords_fixed (h.isWritable t ht)) rest
  rw [← List.append_assoc, ← body_eq] at hbody
  rw [fixed, List.append_assoc]
  exact readBlock_of_readBody 1 (by decide) hbody last

/-- A block's own codes have words for its tokens. -/
theorem hasWords_header {t : Token} (ht : t ∈ b.tokens) (hwritable : t.IsWritable) :
    t.HasWords (Code.ofLengths longestWord b.header.main) (Code.ofLengths longestWord b.header.distance) := by
  have hlongest : 0 < longestWord := by decide
  constructor
  · rw [word_ne_nil_iff, header_main]
    exact dropZeros_codeLengths_pos hlongest (List.mem_append_left _ (List.mem_map_of_mem ht))
      (Token.main_lt hwritable).1
  · intro s hs
    rw [word_ne_nil_iff, header_distance]
    exact dropZeros_codeLengths_pos hlongest (List.mem_filterMap.mpr ⟨t, ht, hs⟩) (Token.distance_lt hwritable hs).1

/-- A block in codes of its own. -/
theorem readBlock_dynamic (h : Tells data i b.tokens j) (last : Bool) (rest : List Bool) :
    (readBlock (data.extract 0 i)).run (b.dynamic b.header last ++ rest) = some ((data.extract 0 j, last), rest) := by
  have hend : (Code.ofLengths longestWord b.header.main).word endOfBlock ≠ [] :=
    word_ne_nil_iff.mpr b.header_main_endOfBlock_pos
  have hbody := readTokens_tells b.isPrefixFree_header_main b.isPrefixFree_header_distance hend h
    (fun t ht => hasWords_header ht (h.isWritable t ht)) rest
  rw [← List.append_assoc, ← body_eq] at hbody
  have hboth : (readBody (data.extract 0 i) 2).run (b.header.bits ++ (b.body (Code.ofLengths longestWord b.header.main)
      (Code.ofLengths longestWord b.header.distance) ++ rest)) = some (data.extract 0 j, rest) := by
    rw [readBody, StateT.run_bind, b.reads_header]
    exact hbody
  rw [dynamic, List.append_assoc, List.append_assoc]
  exact readBlock_of_readBody 2 (by decide) hboth last

/-- The bits up to the next byte are left out if all the bits fill up bytes. -/
theorem run_skipToByte {n : Nat} {bits : List Bool} (h : (n + (padding n).length + bits.length) % 8 = 0) :
    skipToByte.run (padding n ++ bits) = some ((), bits) := by
  have hlength : (padding n).length = (8 - n % 8) % 8 := List.length_replicate
  have hrest : (padding n ++ bits).length % 8 = (padding n).length := by
    rw [List.length_append]
    omega
  show some ((), (padding n ++ bits).drop ((padding n ++ bits).length % 8)) = _
  rw [hrest, List.drop_left]

/-- Bytes are read as they are, if there are not too many. -/
theorem reads_bytes (before : Array UInt8) {bytes : List UInt8} (hfew : bytes.length < 2 ^ 16) :
    Reads (readBytes before)
      (bitsUp 16 bytes.length ++ (bitsUp 16 (0xffff - bytes.length) ++ bytes.flatMap fun x => bitsUp 8 x.toNat))
      (before ++ bytes.toArray) := by
  have hcomplement : bytes.length + (0xffff - bytes.length) = 0xffff := by omega
  have hback : (bytes.map UInt8.toNat).map Nat.toUInt8 = bytes := by
    rw [List.map_map]
    exact (List.map_congr_left fun x _ => UInt8.ofNat_toNat).trans (List.map_id bytes)
  refine (reads_number hfew).bind ((reads_number (by omega)).bind ?_)
  rw [if_pos hcomplement]
  have hmany := (reads_many fun (x : UInt8) (_ : x ∈ bytes) => reads_number x.toNat_lt).map
    fun ns => before ++ (ns.map Nat.toUInt8).toArray
  rwa [hback] at hmany

/-- A block as the bytes it stands for, if there are not too many. All the bits fill up bytes. -/
theorem readBlock_stored (hbytes : b.bytes = (data.extract i j).toList) (hij : i ≤ j)
    (hfew : b.bytes.length < 2 ^ 16) {offset : Nat} {last : Bool} {rest : List Bool}
    (haligned : (offset + (b.stored offset last).length + rest.length) % 8 = 0) :
    (readBlock (data.extract 0 i)).run (b.stored offset last ++ rest) = some ((data.extract 0 j, last), rest) := by
  have hafter : data.extract 0 i ++ b.bytes.toArray = data.extract 0 j := by
    rw [hbytes, Array.toArray_toList, Array.extract_append_extract, Nat.zero_min, Nat.max_eq_right hij]
  have hread := reads_bytes (data.extract 0 i) hfew rest
  rw [hafter] at hread
  rw [stored] at haligned ⊢
  simp only [List.append_assoc, List.length_append] at haligned hread ⊢
  -- the bits up to the next byte are counted from the beginning of all bits when they are written, and from their
  -- end when they are left out
  have hbody : (readBody (data.extract 0 i) 0).run (padding (offset + 3) ++ (bitsUp 16 b.bytes.length ++
      (bitsUp 16 (0xffff - b.bytes.length) ++ ((b.bytes.flatMap fun x => bitsUp 8 x.toNat) ++ rest)))) =
      some (data.extract 0 j, rest) := by
    rw [readBody, readStored, StateT.run_bind, run_skipToByte ?_]
    · rw [Option.bind_eq_bind, Option.bind_some]
      exact hread
    · have hbegin : [last, false, false].length = 3 := rfl
      simp only [List.length_append]
      omega
  exact readBlock_of_readBody 0 (by decide) hbody last

/-! ### The cheapest way -/

theorem costOf_le (most : Nat) {lengths : List Nat} {spelled : List Spelled}
    (hmost : ∀ s ∈ spelled, lengths.getD s.symbol 0 + s.bits ≤ most) :
    costOf lengths spelled ≤ most * spelled.length := by
  have hfold (cost : Nat) :
      spelled.foldl (fun cost s => cost + (lengths.toArray.getD s.symbol 0 + s.bits)) cost ≤
        cost + most * spelled.length := by
    induction spelled generalizing cost with
    | nil => exact Nat.le_add_right _ _
    | cons s spelled ih =>
      obtain ⟨hs, hrest⟩ := List.forall_mem_cons.mp hmost
      have hget : lengths.toArray.getD s.symbol 0 = lengths.getD s.symbol 0 := by
        simp [Array.getD_eq_getD_getElem?, List.getD_eq_getElem?_getD]
      have hlater := ih hrest (cost + (lengths.toArray.getD s.symbol 0 + s.bits))
      rw [List.foldl_cons, List.length_cons, Nat.mul_succ]
      omega
  have hall := hfold 0
  rwa [Nat.zero_add] at hall

/-- **A block that is written as bytes has not too many of them**, since its few tokens would take fewer bytes. -/
theorem length_bytes_lt (hwritable : ∀ t ∈ b.tokens, t.IsWritable) (hfew : b.tokens.length ≤ tokensPerBlock)
    (hcheap : b.bytes.length + 4 ≤ bytesFor (costOf fixedMain b.main + costOf fixedDistance b.distances)) :
    b.bytes.length < 2 ^ 16 := by
  -- a word of nine bits and five bits after it, for each symbol of the first alphabet
  have hmain : costOf fixedMain b.main ≤ 14 * b.main.length := by
    refine costOf_le 14 fun s hs => ?_
    rcases List.mem_append.mp hs with htoken | hend
    · obtain ⟨t, ht, rfl⟩ := List.mem_map.mp htoken
      obtain ⟨hsymbol, hbits⟩ := Token.main_lt (hwritable t ht)
      have hlength := (fixedMain_spec hsymbol).2
      omega
    · rw [List.mem_singleton.mp hend]
      decide
  -- a word of five bits and thirteen bits after it, for each symbol of the second
  have hdistance : costOf fixedDistance b.distances ≤ 18 * b.distances.length := by
    refine costOf_le 18 fun s hs => ?_
    obtain ⟨t, ht, hst⟩ := List.mem_filterMap.mp hs
    obtain ⟨hsymbol, hbits⟩ := Token.distance_lt (hwritable t ht) hst
    rw [fixedDistance_spec _ hsymbol]
    omega
  have hlength : b.main.length = b.tokens.length + 1 := by
    rw [main, List.length_append, List.length_map, List.length_singleton]
  have hlength' : b.distances.length ≤ b.tokens.length := List.length_filterMap_le _ _
  have hblock : tokensPerBlock = 16383 := rfl
  rw [bytesFor] at hcheap
  omega

/-- **A block is read back**, whichever way it is written in. -/
theorem readBlock_bits (h : Tells data i b.tokens j) (hbytes : b.bytes = (data.extract i j).toList)
    (hfew : b.tokens.length ≤ tokensPerBlock) {offset : Nat} {last : Bool} {rest : List Bool}
    (haligned : (offset + (b.bits offset last).length + rest.length) % 8 = 0) :
    (readBlock (data.extract 0 i)).run (b.bits offset last ++ rest) = some ((data.extract 0 j, last), rest) := by
  rw [bits] at haligned ⊢
  split at haligned
  · rename_i hcheap
    rw [if_pos hcheap]
    refine readBlock_stored hbytes ?_ ?_ haligned
    · rw [h.end_eq]
      exact Nat.le_add_right _ _
    · exact length_bytes_lt h.isWritable hfew (Nat.le_trans hcheap (Nat.min_le_right _ _))
  · rename_i hcheap
    rw [if_neg hcheap]
    split
    · exact readBlock_fixed h last rest
    · exact readBlock_dynamic h last rest

end Block

end Landscape.Deflate
