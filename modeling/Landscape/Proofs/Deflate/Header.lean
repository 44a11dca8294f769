import Landscape.Proofs.Deflate.Room
import Landscape.Proofs.Deflate.Runs

/-!
# Reading the codes of a block

A block of its own codes begins with their lengths: how many there are, the lengths of the third code in an order of
their own (`Landscape.Deflate.Block.Header.lengthsInOrder_written`), and in this code the lengths of the other two
(`Landscape.Deflate.Block.stands_header_runs`). All of these numbers fit into their bits, since the codes have a word
for the end of the block and for some distance, and no word of them begins another, since there is room for them
(`Landscape.Deflate.hasRoom_codeLengths`). So the header is read as the lengths it was written for
(`Landscape.Deflate.Block.reads_header`).
-/

namespace Landscape.Deflate

/-! ### Lengths of a code of its own -/

section

variable {longest symbols : Nat} {spelled : List Spelled}

theorem length_codeLengths_countSymbols (hlongest : 0 < longest) (symbols : Nat) (spelled : List Spelled) :
    (codeLengths longest (countSymbols symbols spelled)).length = symbols := by
  rw [length_codeLengths hlongest, length_countSymbols]

/-- A symbol that occurs has a word in the code, and its length is not dropped. -/
theorem dropZeros_codeLengths_pos (hlongest : 0 < longest) {s : Spelled} (hs : s ∈ spelled)
    (hlt : s.symbol < symbols) :
    0 < (dropZeros (codeLengths longest (countSymbols symbols spelled))).getD s.symbol 0 := by
  rw [getD_dropZeros]
  exact codeLengths_countSymbols_pos hlongest hs hlt

theorem dropZeros_codeLengths_le (hlongest : 0 < longest) :
    ∀ l ∈ dropZeros (codeLengths longest (countSymbols symbols spelled)), l ≤ longest := by
  intro l hl
  obtain ⟨n, hn⟩ := exists_dropZeros (codeLengths longest (countSymbols symbols spelled))
  refine codeLengths_le hlongest (countSymbols symbols spelled) l ?_
  rw [hn]
  exact List.mem_append_left _ hl

theorem length_dropZeros_codeLengths_le (hlongest : 0 < longest) :
    (dropZeros (codeLengths longest (countSymbols symbols spelled))).length ≤ symbols := by
  have hle := length_dropZeros_le (codeLengths longest (countSymbols symbols spelled))
  rwa [length_codeLengths_countSymbols hlongest] at hle

/-- Some length is not dropped, even if no symbol occurs. -/
theorem length_dropZeros_codeLengths_pos (hlongest : 0 < longest) (hsymbols : 0 < symbols) :
    0 < (dropZeros (codeLengths longest (countSymbols symbols spelled))).length := by
  have hne : countSymbols symbols spelled ≠ [] := by
    rw [← List.length_pos_iff, length_countSymbols]
    exact hsymbols
  obtain ⟨s, hs⟩ := exists_codeLengths_pos hlongest hne
  exact Nat.lt_of_le_of_lt (Nat.zero_le s) (lt_length_dropZeros hs)

end

namespace Block

variable (b : Block)

/-! ### What the header has -/

theorem header_main :
    b.header.main = dropZeros (codeLengths longestWord (countSymbols mainSymbols b.main)) := by
  simp only [header]

theorem header_distance :
    b.header.distance = dropZeros (codeLengths longestWord (countSymbols distanceSymbols b.distances)) := by
  simp only [header]

theorem header_runs : b.header.runs = runs none b.header.main ++ runs none b.header.distance := by
  simp only [header]

theorem header_lengths : b.header.lengths =
    codeLengths longestLengthWord (countSymbols lengthOrder.length (b.header.runs.map Run.spelled)) := by
  simp only [header]

/-- The end of the block has a word. -/
theorem header_main_endOfBlock_pos : 0 < b.header.main.getD endOfBlock 0 := by
  have hend : (⟨endOfBlock, 0, 0⟩ : Spelled) ∈ b.main := List.mem_append_right _ List.mem_cons_self
  have hlt : (⟨endOfBlock, 0, 0⟩ : Spelled).symbol < mainSymbols := by decide
  have hpos := dropZeros_codeLengths_pos (by decide : 0 < longestWord) hend hlt
  rw [header_main]
  exact hpos

theorem length_header_main :
    firstLengthSymbol ≤ b.header.main.length ∧ b.header.main.length ≤ mainSymbols := by
  constructor
  · exact lt_length_of_getD_ne_zero (Nat.ne_of_gt b.header_main_endOfBlock_pos)
  · rw [header_main]
    exact length_dropZeros_codeLengths_le (by decide)

theorem length_header_distance : 0 < b.header.distance.length ∧ b.header.distance.length ≤ distanceSymbols := by
  have hlongest : 0 < longestWord := by decide
  rw [header_distance]
  exact ⟨length_dropZeros_codeLengths_pos hlongest (by decide), length_dropZeros_codeLengths_le hlongest⟩

theorem length_header_lengths : b.header.lengths.length = lengthOrder.length := by
  rw [header_lengths]
  exact length_codeLengths_countSymbols (by decide) _ _

namespace Header

variable (h : Header)

/-- The lengths of the third code in the order of their own. -/
def inOrder : List Nat :=
  lengthOrder.map fun s => h.lengths.getD s 0

theorem written_eq : h.written = h.inOrder.take (max 4 (dropZeros h.inOrder).length) :=
  rfl

theorem length_inOrder : h.inOrder.length = 19 :=
  List.length_map _

theorem length_written : 4 ≤ h.written.length ∧ h.written.length ≤ 19 := by
  have hall := h.length_inOrder
  rw [written_eq, List.length_take, hall]
  omega

/-- Only zeros are not written. -/
theorem getD_written (i : Nat) : h.written.getD i 0 = h.inOrder.getD i 0 := by
  rw [written_eq]
  rcases Nat.lt_or_ge i (max 4 (dropZeros h.inOrder).length) with hlt | hge
  · rw [List.getD_eq_getElem?_getD, List.getElem?_take_of_lt hlt, ← List.getD_eq_getElem?_getD]
  · have hzero := getD_dropZeros h.inOrder i
    rw [List.getD_eq_default _ 0 (Nat.le_trans (Nat.le_max_right _ _) hge)] at hzero
    rw [← hzero, List.getD_eq_default _ 0]
    exact Nat.le_trans (List.length_take_le _ _) hge

/-- **The lengths of the third code are found again** in the order in which they are written. -/
theorem lengthsInOrder_written (hlength : h.lengths.length = lengthOrder.length) :
    lengthsInOrder h.written = h.lengths := by
  have hall : ∀ s < lengthOrder.length, s ∈ lengthOrder := by decide
  refine List.ext_getElem (by rw [lengthsInOrder, List.length_map, List.length_range, hlength]) fun s hs hs' => ?_
  have hmem := hall s (hlength ▸ hs')
  have hplace := List.idxOf_lt_length_of_mem hmem
  simp only [lengthsInOrder, List.getElem_map, List.getElem_range]
  rw [getD_written, inOrder, List.getD_eq_getElem _ 0 (by rwa [List.length_map]), List.getElem_map,
    List.getElem_idxOf hplace, List.getD_eq_getElem _ 0 hs']

end Header

/-- The lengths of the third code fit into three bits. -/
theorem written_lt : ∀ l ∈ b.header.written, l < 2 ^ 3 := by
  have hle : ∀ l ∈ b.header.lengths, l ≤ longestLengthWord := by
    rw [header_lengths]
    exact codeLengths_le (by decide) _
  intro l hl
  rw [Header.written_eq] at hl
  obtain ⟨s, -, rfl⟩ := List.mem_map.mp (List.mem_of_mem_take hl)
  rcases Nat.lt_or_ge s b.header.lengths.length with hlt | hge
  · rw [List.getD_eq_getElem _ 0 hlt]
    exact Nat.lt_succ_of_le (hle _ (List.getElem_mem hlt))
  · rw [List.getD_eq_default _ 0 hge]
    decide

/-- **The parts of the header stand for the lengths of both codes.** -/
theorem stands_header_runs : Stands [] b.header.runs (b.header.main ++ b.header.distance) := by
  have hnone (before : List Nat) (k : Nat) (h : none = some k) : before.getLast? = some k := nomatch h
  rw [header_runs]
  exact (stands_runs b.header.main (hnone [])).append (stands_runs b.header.distance (hnone _))

theorem isWritable_header_runs : ∀ r ∈ b.header.runs, r.IsWritable := by
  have hlongest : 0 < longestWord := by decide
  rw [header_runs, header_main, header_distance]
  intro r hr
  rcases List.mem_append.mp hr with hmain | hdistance
  · exact isWritable_runs (dropZeros_codeLengths_le hlongest) r hmain
  · exact isWritable_runs (dropZeros_codeLengths_le hlongest) r hdistance

/-- The third code has words for the symbols of all parts. -/
theorem word_header_runs : ∀ r ∈ b.header.runs,
    (Code.ofLengths longestLengthWord b.header.lengths).word r.spelled.symbol ≠ [] := by
  intro r hr
  rw [word_ne_nil_iff, header_lengths]
  exact codeLengths_countSymbols_pos (by decide) (List.mem_map_of_mem hr)
    (Run.symbol_lt (b.isWritable_header_runs r hr))

/-! ### The codes of the header -/

theorem isPrefixFree_header_main : (Code.ofLengths longestWord b.header.main).isPrefixFree = true := by
  rw [header_main]
  refine Code.isPrefixFree_ofLengths (hasRoom_dropZeros_codeLengths (by decide) ?_)
  rw [length_countSymbols]
  decide

theorem isPrefixFree_header_distance : (Code.ofLengths longestWord b.header.distance).isPrefixFree = true := by
  rw [header_distance]
  refine Code.isPrefixFree_ofLengths (hasRoom_dropZeros_codeLengths (by decide) ?_)
  rw [length_countSymbols]
  decide

theorem isPrefixFree_header_lengths : (Code.ofLengths longestLengthWord b.header.lengths).isPrefixFree = true := by
  rw [header_lengths]
  refine Code.isPrefixFree_ofLengths (hasRoom_codeLengths (by decide) ?_)
  rw [length_countSymbols]
  decide

/-! ### Reading the header -/

/-- **The header is read as the lengths of both codes.** -/
theorem reads_header : Reads readHeader b.header.bits (b.header.main, b.header.distance) := by
  have hcode := b.isPrefixFree_header_lengths
  have hstands := b.stands_header_runs
  have hruns (r : Run) (hr : r ∈ b.header.runs) := And.intro (b.isWritable_header_runs r hr) (b.word_header_runs r hr)
  have hinOrder := b.header.lengthsInOrder_written b.length_header_lengths
  obtain ⟨hmain, hmain'⟩ := b.length_header_main
  obtain ⟨hdistance, hdistance'⟩ := b.length_header_distance
  have hwritten := b.header.length_written
  have hwrittenlt := b.written_lt
  -- what was said of the header is all that is used of it
  generalize b.header = h at *
  rw [Header.bits, readHeader]
  simp only [List.append_assoc]
  have hfirst : firstLengthSymbol = 257 := rfl
  have hall : mainSymbols = 286 := rfl
  have hall' : distanceSymbols = 30 := rfl
  have hnumber : h.main.length - firstLengthSymbol < 2 ^ 5 := by omega
  have hnumber' : h.distance.length - 1 < 2 ^ 5 := by omega
  have hnumber'' : h.written.length - 4 < 2 ^ 4 := by omega
  refine (reads_number hnumber).bind ((reads_number hnumber').bind ((reads_number hnumber'').bind ?_))
  have hwrite : Reads (readMany (readNumber 3) h.written.length) (h.written.flatMap (bitsUp 3)) h.written := by
    have hmany := reads_many fun l hl => reads_number (hwrittenlt l hl)
    rwa [List.map_id'] at hmany
  have hlengths := reads_lengths hcode hstands hruns
  rw [List.nil_append, List.length_append] at hlengths
  rw [Nat.sub_add_cancel hmain, Nat.sub_add_cancel hdistance, Nat.sub_add_cancel hwritten.1]
  refine hwrite.bind ?_
  -- the lengths of both codes are read in one go, and parted at the number that stands first
  rw [hinOrder]
  have hboth := hlengths.map fun lengths => (lengths.take h.main.length, lengths.drop h.main.length)
  rwa [List.take_left, List.drop_left] at hboth

end Block

end Landscape.Deflate
