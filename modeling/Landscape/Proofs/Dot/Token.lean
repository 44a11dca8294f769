import Landscape.Dot.Text
import Landscape.Proofs.Text.Split
import Mathlib.Tactic.Tauto

/-!
# Reading identifiers of DOT

How DOT itself reads an identifier at the beginning of a text (`Landscape.Dot.readId`), told from the language and
not from how identifiers are written here. It is a word of letters and digits, read as far as these go; a numeral; a
text in quotes, in which a backslash only hides a quote, another backslash, or a line break; or markup between angle
brackets that match. Words that DOT keeps for itself are no identifiers. What is read is a text or markup, and these
differ even if they are spelled alike (`Landscape.Dot.Id`).

A text with doubled backslashes that is written as an identifier is read as it was, whether or not it needed quotes
(`Landscape.Dot.readId_quoteId`): after the doubling each quote is escaped by a backslash of its own, and each other
backslash is one of a pair. Only a line break at the end may be lost: after a word or a numeral it does not call for
quotes (`Landscape.Dot.endsLoose`), and then the text is read without it, or not at all if the word is one that DOT
keeps (`Landscape.Dot.readId_quoteId_eq`).
-/

namespace Landscape.Dot

/-! ### How DOT reads -/

/-- What an identifier stands for: a text, or markup. -/
inductive Id where
  | text (s : List Char)
  | markup (s : List Char)
  deriving DecidableEq, Repr

/-- A letter of DOT: one of ASCII, an underscore, or any character beyond ASCII. -/
def isLetter (c : Char) : Bool :=
  c.isAlpha || c == '_' || 0x80 ≤ c.toNat

/-- A character with which a word goes on. -/
def goesOn (c : Char) : Bool :=
  isLetter c || c.isDigit

/-- Reads up to the quote that ends a text, and answers the text and what comes after it. -/
def readQuoted : List Char → Option (List Char × List Char)
  | [] => none
  | '"' :: r => some ([], r)
  | '\\' :: '"' :: r => (readQuoted r).map fun x => ('"' :: x.1, x.2)
  | '\\' :: '\\' :: r => (readQuoted r).map fun x => ('\\' :: '\\' :: x.1, x.2)
  | '\\' :: '\n' :: r => readQuoted r
  | c :: r => (readQuoted r).map fun x => (c :: x.1, x.2)

/-- Reads up to the bracket that ends markup in which `depth` other brackets are open. -/
def readMarkup : Nat → List Char → Option (List Char × List Char)
  | _, [] => none
  | 0, '>' :: r => some ([], r)
  | depth + 1, '>' :: r => (readMarkup depth r).map fun x => ('>' :: x.1, x.2)
  | depth, '<' :: r => (readMarkup (depth + 1) r).map fun x => ('<' :: x.1, x.2)
  | depth, c :: r => (readMarkup depth r).map fun x => (c :: x.1, x.2)

/-- Reads a numeral without a sign. -/
def readUnsigned (s : List Char) : Option (List Char × List Char) :=
  let whole := s.takeWhile Char.isDigit
  match s.dropWhile Char.isDigit with
  | '.' :: r =>
    let part := r.takeWhile Char.isDigit
    if whole.isEmpty && part.isEmpty then none
    else some (whole ++ '.' :: part, r.dropWhile Char.isDigit)
  | r => if whole.isEmpty then none else some (whole, r)

/-- Reads a numeral. -/
def readNumeral : List Char → Option (List Char × List Char)
  | '-' :: r => (readUnsigned r).map fun x => ('-' :: x.1, x.2)
  | s => readUnsigned s

/-- **Reads the identifier** with which a text begins, and answers it and what comes after it. -/
def readId : List Char → Option (Id × List Char)
  | [] => none
  | '"' :: r => (readQuoted r).map fun x => (.text x.1, x.2)
  | '<' :: r => (readMarkup 0 r).map fun x => (.markup x.1, x.2)
  | c :: r =>
    if isLetter c then
      let word := c :: r.takeWhile goesOn
      if isKeyword word then none else some (.text word, r.dropWhile goesOn)
    else (readNumeral (c :: r)).map fun x => (.text x.1, x.2)

/-! ### Bare identifiers -/

/-- A text with which neither a word nor a numeral goes on. -/
def Ends (r : List Char) : Prop :=
  ∀ c ∈ r.head?, goesOn c = false ∧ c ≠ '.'

theorem ends_cons {c : Char} {r : List Char} (hc : goesOn c = false) (hdot : c ≠ '.') : Ends (c :: r) := by
  rintro d ⟨⟩
  exact ⟨hc, hdot⟩

theorem isLetter_of_isWordStart {c : Char} (h : isWordStart c = true) : isLetter c = true := by
  rw [isWordStart] at h
  rw [isLetter, h, Bool.true_or]

theorem goesOn_of_isWordChar {c : Char} (h : isWordChar c = true) : goesOn c = true := by
  simp only [isWordChar, Char.isAlphanum, Bool.or_eq_true] at h
  simp only [goesOn, isLetter, Bool.or_eq_true]
  tauto

/-- A word is read as it is, unless it is one that DOT keeps. -/
theorem readId_append_of_isWord {s r : List Char} (hs : isWord s = true) (hr : Ends r) :
    readId (s ++ r) = if isKeyword s then none else some (.text s, r) := by
  cases s with
  | nil => cases hs
  | cons c w =>
    obtain ⟨hstart, hall⟩ : isWordStart c = true ∧ ∀ d ∈ w, isWordChar d = true := by
      simpa [isWord] using hs
    have hletter := isLetter_of_isWordStart hstart
    obtain ⟨htake, hdrop⟩ := takeWhile_append_of_all (fun d hd => goesOn_of_isWordChar (hall d hd))
      fun d hd => (hr d hd).1
    have hquote : c ≠ '"' := by rintro rfl; cases hstart
    have hangle : c ≠ '<' := by rintro rfl; cases hstart
    rw [List.cons_append, readId.eq_4 _ _ hquote hangle, if_pos hletter]
    simp only [htake, hdrop]

/-- The parts of a numeral without a sign: digits, and perhaps a point with digits after it. -/
theorem exists_of_isUnsignedNumeral {s : List Char} (hs : isUnsignedNumeral s = true) :
    ∃ whole part, (∀ c ∈ whole, c.isDigit = true) ∧ (∀ c ∈ part, c.isDigit = true) ∧
      (s = whole ∧ whole ≠ [] ∨ s = whole ++ '.' :: part ∧ (whole ≠ [] ∨ part ≠ [])) := by
  have hwhole : ∀ c ∈ s.takeWhile Char.isDigit, c.isDigit = true := fun c hc => by
    simpa using List.all_eq_true.mp List.all_takeWhile c hc
  have hsplit : s = s.takeWhile Char.isDigit ++ s.dropWhile Char.isDigit :=
    List.takeWhile_append_dropWhile.symm
  rw [isUnsignedNumeral] at hs
  split at hs
  · rename_i hdrop
    rw [hdrop, List.append_nil] at hsplit
    refine ⟨_, [], hwhole, by simp, .inl ⟨hsplit, fun hnil => ?_⟩⟩
    rw [hsplit, hnil] at hs
    cases hs
  · rename_i part hdrop
    rw [hdrop] at hsplit
    simp only [Bool.and_eq_true, List.all_eq_true, Bool.or_eq_true] at hs
    refine ⟨_, part, hwhole, hs.1, .inr ⟨hsplit, ?_⟩⟩
    rcases hs.2 with hpart | hhead
    · exact .inr (by simpa using hpart)
    · refine .inl fun hnil => ?_
      rw [hsplit, hnil] at hhead
      simp at hhead
  · cases hs

theorem readUnsigned_append {s r : List Char} (hs : isUnsignedNumeral s = true) (hr : Ends r) :
    readUnsigned (s ++ r) = some (s, r) := by
  have hdigit : ∀ c ∈ r.head?, c.isDigit = false := fun c hc => by
    have := (hr c hc).1
    rw [goesOn, Bool.or_eq_false_iff] at this
    exact this.2
  obtain ⟨whole, part, hwhole, hpart, ⟨rfl, hne⟩ | ⟨rfl, hne⟩⟩ := exists_of_isUnsignedNumeral hs
  · obtain ⟨htake, hdrop⟩ := takeWhile_append_of_all hwhole hdigit
    simp only [readUnsigned, htake, hdrop]
    split
    · exact absurd rfl (hr '.' rfl).2
    · rw [if_neg (by simpa using hne)]
  · have hdot : ∀ c ∈ ('.' :: (part ++ r)).head?, c.isDigit = false := by
      rintro c ⟨⟩
      rfl
    obtain ⟨htake, hdrop⟩ := takeWhile_append_of_all hwhole hdot
    obtain ⟨htake', hdrop'⟩ := takeWhile_append_of_all hpart hdigit
    rw [readUnsigned, List.append_assoc, List.cons_append, htake, hdrop]
    simp only [htake', hdrop']
    rw [if_neg (by simpa [imp_iff_not_or] using hne)]

/-- A digit is at a place where no letter is. -/
theorem toNat_of_isDigit {c : Char} (h : c.isDigit = true) : 48 ≤ c.toNat ∧ c.toNat ≤ 57 := by
  simpa [Char.isDigit, UInt32.le_iff_toNat_le] using h

theorem isUpper_of_isDigit {c : Char} (h : c.isDigit = true) : c.isUpper = false :=
  decide_eq_false fun ⟨hlow, _⟩ => by
    have hbounds := toNat_of_isDigit h
    have hlow : 65 ≤ c.toNat := UInt32.le_iff_toNat_le.mp hlow
    omega

theorem isLower_of_isDigit {c : Char} (h : c.isDigit = true) : c.isLower = false :=
  Bool.and_eq_false_iff.mpr (.inl (decide_eq_false fun hlow => by
    have hbounds := toNat_of_isDigit h
    have hlow : 97 ≤ c.toNat := UInt32.le_iff_toNat_le.mp hlow
    omega))

theorem isLetter_of_isDigit {c : Char} (h : c.isDigit = true) : isLetter c = false := by
  have hbounds := toNat_of_isDigit h
  have hunderscore : c ≠ '_' := by rintro rfl; cases h
  have hupper := isUpper_of_isDigit h
  have hlower := isLower_of_isDigit h
  have halpha : c.isAlpha = false := Bool.or_eq_false_iff.mpr ⟨hupper, hlower⟩
  simp only [isLetter, halpha, hunderscore, Bool.false_or, Bool.or_eq_false_iff, beq_eq_false_iff_ne,
    decide_eq_false_iff_not, ne_eq, not_false_eq_true, true_and]
  omega

/-- A numeral begins with a sign, a digit or a point. -/
theorem exists_cons_of_isNumeral {s : List Char} (hs : isNumeral s = true) :
    ∃ c t, s = c :: t ∧ (c = '-' ∨ c.isDigit = true ∨ c = '.') := by
  unfold isNumeral at hs
  split at hs
  · exact ⟨_, _, rfl, .inl rfl⟩
  · obtain ⟨whole, part, hwhole, -, ⟨rfl, hne⟩ | ⟨rfl, -⟩⟩ := exists_of_isUnsignedNumeral hs
    · obtain ⟨c, t, rfl⟩ := List.exists_cons_of_ne_nil hne
      exact ⟨c, t, rfl, .inr (.inl (hwhole c (by simp)))⟩
    · cases whole with
      | nil => exact ⟨_, _, rfl, .inr (.inr rfl)⟩
      | cons c t => exact ⟨_, _, rfl, .inr (.inl (hwhole c (by simp)))⟩

theorem readNumeral_append {s r : List Char} (hs : isNumeral s = true) (hr : Ends r) :
    readNumeral (s ++ r) = some (s, r) := by
  obtain ⟨c, t, rfl, -⟩ := exists_cons_of_isNumeral hs
  unfold isNumeral at hs
  split at hs
  · rename_i t' h
    cases h
    rw [List.cons_append, readNumeral, readUnsigned_append hs hr]
    rfl
  · rename_i hsign
    have hne : c ≠ '-' := fun h => hsign t (h ▸ rfl)
    have hread := readUnsigned_append hs hr
    rwa [List.cons_append, readNumeral.eq_2 _ fun r h => hne (List.cons.inj h).1]

/-- A numeral is read as it is. -/
theorem readId_append_of_isNumeral {s r : List Char} (hs : isNumeral s = true) (hr : Ends r) :
    readId (s ++ r) = some (.text s, r) := by
  have hread := readNumeral_append hs hr
  obtain ⟨c, t, rfl, hc⟩ := exists_cons_of_isNumeral hs
  -- none of the characters with which a numeral begins is the beginning of anything else
  have hfirst : c ≠ '"' ∧ c ≠ '<' ∧ isLetter c = false := by
    rcases hc with rfl | hc | rfl
    · decide
    · exact ⟨(by rintro rfl; cases hc), (by rintro rfl; cases hc), isLetter_of_isDigit hc⟩
    · decide
  rw [List.cons_append] at hread ⊢
  rw [readId.eq_4 _ _ hfirst.1 hfirst.2.1, hfirst.2.2, hread]
  rfl

/-! ### Identifiers as they are written -/

theorem escapeBackslashes_cons (c : Char) (s : List Char) : escapeBackslashes (c :: s) =
    (if c = '\\' then ['\\', '\\'] else [c]) ++ escapeBackslashes s := by
  simp [escapeBackslashes, List.flatMap_cons]

/-- Doubling backslashes brings no other characters. -/
theorem mem_escapeBackslashes {c : Char} {s : List Char} : c ∈ escapeBackslashes s ↔ c ∈ s := by
  induction s with
  | nil => rfl
  | cons d s ih =>
    rw [escapeBackslashes_cons, List.mem_append, ih, List.mem_cons]
    split
    · rename_i hd
      simp [hd]
    · simp

/-- **A text in quotes is read as it was**, if its backslashes were doubled before. -/
theorem readQuoted_escapeQuotes (s r : List Char) :
    readQuoted (escapeQuotes (escapeBackslashes s) ++ '"' :: r) = some (escapeBackslashes s, r) := by
  induction s with
  | nil => rfl
  | cons c s ih =>
    rw [escapeBackslashes_cons]
    by_cases hback : c = '\\'
    · rw [if_pos hback]
      simp [escapeQuotes, readQuoted, ih]
    · rw [if_neg hback]
      by_cases hquote : c = '"'
      · subst hquote
        simp [escapeQuotes, readQuoted, ih]
      · simp [escapeQuotes, readQuoted, hback, ih]

/-! ### Words and numerals with a line break -/

/-- A text that would be a word or a numeral but for the line break at its end. It is written bare all the same, and
then the line break is not a part of the identifier any more. -/
def endsLoose (s : List Char) : Bool :=
  s.getLast? == some '\n' && isPlain s.dropLast

theorem exists_of_endsLoose {s : List Char} (h : endsLoose s = true) :
    ∃ w, s = w ++ ['\n'] ∧ isPlain w = true ∧ s.dropLast = w := by
  rw [endsLoose, Bool.and_eq_true, beq_iff_eq] at h
  obtain ⟨w, rfl⟩ := List.getLast?_eq_some_iff.mp h.1
  rw [List.dropLast_concat] at h
  exact ⟨w, rfl, h.2, List.dropLast_concat⟩

theorem endsLoose_of_notMem {s : List Char} (h : '\n' ∉ s) : endsLoose s = false := by
  rw [Bool.eq_false_iff]
  intro hloose
  obtain ⟨w, rfl, -⟩ := exists_of_endsLoose hloose
  simp at h

/-- The characters of words and numerals. -/
theorem eq_of_mem_of_isPlain {s : List Char} (h : isPlain s = true) {c : Char} (hc : c ∈ s) :
    isWordChar c = true ∨ c = '.' ∨ c = '-' := by
  have hdigit {d : Char} (hd : d.isDigit = true) : isWordChar d = true := by simp [isWordChar, Char.isAlphanum, hd]
  have hunsigned {t : List Char} (ht : isUnsignedNumeral t = true) (hct : c ∈ t) : isWordChar c = true ∨ c = '.' := by
    obtain ⟨whole, part, hwhole, hpart, ⟨rfl, -⟩ | ⟨rfl, -⟩⟩ := exists_of_isUnsignedNumeral ht
    · exact .inl (hdigit (hwhole c hct))
    · rcases List.mem_append.mp hct with hct | hct
      · exact .inl (hdigit (hwhole c hct))
      · rcases List.mem_cons.mp hct with rfl | hct
        · exact .inr rfl
        · exact .inl (hdigit (hpart c hct))
  rw [isPlain, Bool.or_eq_true] at h
  obtain hword | hnumeral := h
  · cases s with
    | nil => cases hword
    | cons d w =>
      obtain ⟨hstart, hall⟩ : isWordStart d = true ∧ ∀ e ∈ w, isWordChar e = true := by
        simpa [isWord] using hword
      rcases List.mem_cons.mp hc with rfl | hc
      · refine .inl ?_
        rw [isWordStart, Bool.or_eq_true] at hstart
        simp only [isWordChar, Char.isAlphanum, Bool.or_eq_true]
        exact hstart.imp_left .inl
      · exact .inl (hall c hc)
  · unfold isNumeral at hnumeral
    split at hnumeral
    · rcases List.mem_cons.mp hc with rfl | hc
      · exact .inr (.inr rfl)
      · exact (hunsigned hnumeral hc).imp_right .inl
    · exact (hunsigned hnumeral hc).imp_right .inl

theorem backslash_notMem_of_isPlain {s : List Char} (h : isPlain s = true) : '\\' ∉ s :=
  fun hmem => absurd (eq_of_mem_of_isPlain h hmem) (by decide)

/-- Without backslashes there is nothing to double. -/
theorem escapeBackslashes_of_notMem {s : List Char} (h : '\\' ∉ s) : escapeBackslashes s = s := by
  induction s with
  | nil => rfl
  | cons c s ih =>
    obtain ⟨hc, hs⟩ := not_or.mp (mt List.mem_cons.mpr h)
    rw [escapeBackslashes_cons, if_neg (Ne.symm hc), ih hs]
    rfl

/-- Doubling backslashes makes no text loose. -/
theorem endsLoose_escapeBackslashes (s : List Char) : endsLoose (escapeBackslashes s) = endsLoose s := by
  by_cases hmem : '\\' ∈ s
  · have hnot {t : List Char} (ht : '\\' ∈ t) : endsLoose t = false := by
      rw [Bool.eq_false_iff]
      intro hloose
      obtain ⟨w, rfl, hw, -⟩ := exists_of_endsLoose hloose
      have := backslash_notMem_of_isPlain hw
      simp [this] at ht
    rw [hnot hmem, hnot (mem_escapeBackslashes.mpr hmem)]
  · rw [escapeBackslashes_of_notMem hmem]

/-! ### What is written bare -/

/-- A keyword consists of letters. -/
theorem lineBreak_notMem_of_isKeyword {s : List Char} (h : isKeyword s = true) : '\n' ∉ s := by
  intro hmem
  have hlower : '\n' ∈ s.map Char.toLower := List.mem_map.mpr ⟨'\n', hmem, rfl⟩
  have hword : String.ofList (s.map Char.toLower) ∈ keywords := by simpa [isKeyword] using h
  have hnone : ∀ k ∈ keywords, '\n' ∉ k.toList := by decide
  exact hnone _ hword (by rwa [String.toList_ofList])

/-- No numeral is a keyword. -/
theorem isKeyword_of_isNumeral {s : List Char} (h : isNumeral s = true) : isKeyword s = false := by
  obtain ⟨c, t, rfl, hc⟩ := exists_cons_of_isNumeral h
  rw [Bool.eq_false_iff]
  intro hkey
  have hword : String.ofList (((c :: t).map Char.toLower)) ∈ keywords := by simpa [isKeyword] using hkey
  have hfirst : ∀ k ∈ keywords, k.toList.head?.all Char.isLower = true := by decide
  have hlower : c.toLower.isLower = true := by simpa using hfirst _ hword
  obtain rfl | hdigit | rfl := hc
  · cases hlower
  · have hself : c.toLower = c := dif_neg (of_decide_eq_false (isUpper_of_isDigit hdigit))
    rw [hself, isLower_of_isDigit hdigit] at hlower
    cases hlower
  · cases hlower

/-- A text that is written bare is a word that DOT does not keep, or a numeral, or such a text with a line break. -/
theorem isBare_iff {s : List Char} :
    isBare s = true ↔ (isPlain s = true ∨ endsLoose s = true) ∧ isKeyword s = false := by
  rw [isBare, Bool.and_eq_true, Bool.or_eq_true, Bool.not_eq_true']
  refine and_congr_left fun _ => ?_
  rw [chompOne, endsLoose]
  split
  · rename_i hlast
    simp [hlast]
  · rename_i hlast
    simp [hlast]

/-- A text with a loose line break is written as it is. -/
theorem quoteId_of_endsLoose {s : List Char} (h : endsLoose s = true) : quoteId (escapeBackslashes s) = s := by
  obtain ⟨w, rfl, hw, -⟩ := exists_of_endsLoose h
  have hself : escapeBackslashes (w ++ ['\n']) = w ++ ['\n'] :=
    escapeBackslashes_of_notMem (by simp [backslash_notMem_of_isPlain hw])
  have hkey : isKeyword (w ++ ['\n']) = false :=
    Bool.eq_false_iff.mpr fun hkey => lineBreak_notMem_of_isKeyword hkey (by simp)
  rw [hself, quoteId, if_pos (isBare_iff.mpr ⟨.inr h, hkey⟩)]

/-- **How an identifier is read**, up to where it ends. It is read as it was written, but a loose line break is left
over. What stands before that may then be a word that DOT keeps. -/
theorem readId_quoteId_eq (s : List Char) {r : List Char} (hr : Ends r) :
    readId (quoteId (escapeBackslashes s) ++ r) =
      if endsLoose s then
        if isKeyword s.dropLast then none else some (.text s.dropLast, '\n' :: r)
      else some (.text (escapeBackslashes s), r) := by
  -- a word or a numeral, whatever comes after it
  have hplain {w t : List Char} (hw : isPlain w = true) (ht : Ends t) :
      readId (w ++ t) = if isKeyword w then none else some (.text w, t) := by
    rw [isPlain, Bool.or_eq_true] at hw
    obtain hword | hnumeral := hw
    · exact readId_append_of_isWord hword ht
    · rw [readId_append_of_isNumeral hnumeral ht, isKeyword_of_isNumeral hnumeral]
      rfl
  split
  · rename_i hloose
    obtain ⟨w, rfl, hw, hdrop⟩ := exists_of_endsLoose hloose
    rw [quoteId_of_endsLoose hloose, hdrop, List.append_assoc]
    exact hplain hw (ends_cons rfl (by decide))
  · rename_i hloose
    rw [quoteId]
    split
    · rename_i hbare
      rw [isBare_iff, endsLoose_escapeBackslashes] at hbare
      rw [hplain (hbare.1.resolve_right hloose) hr, hbare.2]
      rfl
    · rw [List.cons_append, List.cons_append, readId, List.append_assoc, List.singleton_append,
        readQuoted_escapeQuotes]
      rfl

/-- **An identifier is read as it was written**, if it has no line break. -/
theorem readId_quoteId {s r : List Char} (hbreak : '\n' ∉ s) (hr : Ends r) :
    readId (quoteId (escapeBackslashes s) ++ r) = some (.text (escapeBackslashes s), r) := by
  rw [readId_quoteId_eq s hr, endsLoose_of_notMem hbreak]
  rfl

end Landscape.Dot
