import Landscape.Proofs.Dot.Token
import Mathlib.Data.List.DropRight

/-!
# Reading statements of DOT

How DOT reads a statement. One that declares a vertex begins with the identifier of the vertex
(`Landscape.Dot.readVertex`). An attribute follows in brackets, which is two identifiers with an equals sign between
them (`Landscape.Dot.readAttribute`). One that joins vertices has an arrow between two ends
(`Landscape.Dot.readEdge`), and each end is the identifier of a vertex, which may be followed by a place on its border
and a direction, with colons before them (`Landscape.Dot.End`).

An edge is written from the texts that its vertices are declared by. It is read as an edge between these vertices, and
nothing else, exactly if neither text holds a colon (`Landscape.Dot.readEdge_line_iff`). A colon that is not within
quotes ends the identifier, and so an end with a colon always leads to another vertex than the one declared
(`Landscape.Dot.vertex_ne_of_colon`).
-/

namespace Landscape.Dot

/-! ### How DOT reads -/

/-- A blank of DOT. -/
def isSpace (c : Char) : Bool :=
  c == ' ' || c == '\t' || c == '\n' || c == '\r'

/-- The text without the blanks it begins with. -/
def skip (s : List Char) : List Char :=
  s.dropWhile isSpace

/-- An end of an edge. -/
structure End where
  vertex : Id
  place : Option Id := none
  direction : Option Id := none
  deriving DecidableEq, Repr

/-- Reads a colon and the identifier after it, if there is a colon, and answers what comes after that. -/
def readPart (s : List Char) : Option (Option Id × List Char) :=
  match skip s with
  | ':' :: r => (readId (skip r)).map fun x => (some x.1, x.2)
  | r => some (none, r)

/-- Reads an end of an edge, and answers it and what comes after it. -/
def readEnd (s : List Char) : Option (End × List Char) := do
  let (vertex, r) ← readId (skip s)
  let (place, r) ← readPart r
  let (direction, r) ← readPart r
  return (⟨vertex, place, direction⟩, r)

/-- **Reads a statement that joins vertices**, and answers its ends. -/
def readEdge (s : List Char) : Option (End × End) := do
  let (tail, r) ← readEnd s
  match skip r with
  | '-' :: '>' :: r =>
    let (head, r) ← readEnd r
    if (skip r).isEmpty then some (tail, head) else none
  | _ => none

/-- **Reads a statement that declares a vertex**, as far as its attributes, and answers the vertex. -/
def readVertex (s : List Char) : Option Id := do
  let (e, r) ← readEnd s
  match skip r with
  | '[' :: _ => some e.vertex
  | _ => none

/-- Reads a mark, and answers what comes after it. -/
def readMark (c : Char) (s : List Char) : Option (List Char) :=
  match skip s with
  | d :: r => if d = c then some r else none
  | [] => none

/-- **Reads a statement that declares a vertex with an attribute**, and answers the key of the attribute and its
value. -/
def readAttribute (s : List Char) : Option (Id × Id) := do
  let (_, r) ← readEnd s
  let r ← readMark '[' r
  let (key, r) ← readId (skip r)
  let r ← readMark '=' r
  let (value, r) ← readId (skip r)
  let r ← readMark ']' r
  if (skip r).isEmpty then some (key, value) else none

/-! ### Blanks -/

/-- A text that begins with something that is no blank. -/
def Starts (s : List Char) : Prop :=
  ∃ c r, s = c :: r ∧ isSpace c = false

theorem Starts.append {s : List Char} (h : Starts s) (r : List Char) : Starts (s ++ r) := by
  obtain ⟨c, t, rfl, hc⟩ := h
  exact ⟨c, t ++ r, rfl, hc⟩

theorem Starts.skip_eq {s : List Char} (h : Starts s) : skip s = s := by
  obtain ⟨c, t, rfl, hc⟩ := h
  exact List.dropWhile_cons_of_neg (by simpa using hc)

theorem Starts.skip_cons {s : List Char} (h : Starts s) {c : Char} (hc : isSpace c = true) :
    skip (c :: s) = s := by
  rw [skip, List.dropWhile_cons_of_pos hc]
  exact h.skip_eq

theorem eq_of_isSpace {c : Char} (h : isSpace c = true) : c = ' ' ∨ c = '\t' ∨ c = '\n' ∨ c = '\r' := by
  simpa [isSpace, or_assoc] using h

theorem readMark_cons {c : Char} (hc : isSpace c = false) (r : List Char) : readMark c (c :: r) = some r := by
  rw [readMark, Starts.skip_eq ⟨c, r, rfl, hc⟩]
  exact if_pos rfl

/-- A blank ends an identifier. -/
theorem ends_of_isSpace {c : Char} (h : isSpace c = true) (r : List Char) : Ends (c :: r) := by
  obtain rfl | rfl | rfl | rfl := eq_of_isSpace h <;> exact ends_cons rfl (by decide)

/-- Neither a word nor a numeral begins with a blank. -/
theorem starts_of_isPlain {s : List Char} (h : isPlain s = true) : Starts s := by
  cases s with
  | nil => cases h
  | cons c t =>
    refine ⟨c, t, rfl, Bool.eq_false_iff.mpr fun hc => ?_⟩
    have hchar := eq_of_mem_of_isPlain h List.mem_cons_self
    obtain rfl | rfl | rfl | rfl := eq_of_isSpace hc <;> revert hchar <;> decide

/-- An identifier does not begin with a blank. -/
theorem starts_quoteId (s : List Char) : Starts (quoteId s) := by
  rw [quoteId]
  split
  · rename_i hbare
    obtain hplain | hloose := (isBare_iff.mp hbare).1
    · exact starts_of_isPlain hplain
    · obtain ⟨w, rfl, hw, -⟩ := exists_of_endsLoose hloose
      exact (starts_of_isPlain hw).append _
  · exact ⟨'"', _, rfl, rfl⟩

/-! ### Ends of edges -/

/-- A text after which an end of an edge does not go on. -/
def EndsHere (r : List Char) : Prop :=
  Ends r ∧ ∀ t, skip r ≠ ':' :: t

/-- What comes after a blank and is no colon. -/
theorem endsHere_cons {c d : Char} {r : List Char} (hc : isSpace c = true) (hd : isSpace d = false)
    (hcolon : d ≠ ':') : EndsHere (c :: d :: r) := by
  refine ⟨ends_of_isSpace hc _, fun t ht => hcolon ?_⟩
  rw [Starts.skip_cons ⟨d, r, rfl, hd⟩ hc] at ht
  exact (List.cons.inj ht).1

/-- An end that is only an identifier. -/
theorem readEnd_of_readId {s r : List Char} {i : Id} (hread : readId (skip s) = some (i, r))
    (hr : ∀ t, skip r ≠ ':' :: t) : readEnd s = some (⟨i, none, none⟩, skip r) := by
  have hpart : readPart r = some (none, skip r) := by
    rw [readPart]
    split
    · rename_i t ht
      exact absurd ht (hr t)
    · rfl
  have hpart' : readPart (skip r) = some (none, skip r) := by
    rw [readPart, skip, skip, List.dropWhile_idempotent]
    exact hpart
  simp [readEnd, hread, hpart, hpart']

/-- An end begins with its vertex. -/
theorem readId_of_readEnd {s r : List Char} {e : End} (h : readEnd s = some (e, r)) :
    ∃ t, readId (skip s) = some (e.vertex, t) := by
  simp only [readEnd, Option.bind_eq_bind, Option.bind_eq_some_iff] at h
  obtain ⟨⟨vertex, t⟩, hread, ⟨place, t'⟩, -, ⟨direction, t''⟩, -, h⟩ := h
  cases h
  exact ⟨t, hread⟩

/-! ### Ends as they are written -/

variable {s : List Char}

/-- A text without a colon is not split. -/
theorem splitColon_of_notMem (h : ':' ∉ s) : splitColon s = (s, none) := by
  rw [splitColon, dropWhile_eq_nil_of_notMem h]

/-- A text with a colon is split at the first. -/
theorem splitColon_of_append {a b : List Char} (h : ':' ∉ a) :
    splitColon (a ++ ':' :: b) = (a, some b) := by
  obtain ⟨htake, hdrop⟩ := takeWhile_append_cons_of_notMem (r := b) h
  rw [splitColon, htake, hdrop]

/-- An end that is written as an identifier is read as this identifier. -/
theorem readEnd_quoteId {c : Char} {r : List Char} (hbreak : '\n' ∉ s) (hc : isSpace c = true) (hr : EndsHere r) :
    readEnd (c :: (quoteId (escapeBackslashes s) ++ r)) =
      some (⟨.text (escapeBackslashes s), none, none⟩, skip r) := by
  refine readEnd_of_readId ?_ hr.2
  rw [((starts_quoteId _).append r).skip_cons hc]
  exact readId_quoteId hbreak hr.1

/-- An end without a colon is written as an identifier. -/
theorem edgeEnd_of_notMem (hcolon : ':' ∉ s) :
    edgeEnd (escapeBackslashes s) = quoteId (escapeBackslashes s) := by
  rw [edgeEnd, splitColon_of_notMem (mt mem_escapeBackslashes.mp hcolon)]

/-- An end with a colon is written as what stands before the colon, and perhaps another colon with more. -/
theorem exists_edgeEnd_eq (hcolon : ':' ∈ s) : ∃ a b r, s = a ++ ':' :: b ∧ ':' ∉ a ∧
    (r = [] ∨ r.head? = some ':') ∧ edgeEnd (escapeBackslashes s) = quoteIdOrMarkup (escapeBackslashes a) ++ r := by
  obtain ⟨a, b, rfl, ha⟩ := List.eq_append_cons_of_mem hcolon
  have hsplit : escapeBackslashes (a ++ ':' :: b) = escapeBackslashes a ++ ':' :: escapeBackslashes b := by
    simp [escapeBackslashes]
  rw [hsplit, edgeEnd, splitColon_of_append (mt mem_escapeBackslashes.mp ha)]
  cases escapeBackslashes b with
  | nil => exact ⟨a, b, [], rfl, ha, .inl rfl, by simp⟩
  | cons c t => exact ⟨a, b, _, rfl, ha, .inr rfl, List.append_assoc ..⟩

/-- **An end with a colon** leads to another vertex than the one that is declared by the text. -/
theorem vertex_ne_of_colon {c : Char} {r t : List Char} {e : End} (hcolon : ':' ∈ s) (hbreak : '\n' ∉ s)
    (hc : isSpace c = true) (hr : Ends r) (h : readEnd (c :: (edgeEnd (escapeBackslashes s) ++ r)) = some (e, t)) :
    e.vertex ≠ .text (escapeBackslashes s) := by
  obtain ⟨a, b, more, rfl, ha, hmore, hend⟩ := exists_edgeEnd_eq hcolon
  obtain ⟨t', hread⟩ := readId_of_readEnd h
  have hbreak' : '\n' ∉ a := fun hmem => hbreak (by simp [hmem])
  rw [hend, List.append_assoc, quoteIdOrMarkup] at hread
  by_cases hmarkup : isMarkup (escapeBackslashes a) = true
  · -- markup is no text at all
    rw [if_pos hmarkup] at hread
    obtain ⟨d, hd⟩ : ∃ d, escapeBackslashes a = '<' :: d := by
      unfold isMarkup at hmarkup
      split at hmarkup
      · exact ⟨_, ‹_›⟩
      · cases hmarkup
    rw [hd, List.cons_append, Starts.skip_cons ⟨'<', _, rfl, rfl⟩ hc, readId] at hread
    obtain ⟨x, -, hx⟩ := Option.map_eq_some_iff.mp hread
    injection hx with hvertex
    rw [← hvertex]
    intro heq
    cases heq
  · -- what stands before the colon has no colon
    rw [if_neg hmarkup, ((starts_quoteId _).append _).skip_cons hc] at hread
    have hends : Ends (more ++ r) := by
      obtain rfl | hhead := hmore
      · exact hr
      · cases more with
        | nil => cases hhead
        | cons d more =>
          injection hhead with hd
          subst hd
          exact ends_cons rfl (by decide)
    rw [readId_quoteId hbreak' hends] at hread
    injection hread with hread
    injection hread with hvertex
    rw [← hvertex]
    intro heq
    injection heq with heq
    have hmem : ':' ∈ escapeBackslashes (a ++ ':' :: b) := mem_escapeBackslashes.mpr (by simp)
    rw [← heq, mem_escapeBackslashes] at hmem
    exact ha hmem

/-! ### Statements as they are written -/

/-- The statement of a vertex: its identifier, and its label in brackets. -/
theorem vertex_line_eq (id label : List Char) : (Statement.vertex id label).line =
    '\t' :: (quoteId id ++ (' ' :: '[' :: ("label".toList ++ '=' :: (quoteId label ++ [']', '\n'])))) := by
  simp [Statement.line]

/-- **The statement of a vertex** declares the text by which it was written. -/
theorem readVertex_line (label : List Char) (hbreak : '\n' ∉ s) :
    readVertex (Statement.vertex (escapeBackslashes s) label).line = some (.text (escapeBackslashes s)) := by
  have hbracket (t : List Char) : Starts ('[' :: t) := ⟨'[', t, rfl, rfl⟩
  rw [vertex_line_eq, readVertex, readEnd_quoteId hbreak rfl (endsHere_cons rfl rfl (by decide)),
    (hbracket _).skip_cons rfl]
  simp only [Option.bind_eq_bind, Option.bind_some, (hbracket _).skip_eq]

/-- **The label of a vertex** is read as it was written, but without a loose line break; and what stands before that
cannot be read if DOT keeps it. -/
theorem readAttribute_line (label : List Char) (hbreak : '\n' ∉ s) :
    readAttribute (Statement.vertex (escapeBackslashes s) (escapeBackslashes label)).line =
      if endsLoose label then
        if isKeyword label.dropLast then none else some (.text "label".toList, .text label.dropLast)
      else some (.text "label".toList, .text (escapeBackslashes label)) := by
  have hbracket (t : List Char) : Starts ('[' :: t) := ⟨'[', t, rfl, rfl⟩
  have hkey (t : List Char) : readId (skip ("label".toList ++ '=' :: t)) = some (.text "label".toList, '=' :: t) := by
    have hstarts : Starts "label".toList := ⟨'l', "abel".toList, rfl, rfl⟩
    rw [(hstarts.append _).skip_eq, readId_append_of_isWord (by decide) (ends_cons rfl (by decide))]
    rfl
  have hvalue := readId_quoteId_eq label (ends_cons (c := ']') (r := ['\n']) rfl (by decide))
  rw [← ((starts_quoteId (escapeBackslashes label)).append _).skip_eq] at hvalue
  rw [vertex_line_eq, readAttribute, readEnd_quoteId hbreak rfl (endsHere_cons rfl rfl (by decide)),
    (hbracket _).skip_cons rfl]
  simp only [Option.bind_eq_bind, Option.bind_some, readMark_cons (c := '[') rfl, hkey, readMark_cons (c := '=') rfl,
    hvalue]
  split
  · split
    · rfl
    · rfl
  · rfl

variable {tail head : List Char}

/-- The statement of an edge: its tail, an arrow, and its head. -/
theorem edge_line_eq (tail head : List Char) : (Statement.edge tail head).line =
    '\t' :: (edgeEnd tail ++ (' ' :: '-' :: '>' :: ' ' :: (edgeEnd head ++ ['\n']))) := by
  simp [Statement.line]

theorem endsHere_arrow (r : List Char) : EndsHere (' ' :: '-' :: '>' :: r) :=
  endsHere_cons rfl rfl (by decide)

theorem endsHere_lineBreak : EndsHere ['\n'] :=
  ⟨ends_cons rfl (by decide), nofun⟩

/-- An edge whose tail has no colon is read as far as the arrow. -/
theorem readEdge_line_of_tail (htail : ':' ∉ tail) (hbreak : '\n' ∉ tail) :
    readEdge (Statement.edge (escapeBackslashes tail) (escapeBackslashes head)).line =
      (do let (e, r) ← readEnd (' ' :: (edgeEnd (escapeBackslashes head) ++ ['\n']))
          if (skip r).isEmpty then some (⟨.text (escapeBackslashes tail), none, none⟩, e) else none) := by
  have harrow (t : List Char) : Starts ('-' :: t) := ⟨'-', t, rfl, rfl⟩
  rw [edge_line_eq, edgeEnd_of_notMem htail, readEdge, readEnd_quoteId hbreak rfl (endsHere_arrow _),
    (harrow _).skip_cons rfl]
  simp only [Option.bind_eq_bind, Option.bind_some, (harrow _).skip_eq]

/-- An edge begins with its tail. -/
theorem readEnd_of_readEdge {x y : End} {t : List Char} (h : readEdge t = some (x, y)) :
    ∃ r, readEnd t = some (x, r) := by
  simp only [readEdge, Option.bind_eq_bind, Option.bind_eq_some_iff] at h
  obtain ⟨⟨e, r⟩, hread, h⟩ := h
  refine ⟨r, ?_⟩
  suffices e = x by rw [← this, hread]
  split at h
  · obtain ⟨⟨e', r'⟩, -, h⟩ := Option.bind_eq_some_iff.mp h
    dsimp only at h
    split at h
    · cases h
      rfl
    · cases h
  · cases h

/-- **The vertices that the statement of an edge joins**, if it can be read, are those that are declared by its texts,
unless these have colons. -/
theorem vertices_of_readEdge {x y : End} (hbreak : '\n' ∉ tail) (hbreak' : '\n' ∉ head)
    (h : readEdge (Statement.edge (escapeBackslashes tail) (escapeBackslashes head)).line = some (x, y)) :
    (x.vertex = .text (escapeBackslashes tail) ↔ ':' ∉ tail) ∧
      (':' ∉ tail → (y.vertex = .text (escapeBackslashes head) ↔ ':' ∉ head)) := by
  by_cases htail : ':' ∈ tail
  · obtain ⟨r, hread⟩ := readEnd_of_readEdge h
    rw [edge_line_eq] at hread
    have hne := vertex_ne_of_colon htail hbreak rfl (endsHere_arrow _).1 hread
    exact ⟨⟨fun heq => absurd heq hne, fun hnot => absurd htail hnot⟩, fun hnot => absurd htail hnot⟩
  · rw [readEdge_line_of_tail htail hbreak, Option.bind_eq_bind, Option.bind_eq_some_iff] at h
    obtain ⟨⟨e, r⟩, hread, h⟩ := h
    obtain ⟨rfl, rfl⟩ : (⟨.text (escapeBackslashes tail), none, none⟩ : End) = x ∧ e = y := by
      dsimp only at h
      split at h
      · cases h
        exact ⟨rfl, rfl⟩
      · cases h
    refine ⟨⟨fun _ => htail, fun _ => rfl⟩, fun _ => ⟨fun heq hhead => ?_, fun hhead => ?_⟩⟩
    · exact vertex_ne_of_colon hhead hbreak' rfl endsHere_lineBreak.1 hread heq
    · rw [edgeEnd_of_notMem hhead, readEnd_quoteId hbreak' rfl endsHere_lineBreak] at hread
      cases hread
      rfl

/-- **The statement of an edge joins the vertices that are declared by its texts**, and says no more about its ends,
if and only if these texts have no colons. -/
theorem readEdge_line_iff (hbreak : '\n' ∉ tail) (hbreak' : '\n' ∉ head) :
    readEdge (Statement.edge (escapeBackslashes tail) (escapeBackslashes head)).line =
        some (⟨.text (escapeBackslashes tail), none, none⟩, ⟨.text (escapeBackslashes head), none, none⟩) ↔
      ':' ∉ tail ∧ ':' ∉ head := by
  constructor
  · intro h
    obtain ⟨htail, hhead⟩ := vertices_of_readEdge hbreak hbreak' h
    have htail' := htail.mp rfl
    exact ⟨htail', (hhead htail').mp rfl⟩
  · rintro ⟨htail, hhead⟩
    rw [readEdge_line_of_tail htail hbreak, edgeEnd_of_notMem hhead,
      readEnd_quoteId hbreak' rfl endsHere_lineBreak]
    rfl

end Landscape.Dot
