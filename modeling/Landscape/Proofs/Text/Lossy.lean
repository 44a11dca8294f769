import Landscape.Proofs.Text.Utf8
import Mathlib.Data.List.Basic

/-!
# Bytes that are no text become one all the same

Decoding with replacement never fails. What it keeps and what it replaces is said without the decoder, by the bytes of
the characters alone: a part is invalid if no character stands at its beginning, and it is the longest one that could
still become a character, or a single byte (`Landscape.Utf8.IsInvalidPart`). The text of some bytes takes the characters
that stand there one by one, and one U+FFFD for each such part (`Landscape.Utf8.LossyText`).

The decoder looks at bounds. The bytes that some character begins with are those that stay within them
(`Landscape.Utf8.beginsCharacter_cons_iff`), which is where overlong forms, halves and numbers beyond the last one have
to be ruled out. From this, one sequence is read as the definition says (`Landscape.Utf8.read_spec`), and then all bytes
are, in one way only (`Landscape.Utf8.lossyText_iff`). Where the bytes are those of a text, nothing is replaced
(`Landscape.Utf8.decodeLossy_encode`).
-/

namespace Landscape.Utf8

/-! ### Invalid parts -/

/-- Some character begins with these bytes. -/
def BeginsCharacter (part : List UInt8) : Prop :=
  ∃ c, part <+: encodeChar c

/-- The bytes `part`, in front of `rest`, are the longest that are no character: none stands at their beginning, they
could still become one or are a single byte, and no more of the bytes could. -/
structure IsInvalidPart (part rest : List UInt8) : Prop where
  ne_nil : part ≠ []
  no_character : ∀ c, ¬ encodeChar c <+: part ++ rest
  begins : part.length = 1 ∨ BeginsCharacter part
  longest : ∀ longer, longer <+: part ++ rest → part.length < longer.length → ¬ BeginsCharacter longer

/-- The text of some bytes: each character whose bytes stand there is kept, and each invalid part is replaced. -/
inductive LossyText : List UInt8 → List Char → Prop where
  | nil : LossyText [] []
  | keep {rest : List UInt8} {cs : List Char} (c : Char) :
      LossyText rest cs → LossyText (encodeChar c ++ rest) (c :: cs)
  | replace {part rest : List UInt8} {cs : List Char} :
      IsInvalidPart part rest → LossyText rest cs → LossyText (part ++ rest) (replacement :: cs)

/-- All invalid parts at the same place are the same. -/
theorem IsInvalidPart.eq_of_append_eq {part rest part' rest' : List UInt8} (hpart : IsInvalidPart part rest)
    (hpart' : IsInvalidPart part' rest') (h : part ++ rest = part' ++ rest') : part = part' ∧ rest = rest' := by
  -- the longer of two parts has several bytes, so it begins a character, which the shorter one rules out
  have notLonger : ∀ {p r p' r' : List UInt8}, IsInvalidPart p r → IsInvalidPart p' r' → p ++ r = p' ++ r' →
      ¬ p.length < p'.length := by
    intro p r p' r' hp hp' heq hlt
    have hpos : 0 < p.length := List.length_pos_iff.mpr hp.ne_nil
    have hbegins : BeginsCharacter p' := hp'.begins.resolve_left (by omega)
    exact hp.longest p' (heq ▸ List.prefix_append p' r') hlt hbegins
  have hlength : part.length = part'.length :=
    Nat.le_antisymm (Nat.le_of_not_lt (notLonger hpart' hpart h.symm)) (Nat.le_of_not_lt (notLonger hpart hpart' h))
  exact List.append_inj h hlength

/-! ### Bounds -/

/-- Bytes that go on with a character: the first lies between the bounds, the others are any that are no first
ones. -/
def GoesOn (lo hi : UInt8) : List UInt8 → Prop
  | [] => True
  | b :: r => lo ≤ b ∧ b ≤ hi ∧ GoesOn 0x80 0xbf r

/-- A beginning goes on if the whole does. -/
theorem GoesOn.of_prefix {lo hi : UInt8} {p q : List UInt8} (h : GoesOn lo hi q) (hp : p <+: q) : GoesOn lo hi p := by
  induction p generalizing lo hi q with
  | nil => exact True.intro
  | cons b p ih =>
    obtain ⟨rest, rfl⟩ := hp
    exact ⟨h.1, h.2.1, ih h.2.2 (List.prefix_append p rest)⟩

/-- What goes on can go on up to any length. -/
theorem GoesOn.exists_longer {lo hi : UInt8} (hbounds : lo ≤ hi) {p : List UInt8} (h : GoesOn lo hi p) {n : Nat}
    (hn : p.length ≤ n) : ∃ q, p <+: q ∧ q.length = n ∧ GoesOn lo hi q := by
  induction n generalizing lo hi p with
  | zero => exact ⟨p, List.prefix_rfl, Nat.le_zero.mp hn, h⟩
  | succ n ih =>
    have htail : (0x80 : UInt8) ≤ 0xbf := by decide
    cases p with
    | nil =>
      obtain ⟨q, -, hlength, hq⟩ := ih htail (p := []) True.intro (Nat.zero_le n)
      exact ⟨lo :: q, List.nil_prefix, congrArg (· + 1) hlength, UInt8.le_refl lo, hbounds, hq⟩
    | cons b p =>
      obtain ⟨q, hp, hlength, hq⟩ := ih htail h.2.2 (Nat.le_of_succ_le_succ hn)
      exact ⟨b :: q, (List.prefix_cons_inj b).mpr hp, congrArg (· + 1) hlength, h.1, h.2.1, hq⟩

/-- **What is read after a first byte**: all bytes that are missing, if they go on; otherwise the longest part that
does. -/
theorem readRest_spec (value seen : Nat) (lo hi : UInt8) (left : Nat) (r : List UInt8) :
    ∃ p rest, r = p ++ rest ∧ GoesOn lo hi p ∧
      ((p.length = left ∧ ∃ c, readRest value seen lo hi left r = .character c (seen + p.length)) ∨
       (p.length < left ∧ (∀ longer, longer <+: r → p.length < longer.length → ¬ GoesOn lo hi longer) ∧
         ∃ reason, readRest value seen lo hi left r = .broken reason (seen + p.length))) := by
  fun_induction readRest value seen lo hi left r with
  | case1 value seen lo hi r => exact ⟨[], r, rfl, True.intro, .inl ⟨rfl, _, rfl⟩⟩
  | case2 value seen lo hi left =>
    refine ⟨[], [], rfl, True.intro, .inr ⟨Nat.succ_pos left, fun longer hlonger hlength => ?_, .truncated, rfl⟩⟩
    rw [List.prefix_nil.mp hlonger] at hlength
    exact absurd hlength (Nat.lt_irrefl 0)
  | case3 value seen lo hi left b r hwithin ih =>
    obtain ⟨hlo, hhi⟩ : lo ≤ b ∧ b ≤ hi := by simpa using hwithin
    obtain ⟨p, rest, rfl, hp, hread⟩ := ih
    have hseen : seen + 1 + p.length = seen + (b :: p).length := by simp only [List.length_cons]; omega
    rw [hseen] at hread
    refine ⟨b :: p, rest, rfl, ⟨hlo, hhi, hp⟩, hread.imp ?_ ?_⟩
    · rintro ⟨hlength, hchar⟩
      exact ⟨congrArg (· + 1) hlength, hchar⟩
    · rintro ⟨hlength, hlongest, hbroken⟩
      refine ⟨Nat.succ_lt_succ hlength, fun longer hlonger hlt hgoes => ?_, hbroken⟩
      obtain rfl | ⟨tail, rfl, htail⟩ := List.prefix_cons_iff.mp hlonger
      · exact absurd hlt (Nat.not_lt_zero _)
      · exact hlongest tail htail (Nat.lt_of_succ_lt_succ hlt) hgoes.2.2
  | case4 value seen lo hi left b r hwithin =>
    refine ⟨[], b :: r, rfl, True.intro,
      .inr ⟨Nat.succ_pos left, fun longer hlonger hlt hgoes => hwithin ?_, .continuation, rfl⟩⟩
    obtain rfl | ⟨tail, rfl, -⟩ := List.prefix_cons_iff.mp hlonger
    · exact absurd hlt (Nat.lt_irrefl 0)
    · simpa using And.intro hgoes.1 hgoes.2.1

/-! ### Bounds and characters -/

theorem lead?_eq_none : ∀ n < 0x100, (0x80 ≤ n ∧ n < 0xc2) ∨ 0xf5 ≤ n → lead? n.toUInt8 = none := by
  decide +kernel

/-- **Which first bytes there are**: by how many bytes follow them, with the bounds of the second byte. -/
theorem lead?_eq_some {b lo hi : UInt8} {left : Nat} (h : lead? b = some (left, lo, hi)) :
    (∃ n < 0x80, b = n.toUInt8 ∧ (left, lo, hi) = (0, 0, 0)) ∨
    (∃ k < 30, b = (0xc2 + k).toUInt8 ∧ (left, lo, hi) = (1, 0x80, 0xbf)) ∨
    (∃ k < 16, b = (0xe0 + k).toUInt8 ∧
      (left, lo, hi) = (2, if k = 0 then 0xa0 else 0x80, if k = 13 then 0x9f else 0xbf)) ∨
    (∃ k < 5, b = (0xf0 + k).toUInt8 ∧
      (left, lo, hi) = (3, if k = 0 then 0x90 else 0x80, if k = 4 then 0x8f else 0xbf)) := by
  obtain ⟨n, hn, rfl⟩ : ∃ n < 0x100, b = n.toUInt8 := ⟨b.toNat, b.toNat_lt, (UInt8.ofNat_toNat).symm⟩
  by_cases hone : n < 0x80
  · exact .inl ⟨n, hone, rfl, Option.some.inj (h.symm.trans (lead?_one n hone))⟩
  · by_cases hnone : n < 0xc2 ∨ 0xf5 ≤ n
    · exact absurd (h.symm.trans (lead?_eq_none n hn (by omega))) (Option.some_ne_none _)
    · by_cases htwo : n < 0xe0
      · obtain ⟨k, rfl⟩ : ∃ k, n = 0xc2 + k := ⟨n - 0xc2, by omega⟩
        have hk : k < 30 := by omega
        exact .inr (.inl ⟨k, hk, rfl, Option.some.inj (h.symm.trans (lead?_two k hk))⟩)
      · by_cases hthree : n < 0xf0
        · obtain ⟨k, rfl⟩ : ∃ k, n = 0xe0 + k := ⟨n - 0xe0, by omega⟩
          have hk : k < 16 := by omega
          exact .inr (.inr (.inl ⟨k, hk, rfl, Option.some.inj (h.symm.trans (lead?_three k hk))⟩))
        · obtain ⟨k, rfl⟩ : ∃ k, n = 0xf0 + k := ⟨n - 0xf0, by omega⟩
          have hk : k < 5 := by omega
          exact .inr (.inr (.inr ⟨k, hk, rfl, Option.some.inj (h.symm.trans (lead?_four k hk))⟩))

/-- The six bits of a byte that is no first one, with the bounds told of them. -/
theorem GoesOn.exists_bits {lo hi b : UInt8} {p : List UInt8} (h : GoesOn lo hi (b :: p)) (hlo : 0x80 ≤ lo.toNat)
    (hhi : hi.toNat ≤ 0xbf) :
    ∃ m < 0x40, b = (0x80 + m).toUInt8 ∧ lo.toNat ≤ 0x80 + m ∧ 0x80 + m ≤ hi.toNat := by
  have hl : lo.toNat ≤ b.toNat := UInt8.le_iff_toNat_le.mp h.1
  have hh : b.toNat ≤ hi.toNat := UInt8.le_iff_toNat_le.mp h.2.1
  have hback : 0x80 + (b.toNat - 0x80) = b.toNat := by omega
  refine ⟨b.toNat - 0x80, by omega, ?_, by omega, by omega⟩
  rw [hback]
  exact (UInt8.ofNat_toNat).symm

/-- A character is the one of its number. -/
theorem exists_char {n : Nat} (hvalid : n < 0xd800 ∨ (0xdfff < n ∧ n < 0x110000)) : ∃ c : Char, c.toNat = n :=
  ⟨Char.ofNatAux n hvalid, rfl⟩

theorem exists_encodeChar_two {k m : Nat} (hk : k < 30) (hm : m < 0x40) :
    ∃ c, encodeChar c = [(0xc2 + k).toUInt8, (0x80 + m).toUInt8] := by
  obtain ⟨c, hc⟩ := exists_char (n := (k + 2) * 0x40 + m) (by omega)
  have hfirst : 0xc0 + ((k + 2) * 0x40 + m) / 0x40 = 0xc2 + k := by omega
  have hlast : ((k + 2) * 0x40 + m) % 0x40 = m := by omega
  refine ⟨c, ?_⟩
  rw [encodeChar, hc, if_neg (by omega), if_pos (by omega), hfirst, hlast]

theorem exists_encodeChar_three {k m m' : Nat} (hk : k < 16) (hm : m < 0x40) (hm' : m' < 0x40)
    (hlong : k = 0 → 0x20 ≤ m) (hhalf : k = 13 → m < 0x20) :
    ∃ c, encodeChar c = [(0xe0 + k).toUInt8, (0x80 + m).toUInt8, (0x80 + m').toUInt8] := by
  obtain ⟨c, hc⟩ := exists_char (n := (k * 0x40 + m) * 0x40 + m') (by omega)
  have hfirst : ((k * 0x40 + m) * 0x40 + m') / 0x1000 = k := by omega
  have hsecond : ((k * 0x40 + m) * 0x40 + m') / 0x40 % 0x40 = m := by omega
  have hlast : ((k * 0x40 + m) * 0x40 + m') % 0x40 = m' := by omega
  refine ⟨c, ?_⟩
  rw [encodeChar, hc, if_neg (by omega), if_neg (by omega), if_pos (by omega), hfirst, hsecond, hlast]

theorem exists_encodeChar_four {k m m' m'' : Nat} (hk : k < 5) (hm : m < 0x40) (hm' : m' < 0x40) (hm'' : m'' < 0x40)
    (hlong : k = 0 → 0x10 ≤ m) (hlast : k = 4 → m < 0x10) :
    ∃ c, encodeChar c =
      [(0xf0 + k).toUInt8, (0x80 + m).toUInt8, (0x80 + m').toUInt8, (0x80 + m'').toUInt8] := by
  obtain ⟨c, hc⟩ := exists_char (n := ((k * 0x40 + m) * 0x40 + m') * 0x40 + m'') (by omega)
  have hfirst : (((k * 0x40 + m) * 0x40 + m') * 0x40 + m'') / 0x40000 = k := by omega
  have hsecond : (((k * 0x40 + m) * 0x40 + m') * 0x40 + m'') / 0x1000 % 0x40 = m := by omega
  have hthird : (((k * 0x40 + m) * 0x40 + m') * 0x40 + m'') / 0x40 % 0x40 = m' := by omega
  have hfourth : (((k * 0x40 + m) * 0x40 + m') * 0x40 + m'') % 0x40 = m'' := by omega
  refine ⟨c, ?_⟩
  rw [encodeChar, hc, if_neg (by omega), if_neg (by omega), if_neg (by omega), hfirst, hsecond, hthird, hfourth]

/-- **Within the bounds there are only characters**: a first byte and bytes that stay within its bounds, as many as it
asks for, are the bytes of a character. -/
theorem exists_encodeChar_of_goesOn {b lo hi : UInt8} {left : Nat} {p : List UInt8}
    (hlead : lead? b = some (left, lo, hi)) (hp : GoesOn lo hi p) (hlength : p.length = left) :
    ∃ c, encodeChar c = b :: p := by
  obtain ⟨n, hn, rfl, hbounds⟩ | ⟨k, hk, rfl, hbounds⟩ | ⟨k, hk, rfl, hbounds⟩ | ⟨k, hk, rfl, hbounds⟩ :=
      lead?_eq_some hlead <;>
    obtain ⟨rfl, rfl, rfl⟩ : left = _ ∧ lo = _ ∧ hi = _ := by simpa using hbounds
  · obtain rfl := List.length_eq_zero_iff.mp hlength
    obtain ⟨c, hc⟩ := exists_char (n := n) (by omega)
    exact ⟨c, by rw [encodeChar, hc, if_pos hn]⟩
  · obtain ⟨x, rfl⟩ := List.length_eq_one_iff.mp hlength
    obtain ⟨m, hm, rfl, -⟩ := hp.exists_bits (by decide) (by decide)
    exact exists_encodeChar_two hk hm
  · obtain ⟨x, y, rfl⟩ := List.length_eq_two.mp hlength
    obtain ⟨m, hm, rfl, hlo, hhi⟩ := hp.exists_bits (by split <;> decide) (by split <;> decide)
    obtain ⟨m', hm', rfl, -⟩ := hp.2.2.exists_bits (by decide) (by decide)
    refine exists_encodeChar_three hk hm hm' (fun hzero => ?_) (fun hthirteen => ?_)
    · rw [if_pos hzero] at hlo
      exact Nat.le_of_add_le_add_left (a := 0x80) hlo
    · rw [if_pos hthirteen] at hhi
      have : 0x80 + m ≤ 0x9f := hhi
      omega
  · obtain ⟨x, y, z, rfl⟩ := List.length_eq_three.mp hlength
    obtain ⟨m, hm, rfl, hlo, hhi⟩ := hp.exists_bits (by split <;> decide) (by split <;> decide)
    obtain ⟨m', hm', rfl, -⟩ := hp.2.2.exists_bits (by decide) (by decide)
    obtain ⟨m'', hm'', rfl, -⟩ := hp.2.2.2.2.exists_bits (by decide) (by decide)
    refine exists_encodeChar_four hk hm hm' hm'' (fun hzero => ?_) (fun hfour => ?_)
    · rw [if_pos hzero] at hlo
      exact Nat.le_of_add_le_add_left (a := 0x80) hlo
    · rw [if_pos hfour] at hhi
      have : 0x80 + m ≤ 0x8f := hhi
      omega

/-- Bounds that a first byte sets are not the wrong way round. -/
theorem lead?_bounds {b lo hi : UInt8} {left : Nat} (h : lead? b = some (left, lo, hi)) : lo ≤ hi := by
  obtain ⟨n, hn, rfl, hbounds⟩ | ⟨k, hk, rfl, hbounds⟩ | ⟨k, hk, rfl, hbounds⟩ | ⟨k, hk, rfl, hbounds⟩ :=
      lead?_eq_some h <;>
    obtain ⟨-, rfl, rfl⟩ : left = _ ∧ lo = _ ∧ hi = _ := by simpa using hbounds
  · decide
  · decide
  · exact (by decide : ∀ k < 16, (if k = 0 then 0xa0 else 0x80 : UInt8) ≤ if k = 13 then 0x9f else 0xbf) k hk
  · exact (by decide : ∀ k < 5, (if k = 0 then 0x90 else 0x80 : UInt8) ≤ if k = 4 then 0x8f else 0xbf) k hk

/-- After a first byte, the others are read. -/
theorem exists_read_of_lead? {b lo hi : UInt8} {left : Nat} (h : lead? b = some (left, lo, hi)) :
    ∃ value, ∀ r, read b r = readRest value 1 lo hi left r := by
  refine ⟨if left == 0 then b.toNat else b.toNat % Nat.pow 2 (6 - left), fun r => ?_⟩
  rw [read, h]

/-- The bytes of a character stay within the bounds of the first. -/
theorem goesOn_of_encodeChar {c : Char} {b : UInt8} {bs : List UInt8} (h : encodeChar c = b :: bs) :
    ∃ lo hi, lead? b = some (bs.length, lo, hi) ∧ GoesOn lo hi bs := by
  obtain ⟨b', bs', hbytes, hread⟩ := read_encodeChar c
  obtain ⟨rfl, rfl⟩ := List.cons_eq_cons.mp (h.symm.trans hbytes)
  specialize hread []
  rw [List.append_nil] at hread
  cases hlead : lead? b with
  | none =>
    rw [read, hlead] at hread
    cases hread
  | some bounds =>
    obtain ⟨left, lo, hi⟩ := bounds
    obtain ⟨value, hvalue⟩ := exists_read_of_lead? hlead
    rw [hvalue] at hread
    obtain ⟨p, rest, hsplit, hp, ⟨hlength, c', hc⟩ | ⟨-, -, reason, hbroken⟩⟩ := readRest_spec value 1 lo hi left bs
    · -- the width of the character says that no byte is left over
      have hwidth : 1 + p.length = bs.length + 1 := (Sequence.character.inj (hc.symm.trans hread)).2
      have hall : bs.length = p.length + rest.length := by rw [hsplit, List.length_append]
      obtain rfl : rest = [] := List.length_eq_zero_iff.mp (by omega)
      rw [List.append_nil] at hsplit
      subst hsplit
      exact ⟨lo, hi, hlength ▸ rfl, hp⟩
    · cases hbroken.symm.trans hread

/-- **The bytes that some character begins with**: a first byte, and no more bytes than it asks for, which stay within
its bounds. -/
theorem beginsCharacter_cons_iff {b : UInt8} {p : List UInt8} :
    BeginsCharacter (b :: p) ↔
      ∃ left lo hi, lead? b = some (left, lo, hi) ∧ p.length ≤ left ∧ GoesOn lo hi p := by
  constructor
  · rintro ⟨c, hc⟩
    obtain ⟨rest, hbytes⟩ := hc
    obtain ⟨lo, hi, hlead, hgoes⟩ := goesOn_of_encodeChar hbytes.symm
    have hfront : p <+: p ++ rest := List.prefix_append p rest
    exact ⟨_, lo, hi, hlead, hfront.length_le, hgoes.of_prefix hfront⟩
  · rintro ⟨left, lo, hi, hlead, hlength, hp⟩
    obtain ⟨q, hfront, hq, hgoes⟩ := hp.exists_longer (lead?_bounds hlead) hlength
    obtain ⟨c, hc⟩ := exists_encodeChar_of_goesOn hlead hgoes hq
    exact ⟨c, hc ▸ (List.prefix_cons_inj b).mpr hfront⟩

/-! ### Decoding -/

/-- A character that stands at the beginning of some bytes begins with the first of them. -/
theorem exists_encodeChar_cons_of_prefix {c : Char} {b : UInt8} {r : List UInt8} (h : encodeChar c <+: b :: r) :
    ∃ bs, encodeChar c = b :: bs ∧ bs <+: r := by
  obtain ⟨b', bs, hbytes, -⟩ := read_encodeChar c
  rw [hbytes] at h ⊢
  obtain ⟨rfl, hbs⟩ := List.cons_prefix_cons.mp h
  exact ⟨bs, rfl, hbs⟩

/-- A byte that no character begins with is an invalid part. -/
theorem isInvalidPart_of_lead?_eq_none {b : UInt8} (h : lead? b = none) (r : List UInt8) : IsInvalidPart [b] r where
  ne_nil := List.cons_ne_nil b []
  no_character c hc := by
    obtain ⟨bs, hbytes, -⟩ := exists_encodeChar_cons_of_prefix hc
    obtain ⟨lo, hi, hlead, -⟩ := goesOn_of_encodeChar hbytes
    cases h.symm.trans hlead
  begins := .inl rfl
  longest longer hlonger hlength hbegins := by
    obtain rfl | ⟨p, rfl, -⟩ := List.prefix_cons_iff.mp hlonger
    · exact absurd hlength (Nat.not_lt_zero _)
    · obtain ⟨left, lo, hi, hlead, -⟩ := beginsCharacter_cons_iff.mp hbegins
      cases h.symm.trans hlead

/-- The longest part that goes on, where it is not finished, is an invalid part. -/
theorem isInvalidPart_of_goesOn {b lo hi : UInt8} {left : Nat} (hlead : lead? b = some (left, lo, hi))
    {p rest : List UInt8} (hp : GoesOn lo hi p) (hshort : p.length < left)
    (hlongest : ∀ longer, longer <+: p ++ rest → p.length < longer.length → ¬ GoesOn lo hi longer) :
    IsInvalidPart (b :: p) rest where
  ne_nil := List.cons_ne_nil b p
  no_character c hc := by
    obtain ⟨bs, hbytes, hbs⟩ := exists_encodeChar_cons_of_prefix hc
    obtain ⟨lo', hi', hlead', hgoes⟩ := goesOn_of_encodeChar hbytes
    obtain ⟨rfl, rfl, rfl⟩ : left = bs.length ∧ lo = lo' ∧ hi = hi' := by simpa using hlead.symm.trans hlead'
    exact hlongest bs hbs hshort hgoes
  begins := .inr (beginsCharacter_cons_iff.mpr ⟨left, lo, hi, hlead, Nat.le_of_lt hshort, hp⟩)
  longest longer hlonger hlength hbegins := by
    obtain rfl | ⟨tail, rfl, htail⟩ := List.prefix_cons_iff.mp hlonger
    · exact absurd hlength (Nat.not_lt_zero _)
    · obtain ⟨left', lo', hi', hlead', -, hgoes⟩ := beginsCharacter_cons_iff.mp hbegins
      obtain ⟨rfl, rfl, rfl⟩ : left = left' ∧ lo = lo' ∧ hi = hi' := by simpa using hlead.symm.trans hlead'
      exact hlongest tail htail (Nat.lt_of_succ_lt_succ hlength) hgoes

/-- **One sequence is read as the bytes of the characters say**: a character that stands there, or an invalid part. -/
theorem read_spec (b : UInt8) (r : List UInt8) :
    (∃ c rest, b :: r = encodeChar c ++ rest ∧ read b r = .character c (encodeChar c).length) ∨
    ∃ reason part rest, b :: r = part ++ rest ∧ IsInvalidPart part rest ∧ read b r = .broken reason part.length := by
  cases hlead : lead? b with
  | none =>
    refine .inr ⟨.startByte, [b], r, rfl, isInvalidPart_of_lead?_eq_none hlead r, ?_⟩
    rw [read, hlead]
    rfl
  | some bounds =>
    obtain ⟨left, lo, hi⟩ := bounds
    obtain ⟨value, hvalue⟩ := exists_read_of_lead? hlead
    obtain ⟨p, rest, rfl, hp, ⟨hlength, -⟩ | ⟨hshort, hlongest, reason, hbroken⟩⟩ :=
      readRest_spec value 1 lo hi left r
    · -- the bytes are those of some character, and they are read as this one
      obtain ⟨c', hbytes⟩ := exists_encodeChar_of_goesOn hlead hp hlength
      obtain ⟨b', bs, hbytes', hback⟩ := read_encodeChar c'
      obtain ⟨rfl, rfl⟩ := List.cons_eq_cons.mp (hbytes.symm.trans hbytes')
      refine .inl ⟨c', rest, by rw [hbytes]; rfl, ?_⟩
      rw [hback, hbytes, List.length_cons]
    · refine .inr ⟨reason, b :: p, rest, rfl, isInvalidPart_of_goesOn hlead hp hshort hlongest, ?_⟩
      rw [hvalue, hbroken, List.length_cons, Nat.add_comm]

theorem decodeLossy_encodeChar_append (c : Char) (rest : List UInt8) :
    decodeLossy (encodeChar c ++ rest) = c :: decodeLossy rest := by
  obtain ⟨b, bs, hbytes, hread⟩ := read_encodeChar c
  rw [hbytes, List.cons_append, decodeLossy, hread]
  dsimp only
  rw [Nat.add_sub_cancel, List.drop_left]

theorem decodeLossy_append_of_isInvalidPart {part rest : List UInt8} (h : IsInvalidPart part rest) :
    decodeLossy (part ++ rest) = replacement :: decodeLossy rest := by
  cases part with
  | nil => exact absurd rfl h.ne_nil
  | cons b p =>
    rw [List.cons_append, decodeLossy]
    obtain ⟨c, rest', hsplit, -⟩ | ⟨reason, part', rest', hsplit, hpart', hread⟩ := read_spec b (p ++ rest)
    · exact absurd ⟨rest', hsplit.symm⟩ (h.no_character c)
    · obtain ⟨rfl, rfl⟩ := h.eq_of_append_eq hpart' hsplit
      rw [hread]
      dsimp only
      rw [List.length_cons, Nat.add_sub_cancel, List.drop_left]

/-- **What decoding with replacement gives is the text of the bytes**, and there is no other. -/
theorem lossyText_iff {bs : List UInt8} {cs : List Char} : LossyText bs cs ↔ decodeLossy bs = cs := by
  constructor
  · intro h
    induction h with
    | nil => rw [decodeLossy]
    | keep c _ ih => rw [decodeLossy_encodeChar_append, ih]
    | replace hpart _ ih => rw [decodeLossy_append_of_isInvalidPart hpart, ih]
  · rintro rfl
    -- along the bytes, which each sequence makes shorter
    induction hn : bs.length using Nat.strongRecOn generalizing bs with
    | ind n ih =>
      cases bs with
      | nil => rw [decodeLossy]; exact .nil
      | cons b r =>
        obtain ⟨c, rest, hsplit, -⟩ | ⟨reason, part, rest, hsplit, hpart, -⟩ := read_spec b r
        · obtain ⟨b', bs', hbytes, -⟩ := read_encodeChar c
          rw [hsplit, decodeLossy_encodeChar_append]
          refine .keep c (ih rest.length ?_ rfl)
          rw [← hn, hsplit, List.length_append, hbytes, List.length_cons]
          omega
        · rw [hsplit, decodeLossy_append_of_isInvalidPart hpart]
          have hpos : 0 < part.length := List.length_pos_iff.mpr hpart.ne_nil
          refine .replace hpart (ih rest.length ?_ rfl)
          rw [← hn, hsplit, List.length_append]
          omega

/-- **The bytes of a text become this text**: nothing is replaced. -/
theorem decodeLossy_encode (s : List Char) : decodeLossy (encode s) = s := by
  induction s with
  | nil => rw [encode, List.flatMap_nil, decodeLossy]
  | cons c s ih =>
    have hcons : encode (c :: s) = encodeChar c ++ encode s := List.flatMap_cons
    rw [hcons, decodeLossy_encodeChar_append, ih]

end Landscape.Utf8
