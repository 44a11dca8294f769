import Landscape.Document
import Landscape.Proofs.Text.Split

/-!
# The parts of a document

What building reads of a document: the entries of a mapping, the values of its keys, the items of a list. A key that is
absent reads as null (`Landscape.Value.field`), and what is no list has no items (`Landscape.Value.items`).

A contract names its owner by a reference. What this means is said by names alone (`Landscape.Refers`), and looking for
an interface that fits a reference is looking for names that it means (`Landscape.OwnerReference.fits_iff`).
-/

namespace Landscape

/-! ### Fields -/

/-- The value of a key, if the value is a mapping that has the key. -/
def Value.field? (key : String) : Value → Option Value
  | .mapping es => Value.lookup? key es
  | _ => none

/-- The value of a key, if the value is a mapping that has the key, else null. -/
def Value.field (key : String) : Value → Value
  | .mapping es => Entries.get es key
  | _ => .null

/-- The items of a list; other values have none. -/
def Value.items : Value → List Value
  | .list xs => xs
  | _ => []

theorem entriesOf_eq_ok {part : Part} {v : Value} {es : Entries} :
    entriesOf part v = .ok es ↔ v = .mapping es := by
  cases v <;> simp [entriesOf, eq_comm]

/-- A name is a text. -/
theorem get_name_of_nameOf {part : Part} {es : Entries} {name : String}
    (h : nameOf part es = .ok name) : es.get "name" = .text name := by
  rw [nameOf] at h
  cases hv : es.get "name" with
  | text s =>
    rw [hv, nameOf?] at h
    by_cases hs : allBlank s.toList
    · rw [if_pos hs] at h
      cases h
    · rw [if_neg hs] at h
      cases h
      rfl
  | _ => rw [hv] at h; cases h

/-- The items that are built are those of the list in the document. -/
theorem itemsOf_eq_ok {listing : Listing} {part : Part} {name : String} {es : Entries} {xs : List Value}
    (h : itemsOf listing part name es = .ok xs) : xs = (es.get listing.key).items := by
  rw [itemsOf] at h
  split at h <;> rename_i hv
  · cases h
    rw [hv]
    rfl
  · cases h
    rw [hv]
    rfl
  · cases h

/-! ### References -/

/-- **What a reference means**: without a slash, each interface of this name; else an interface whose name comes after
the first slash, of a microservice whose name comes before it. -/
def Refers (reference microservice interface : String) : Prop :=
  '/' ∉ reference.toList ∧ interface = reference ∨
    '/' ∉ microservice.toList ∧ reference.toList = microservice.toList ++ '/' :: interface.toList

instance (reference microservice interface : String) : Decidable (Refers reference microservice interface) :=
  inferInstanceAs (Decidable (_ ∨ _))

namespace OwnerReference

variable {reference : String}

theorem of_of_notMem (h : '/' ∉ reference.toList) : OwnerReference.of reference = ⟨none, reference⟩ := by
  rw [OwnerReference.of, dropWhile_eq_nil_of_notMem h]

theorem of_of_eq_append {a b : List Char} (h : reference.toList = a ++ '/' :: b) (ha : '/' ∉ a) :
    OwnerReference.of reference = ⟨some (String.ofList a), String.ofList b⟩ := by
  obtain ⟨htake, hdrop⟩ := takeWhile_append_cons_of_notMem (r := b) ha
  rw [OwnerReference.of, h, hdrop, htake]

/-- A slash cuts a text in one way. -/
theorem refers_iff_of_eq_append {a b : List Char} {microservice interface : String}
    (h : reference.toList = a ++ '/' :: b) (ha : '/' ∉ a) :
    Refers reference microservice interface ↔ microservice.toList = a ∧ interface.toList = b := by
  have hmem : '/' ∈ reference.toList := by simp [h]
  constructor
  · rintro (⟨hnot, -⟩ | ⟨hs, heq⟩)
    · exact absurd hmem hnot
    · obtain ⟨htake, hdrop⟩ := takeWhile_append_cons_of_notMem (r := b) ha
      obtain ⟨htake', hdrop'⟩ := takeWhile_append_cons_of_notMem (r := interface.toList) hs
      rw [← h, heq] at htake hdrop
      exact ⟨htake'.symm.trans htake, (List.cons.inj (hdrop'.symm.trans hdrop)).2⟩
  · rintro ⟨rfl, rfl⟩
    exact .inr ⟨ha, h⟩

/-- **What fits a reference** is what it means. -/
theorem fits_iff {m : Model} {i : Ref .interface} {r : Ref .microservice}
    (hr : (m.interface i).provider = some r) :
    (OwnerReference.of reference).fits m i = true ↔
      Refers reference (m.microservice r).name (m.interface i).name := by
  by_cases hmem : '/' ∈ reference.toList
  · obtain ⟨a, b, heq, ha⟩ := List.eq_append_cons_of_mem hmem
    rw [refers_iff_of_eq_append heq ha, of_of_eq_append heq ha]
    simp [fits, hr, ← String.toList_inj, and_comm]
  · rw [of_of_notMem hmem, Refers]
    have hne : ¬ reference.toList = (m.microservice r).name.toList ++ '/' :: (m.interface i).name.toList :=
      fun heq => hmem (by simp [heq])
    simp [fits, hmem, hne]

end OwnerReference

end Landscape
