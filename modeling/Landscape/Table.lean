/-!
# Tables

A table numbers its rows from zero in the order in which they were added. Rows are never taken away, so
a number once given keeps meaning the same row. Asking for a number that was not given yet answers
the default row, and changing it changes nothing.
-/

namespace Landscape

/-- Rows, numbered from zero. -/
structure Table (α : Type) where
  rows : List α := []
  deriving Repr

namespace Table

variable {α : Type}

instance : Inhabited (Table α) := ⟨⟨[]⟩⟩

/-- How many rows there are, which is the number of the next one. -/
def size (t : Table α) : Nat :=
  t.rows.length

/-- The row with a number. -/
def get [Inhabited α] (t : Table α) (i : Nat) : α :=
  t.rows.getD i default

/-- The table with one more row. -/
def add (t : Table α) (a : α) : Table α :=
  ⟨t.rows ++ [a]⟩

/-- The table with one row changed. -/
def modify (t : Table α) (i : Nat) (f : α → α) : Table α :=
  ⟨t.rows.modify i f⟩

/-! ### What the operations do to the rows -/

@[simp] theorem size_add (t : Table α) (a : α) : (t.add a).size = t.size + 1 := by
  simp [size, add]

@[simp] theorem size_modify (t : Table α) (i : Nat) (f : α → α) : (t.modify i f).size = t.size := by
  simp [size, modify]

/-- The row that was added last has the old size as its number. -/
@[simp] theorem get_add_size [Inhabited α] (t : Table α) (a : α) : (t.add a).get t.size = a := by
  simp [get, add, size, List.getD]

/-- Adding a row leaves the others alone. -/
theorem get_add_of_lt [Inhabited α] (t : Table α) (a : α) {i : Nat} (h : i < t.size) :
    (t.add a).get i = t.get i := by
  simp [get, add, size, List.getD] at h ⊢
  simp [List.getElem?_append_left h]

/-- A row that is asked for is the default one or one of the table. -/
theorem get_eq_default_or_mem [Inhabited α] (t : Table α) (i : Nat) :
    t.get i = default ∨ t.get i ∈ t.rows := by
  rw [get, List.getD_eq_getElem?_getD]
  cases h : t.rows[i]? with
  | none => exact .inl rfl
  | some a => exact .inr (List.mem_of_getElem? h)

/-- A number that was not given yet means the default row. -/
theorem get_of_size_le [Inhabited α] (t : Table α) {i : Nat} (h : t.size ≤ i) : t.get i = default := by
  rw [get, List.getD_eq_getElem?_getD, List.getElem?_eq_none h]
  rfl

/-- Adding a row changes what its number means, and nothing else. -/
theorem get_add [Inhabited α] (t : Table α) (a : α) (i : Nat) :
    (t.add a).get i = if i = t.size then a else t.get i := by
  rcases Nat.lt_trichotomy i t.size with h | rfl | h
  · rw [if_neg (Nat.ne_of_lt h), get_add_of_lt t a h]
  · rw [if_pos rfl, get_add_size]
  · have hafter : (t.add a).size ≤ i := by
      rw [size_add]
      exact Nat.succ_le_of_lt h
    rw [if_neg (Nat.ne_of_gt h), get_of_size_le _ hafter, get_of_size_le _ (Nat.le_of_lt h)]

/-- Changing a row that exists. -/
theorem get_modify_self [Inhabited α] (t : Table α) {i : Nat} (f : α → α) (h : i < t.size) :
    (t.modify i f).get i = f (t.get i) := by
  simp [get, modify, size, List.getD] at h ⊢
  simp [h]

/-- Changing one row leaves the others alone. -/
theorem get_modify_of_ne [Inhabited α] (t : Table α) {i j : Nat} (f : α → α) (h : i ≠ j) :
    (t.modify i f).get j = t.get j := by
  simp [get, modify, List.getD, h]

/-- Changing a row changes it if it exists, and nothing else. -/
theorem get_modify [Inhabited α] (t : Table α) (i j : Nat) (f : α → α) :
    (t.modify i f).get j = if i = j ∧ j < t.size then f (t.get j) else t.get j := by
  by_cases hij : i = j
  · subst hij
    by_cases hi : i < t.size
    · rw [if_pos ⟨rfl, hi⟩, get_modify_self t f hi]
    · have hbefore : t.size ≤ i := Nat.le_of_not_lt hi
      have hafter : (t.modify i f).size ≤ i := by rwa [size_modify]
      rw [if_neg fun h => hi h.2, get_of_size_le _ hafter, get_of_size_le _ hbefore]
  · rw [if_neg fun h => hij h.1, get_modify_of_ne t f hij]

end Table

end Landscape
