import Landscape.Host.FileSystem
import Mathlib.Data.List.Basic

/-!
# Places in a file system

A path leads to a place, if the directories on the way are there (`Landscape.FileSystem.Leads`). What an operation
does is told by places: making directories leaves all files where they are
(`Landscape.FileSystem.AddsDirectories`), and writing a file changes the file at one place and nothing else
(`Landscape.FileSystem.exists_put_of_write`).

No operation takes a directory away, so a path that leads to a place keeps leading there
(`Landscape.FileSystem.leads_of_keepsDirectories`). The converse needs more, since a path with a way up may come to
lead somewhere when a directory is made (`Landscape.FileSystem.Rooted.leads`).
-/

namespace Landscape.FileSystem

variable {fs fs' : FileSystem} {here place q : List String} {p : FilePath}

/-! ### What is at a place -/

/-- The file at a place. -/
def file? (fs : FileSystem) (place : List String) : Option (List UInt8) :=
  match fs.find? place with
  | some (.file bytes) => some bytes
  | _ => none

theorem lookup_map_put (l : List (List String × Entry)) (place q : List String) (e : Entry) :
    (l.map fun x => if x.1 = place then (place, e) else x).lookup q =
      if q = place then (l.lookup q).map fun _ => e else l.lookup q := by
  induction l with
  | nil => simp
  | cons x l ih =>
    obtain ⟨k, v⟩ := x
    rw [List.map_cons, List.lookup_cons]
    by_cases hq : q = k
    · subst hq
      by_cases hk : q = place
      · simp [hk]
      · simp [hk]
    · have hqk : (q == k) = false := by simpa using hq
      rw [List.lookup_cons, hqk, ← ih]
      by_cases hk : k = place
      · subst hk
        simp [hqk]
      · simp [hk, hqk]

/-- What is put at a place is there. -/
theorem find?_put_self (hplace : place ≠ []) (e : Entry) : (fs.put place e).find? place = some e := by
  have hempty : place.isEmpty = false := by simpa using hplace
  cases h : fs.entries.lookup place with
  | none => simp [find?, put, hempty, h, List.lookup_append]
  | some e' => simp [find?, put, hempty, h, lookup_map_put, -List.map_map]

/-- Putting something at a place leaves the others alone. -/
theorem find?_put_of_ne (hq : q ≠ place) (e : Entry) : (fs.put place e).find? q = fs.find? q := by
  have hqp : (q == place) = false := by simpa using hq
  cases h : (fs.entries.lookup place).isSome
  · simp [find?, put, h, List.lookup_append, List.lookup_cons, hqp]
  · simp [find?, put, h, lookup_map_put, hq]

/-! ### Following paths -/

/-- Every directory of `fs` is one of `fs'`. -/
def KeepsDirectories (fs fs' : FileSystem) : Prop :=
  ∀ q, fs.find? q = some .directory → fs'.find? q = some .directory

theorem KeepsDirectories.trans {fs'' : FileSystem} (h : fs.KeepsDirectories fs')
    (h' : fs'.KeepsDirectories fs'') : fs.KeepsDirectories fs'' :=
  fun q hq => h' q (h q hq)

/-- **One step of following a path**: up, into a directory, or to the end. -/
theorem followFrom_cons_eq_ok {name : String} {rest : List String} {e : Option Entry} :
    fs.followFrom place (name :: rest) = .ok (q, e) ↔ (FileName.bytes name).length ≤ longestName ∧
      (name = ".." ∧ fs.followFrom place.dropLast rest = .ok (q, e) ∨
        name ≠ ".." ∧ (fs.find? (place ++ [name]) = some .directory ∧
            fs.followFrom (place ++ [name]) rest = .ok (q, e) ∨
          fs.find? (place ++ [name]) ≠ some .directory ∧ rest = [] ∧
            q = place ++ [name] ∧ e = fs.find? (place ++ [name]))) := by
  rw [followFrom]
  by_cases hlong : longestName < (FileName.bytes name).length
  · rw [if_pos hlong]
    exact ⟨fun h => (nomatch h), fun h => absurd hlong (Nat.not_lt.mpr h.1)⟩
  · rw [if_neg hlong]
    by_cases hup : name = ".."
    · rw [if_pos (by simpa using hup)]
      constructor
      · exact fun h => ⟨Nat.le_of_not_lt hlong, .inl ⟨hup, h⟩⟩
      · rintro ⟨-, ⟨-, h⟩ | ⟨hname, -⟩⟩
        · exact h
        · exact absurd hup hname
    · rw [if_neg (by simpa using hup)]
      simp only [Nat.le_of_not_lt hlong, hup, ne_eq, not_false_eq_true, true_and, false_and, false_or]
      by_cases hdir : fs.find? (place ++ [name]) = some .directory
      · simp only [hdir, not_true_eq_false, true_and, false_and, or_false]
      · simp only [hdir, not_false_eq_true, true_and, false_and, false_or]
        cases rest with
        | nil =>
          constructor
          · rintro ⟨⟩
            exact ⟨rfl, rfl, rfl⟩
          · rintro ⟨-, rfl, rfl⟩
            rfl
        | cons first rest => exact ⟨fun h => (nomatch h), fun h => (nomatch h.1)⟩

/-- What is at the end of a path is found at its place, unless the path goes on from a directory. -/
theorem eq_find?_of_followFrom {names : List String} {e : Option Entry}
    (h : fs.followFrom place names = .ok (q, e)) (he : e ≠ some .directory) :
    q ≠ [] ∧ e = fs.find? q := by
  induction names generalizing place with
  | nil =>
    cases h
    exact absurd rfl he
  | cons name rest ih =>
    obtain ⟨-, ⟨-, h⟩ | ⟨-, ⟨-, h⟩ | ⟨-, -, rfl, rfl⟩⟩⟩ := followFrom_cons_eq_ok.mp h
    · exact ih h
    · exact ih h
    · exact ⟨by simp, rfl⟩

/-- **Where directories are kept, paths lead where they led**, and what they lead to is what is there. -/
theorem followFrom_of_keepsDirectories (hkeep : fs.KeepsDirectories fs') {names : List String}
    {e : Option Entry} (h : fs.followFrom place names = .ok (q, e)) :
    ∃ e', fs'.followFrom place names = .ok (q, e') ∧ (e = some .directory → e' = some .directory) ∧
      (e ≠ some .directory → e' = fs'.find? q) := by
  induction names generalizing place with
  | nil =>
    cases h
    exact ⟨_, rfl, fun _ => rfl, fun he => absurd rfl he⟩
  | cons name rest ih =>
    obtain ⟨hlong, ⟨hup, h⟩ | ⟨hup, ⟨hdir, h⟩ | ⟨hdir, rfl, rfl, rfl⟩⟩⟩ := followFrom_cons_eq_ok.mp h
    · obtain ⟨e', h', he'⟩ := ih h
      exact ⟨e', followFrom_cons_eq_ok.mpr ⟨hlong, .inl ⟨hup, h'⟩⟩, he'⟩
    · obtain ⟨e', h', he'⟩ := ih h
      exact ⟨e', followFrom_cons_eq_ok.mpr ⟨hlong, .inr ⟨hup, .inl ⟨hkeep _ hdir, h'⟩⟩⟩, he'⟩
    · refine ⟨_, followFrom_cons_eq_ok.mpr ⟨hlong, .inr ⟨hup, ?_⟩⟩, fun he => absurd he hdir, fun _ => rfl⟩
      by_cases hnew : fs'.find? (place ++ [name]) = some .directory
      · exact .inl ⟨hnew, by rw [hnew]; rfl⟩
      · exact .inr ⟨hnew, rfl, rfl, rfl⟩

/-- A path whose last name is no way up leads into the directory to which the names before it lead. -/
theorem exists_directory_of_followFrom {init : List String} {name : String} (hname : name ≠ "..")
    {e : Option Entry} (h : fs.followFrom place (init ++ [name]) = .ok (q, e)) :
    ∃ d, fs.followFrom place init = .ok (d, some .directory) ∧ q = d ++ [name] ∧ e = fs.find? q := by
  induction init generalizing place with
  | nil =>
    obtain ⟨-, ⟨hup, -⟩ | ⟨-, ⟨hdir, h⟩ | ⟨-, -, rfl, rfl⟩⟩⟩ := followFrom_cons_eq_ok.mp h
    · exact absurd hup hname
    · cases h
      exact ⟨place, rfl, rfl, hdir.symm⟩
    · exact ⟨place, rfl, rfl, rfl⟩
  | cons first init ih =>
    obtain ⟨hlong, ⟨hup, h⟩ | ⟨hup, ⟨hdir, h⟩ | ⟨-, hrest, -⟩⟩⟩ := followFrom_cons_eq_ok.mp h
    · obtain ⟨d, hd, hq⟩ := ih h
      exact ⟨d, followFrom_cons_eq_ok.mpr ⟨hlong, .inl ⟨hup, hd⟩⟩, hq⟩
    · obtain ⟨d, hd, hq⟩ := ih h
      exact ⟨d, followFrom_cons_eq_ok.mpr ⟨hlong, .inr ⟨hup, .inl ⟨hdir, hd⟩⟩⟩, hq⟩
    · simp at hrest

/-! ### Paths -/

/-- A path **leads** to a place, whether anything is there or not. -/
def Leads (fs : FileSystem) (here : List String) (p : FilePath) (place : List String) : Prop :=
  ∃ e, fs.follow here p = .ok (place, e)

/-- The file that a path leads to. -/
def fileOf? (fs : FileSystem) (here : List String) (p : FilePath) : Option (List UInt8) :=
  match fs.follow here p with
  | .ok (_, some (.file bytes)) => some bytes
  | _ => none

theorem follow_eq_ok {e : Option Entry} : fs.follow here p = .ok (q, e) ↔
    p.byteLength ≤ longestPath ∧
      fs.followFrom (if p.isAbsolute then [] else here) p.parts = .ok (q, e) := by
  rw [follow]
  by_cases hlong : longestPath < p.byteLength
  · simp [hlong, Nat.not_le_of_lt hlong]
  · cases fs.followFrom (if p.isAbsolute then [] else here) p.parts with
    | error f => simp [hlong, Except.mapError]
    | ok r => simp [hlong, Nat.le_of_not_lt hlong, Except.mapError]

/-- **Where directories are kept, a path keeps leading to its place.** -/
theorem leads_of_keepsDirectories (hkeep : fs.KeepsDirectories fs') (h : fs.Leads here p q) :
    fs'.Leads here p q := by
  obtain ⟨e, he⟩ := h
  obtain ⟨hlong, hfollow⟩ := follow_eq_ok.mp he
  obtain ⟨e', he', -⟩ := followFrom_of_keepsDirectories hkeep hfollow
  exact ⟨e', follow_eq_ok.mpr ⟨hlong, he'⟩⟩

/-- The file that a path leads to is the one at its place, if the last name is no way up. -/
theorem fileOf?_of_leads {init : List String} {name : String} (hp : p.parts = init ++ [name])
    (hname : name ≠ "..") (h : fs.Leads here p q) : fs.fileOf? here p = fs.file? q := by
  obtain ⟨e, he⟩ := h
  have hfollow := (follow_eq_ok.mp he).2
  rw [hp] at hfollow
  obtain ⟨d, -, -, hfind⟩ := exists_directory_of_followFrom hname hfollow
  rw [fileOf?, he, file?, ← hfind]
  rcases e with _ | _ | bytes <;> rfl

theorem exists_leads_of_fileOf? {bytes : List UInt8} (h : fs.fileOf? here p = some bytes) :
    ∃ q, fs.Leads here p q := by
  rw [fileOf?] at h
  split at h
  · exact ⟨_, _, ‹_›⟩
  · cases h

/-! ### Making directories -/

/-- `fs'` has the files of `fs`, each at its place, and all its directories. -/
structure AddsDirectories (fs fs' : FileSystem) : Prop where
  keeps : fs.KeepsDirectories fs'
  file?_eq : ∀ q, fs'.file? q = fs.file? q

theorem AddsDirectories.refl (fs : FileSystem) : fs.AddsDirectories fs :=
  ⟨fun _ hq => hq, fun _ => rfl⟩

theorem AddsDirectories.trans {fs'' : FileSystem} (h : fs.AddsDirectories fs')
    (h' : fs'.AddsDirectories fs'') : fs.AddsDirectories fs'' :=
  ⟨h.keeps.trans h'.keeps, fun q => (h'.file?_eq q).trans (h.file?_eq q)⟩

/-- Putting something where no directory is keeps the directories. -/
theorem keepsDirectories_put (h : fs.find? q ≠ some .directory) (e : Entry) :
    fs.KeepsDirectories (fs.put q e) := by
  intro q' hq'
  rw [find?_put_of_ne _ e]
  · exact hq'
  · rintro rfl
    exact h hq'

/-- A directory is made where nothing was. -/
theorem addsDirectories_of_makeDirectory (h : fs.makeDirectory here p = .ok fs') :
    fs.AddsDirectories fs' := by
  rw [makeDirectory] at h
  cases hfollow : fs.follow here p with
  | error f =>
    rw [hfollow] at h
    cases h
  | ok r =>
    obtain ⟨q, e⟩ := r
    rw [hfollow] at h
    cases e with
    | some e => cases h
    | none =>
      cases h
      obtain ⟨hq, hfind⟩ := eq_find?_of_followFrom (follow_eq_ok.mp hfollow).2 (by simp)
      refine ⟨keepsDirectories_put (by simp [← hfind]) _, fun q' => ?_⟩
      by_cases hq' : q' = q
      · subst hq'
        rw [file?, file?, find?_put_self hq, ← hfind]
      · rw [file?, file?, find?_put_of_ne hq']

/-- **Making directories changes no file**, also if it fails on the way. -/
theorem addsDirectories_makeDirectories (fuel : Nat) :
    fs.AddsDirectories (fs.makeDirectories here p fuel).1 := by
  induction fuel generalizing fs p with
  | zero => exact AddsDirectories.refl fs
  | succ fuel ih =>
    rw [makeDirectories]
    split
    · exact addsDirectories_of_makeDirectory ‹_›
    · split
      · split
        · exact AddsDirectories.refl fs
        · have hparent : fs.AddsDirectories (fs.makeDirectories here p.parent fuel).1 := ih
          split
          · rename_i hmade
            rw [hmade] at hparent
            exact hparent
          · rename_i hmade
            rw [hmade] at hparent
            split
            · exact hparent.trans (addsDirectories_of_makeDirectory ‹_›)
            · exact hparent
      · exact AddsDirectories.refl fs

/-! ### Writing a file -/

/-- **Writing a file** changes what is at the place to which its path leads, and nothing else. -/
theorem exists_put_of_write {bytes : List UInt8} (h : fs.write here p bytes = .ok fs') :
    ∃ q, fs.Leads here p q ∧ q ≠ [] ∧ fs.find? q ≠ some .directory ∧ fs' = fs.put q (.file bytes) := by
  rw [write] at h
  cases hfollow : fs.follow here p with
  | error f =>
    rw [hfollow] at h
    cases h
  | ok r =>
    obtain ⟨q, e⟩ := r
    rw [hfollow] at h
    by_cases he : e = some .directory
    · rw [he] at h
      cases h
    · obtain ⟨hq, hfind⟩ := eq_find?_of_followFrom (follow_eq_ok.mp hfollow).2 he
      refine ⟨q, ⟨e, hfollow⟩, hq, hfind ▸ he, ?_⟩
      rcases e with _ | _ | old
      · cases h
        rfl
      · exact absurd rfl he
      · cases h
        rfl

theorem file?_put_self (hq : q ≠ []) (bytes : List UInt8) :
    (fs.put q (.file bytes)).file? q = some bytes := by
  rw [file?, find?_put_self hq]

theorem file?_put_of_ne (hq : q ≠ place) (e : Entry) : (fs.put place e).file? q = fs.file? q := by
  rw [file?, file?, find?_put_of_ne hq]

/-! ### What stays -/

/-- `fs'` has the directories of `fs`, and its files except where one of some paths leads. -/
structure ChangesOnlyAt (here : List String) (ps : List FilePath) (fs fs' : FileSystem) : Prop where
  keeps : fs.KeepsDirectories fs'
  file?_eq : ∀ q, (∀ p ∈ ps, ¬fs'.Leads here p q) → fs'.file? q = fs.file? q

theorem AddsDirectories.changesOnlyAt (h : fs.AddsDirectories fs') : ChangesOnlyAt here [] fs fs' :=
  ⟨h.keeps, fun q _ => h.file?_eq q⟩

theorem ChangesOnlyAt.mono {ps ps' : List FilePath} (h : ChangesOnlyAt here ps fs fs') (hps : ps ⊆ ps') :
    ChangesOnlyAt here ps' fs fs' :=
  ⟨h.keeps, fun q hq => h.file?_eq q fun p hp => hq p (hps hp)⟩

/-- **One change after the other**: a path that leads to a place after the first still leads there after the second. -/
theorem ChangesOnlyAt.trans {ps ps' : List FilePath} {fs'' : FileSystem} (h : ChangesOnlyAt here ps fs fs')
    (h' : ChangesOnlyAt here ps' fs' fs'') : ChangesOnlyAt here (ps' ++ ps) fs fs'' := by
  refine ⟨h.keeps.trans h'.keeps, fun q hq => ?_⟩
  have hstep : ∀ p ∈ ps, ¬fs'.Leads here p q := fun p hp hleads =>
    hq p (List.mem_append_right ps' hp) (leads_of_keepsDirectories h'.keeps hleads)
  rw [h'.file?_eq q fun p hp => hq p (List.mem_append_left ps hp), h.file?_eq q hstep]

/-! ### Rooted file systems -/

/-- A file system is **rooted** if whatever there is lies in a directory. -/
def Rooted (fs : FileSystem) : Prop :=
  ∀ d name, fs.find? (d ++ [name]) ≠ none → fs.find? d = some .directory

/-- In a rooted file system, all the names on the way to something lead to directories. -/
theorem Rooted.find?_eq_directory (h : fs.Rooted) {d names : List String} (hnames : names ≠ [])
    (hfind : fs.find? (d ++ names) ≠ none) : fs.find? d = some .directory := by
  induction names generalizing d with
  | nil => exact absurd rfl hnames
  | cons name rest ih =>
    by_cases hrest : rest = []
    · rw [hrest] at hfind
      exact h d name hfind
    · rw [List.append_cons] at hfind
      exact h d name (by rw [ih hrest hfind]; simp)

/-- Without ways up, the names of a path are those of its place. -/
theorem eq_append_of_followFrom {names : List String} (hup : ".." ∉ names) {e : Option Entry}
    (h : fs.followFrom place names = .ok (q, e)) : q = place ++ names := by
  induction names generalizing place with
  | nil =>
    cases h
    rw [List.append_nil]
  | cons name rest ih =>
    obtain ⟨hname, hrest⟩ := List.ne_and_not_mem_of_not_mem_cons hup
    obtain ⟨-, ⟨rfl, -⟩ | ⟨-, ⟨-, h⟩ | ⟨-, rfl, rfl, -⟩⟩⟩ := followFrom_cons_eq_ok.mp h
    · exact absurd rfl hname
    · rw [ih hrest h, List.append_assoc, List.singleton_append]
    · rfl

/-- In a rooted file system a path without ways up leads to what there is, if it leads there at all. -/
theorem Rooted.exists_followFrom (h : fs.Rooted) {names : List String} (hup : ".." ∉ names)
    {e : Option Entry} (hfollow : fs'.followFrom place names = .ok (q, e)) (hfind : fs.find? q ≠ none) :
    ∃ e', fs.followFrom place names = .ok (q, e') := by
  induction names generalizing place with
  | nil =>
    cases hfollow
    exact ⟨_, rfl⟩
  | cons name rest ih =>
    obtain rfl := eq_append_of_followFrom hup hfollow
    obtain ⟨hname, hrest⟩ := List.ne_and_not_mem_of_not_mem_cons hup
    obtain ⟨hlong, hstep⟩ := followFrom_cons_eq_ok.mp hfollow
    by_cases hdir : fs.find? (place ++ [name]) = some .directory
    · -- the directory is there before too, and the rest of the path is followed from it
      have hnext : ∃ e', fs.followFrom (place ++ [name]) rest = .ok (place ++ name :: rest, e') := by
        obtain ⟨hc, -⟩ | ⟨-, ⟨-, h'⟩ | ⟨-, rfl, -, -⟩⟩ := hstep
        · exact absurd hc.symm hname
        · exact ih hrest h'
        · exact ⟨_, rfl⟩
      obtain ⟨e', he'⟩ := hnext
      exact ⟨e', followFrom_cons_eq_ok.mpr ⟨hlong, .inr ⟨hname.symm, .inl ⟨hdir, he'⟩⟩⟩⟩
    · -- what is no directory has nothing in it, so the path ends here
      obtain rfl : rest = [] := by
        by_contra hnil
        rw [List.append_cons] at hfind
        exact hdir (h.find?_eq_directory hnil hfind)
      exact ⟨_, followFrom_cons_eq_ok.mpr ⟨hlong, .inr ⟨hname.symm, .inr ⟨hdir, rfl, rfl, rfl⟩⟩⟩⟩

theorem Rooted.leads (h : fs.Rooted) (hup : ".." ∉ p.parts) (hleads : fs'.Leads here p q)
    (hfind : fs.find? q ≠ none) : fs.Leads here p q := by
  obtain ⟨e, he⟩ := hleads
  obtain ⟨hlong, hfollow⟩ := follow_eq_ok.mp he
  obtain ⟨e', he'⟩ := h.exists_followFrom hup hfollow hfind
  exact ⟨e', follow_eq_ok.mpr ⟨hlong, he'⟩⟩

end Landscape.FileSystem
