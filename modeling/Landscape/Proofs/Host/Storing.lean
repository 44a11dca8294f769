import Landscape.Proofs.Abort
import Landscape.Proofs.Host.Places
import Landscape.Proofs.Host.World

/-!
# What storing a file does

Storing a file makes the directories that lead to it and then writes it. There are five ways in which this ends
(`Landscape.Host.Stores`), and it is all or nothing: either the file is there with all its bytes
(`Landscape.Host.Stores.exists_leads`), or no file has changed (`Landscape.Host.Stores.addsDirectories`).

Two of the five ways are not those of a file system that refuses: the name is one that no file can have
(`Landscape.Host.NoPlace`).
-/

namespace Landscape

namespace Host

variable {files fs : FileSystem} {place : List String} {p : FilePath} {bytes : List UInt8}
  {r : Except AccessFault Unit}

/-! ### The outcome -/

/-- **How storing a file ends**, seen from the directory at a place, and the files it leaves. -/
inductive Stores (files : FileSystem) (place : List String) (p : FilePath) (bytes : List UInt8) :
    Except AccessFault Unit → FileSystem → Prop
  /-- The directory has a name that none can have. -/
  | noDirectory {f : AccessFault} (hparent : unusable? p.parent = some f) :
    Stores files place p bytes (.error f) files
  /-- The directory cannot be made. -/
  | notMade {f : FileFault} {fs : FileSystem} (hparent : unusable? p.parent = none)
    (hmade : files.ensureDirectory place p.parent = (fs, some f)) :
    Stores files place p bytes (.error (.file f)) fs
  /-- The file has a name that none can have. -/
  | noFile {f : AccessFault} {fs : FileSystem} (hparent : unusable? p.parent = none)
    (hmade : files.ensureDirectory place p.parent = (fs, none)) (hp : unusable? p = some f) :
    Stores files place p bytes (.error f) fs
  /-- The file cannot be written. -/
  | notWritten {f : FileFault} {fs : FileSystem} (hparent : unusable? p.parent = none)
    (hmade : files.ensureDirectory place p.parent = (fs, none)) (hp : unusable? p = none)
    (hwrite : fs.write place p bytes = .error f) : Stores files place p bytes (.error (.file f)) fs
  /-- The file is written. -/
  | written {fs fs' : FileSystem} (hparent : unusable? p.parent = none)
    (hmade : files.ensureDirectory place p.parent = (fs, none)) (hp : unusable? p = none)
    (hwrite : fs.write place p bytes = .ok fs') : Stores files place p bytes (.ok ()) fs'

/-- There is one way in which storing ends. -/
theorem Stores.unique {r' : Except AccessFault Unit} {fs' : FileSystem} (h : Stores files place p bytes r fs)
    (h' : Stores files place p bytes r' fs') : r = r' ∧ fs = fs' := by
  cases h <;> cases h' <;> simp_all

theorem run_ensureDirectory (h : Host) (p : FilePath) : (ensureDirectory p).run h =
    match unusable? p with
    | some f => (.error f, h)
    | none =>
      match h.files.ensureDirectory h.here p with
      | (fs, some f) => (.error (.file f), { h with files := fs })
      | (fs, none) => (.ok (), { h with files := fs }) := by
  cases hp : unusable? p with
  | some f =>
    simp only [ensureDirectory, hp]
    rfl
  | none =>
    simp only [ensureDirectory, hp]
    rw [Step.run_bind_of_ok (Step.run_get h)]
    rcases h.files.ensureDirectory h.here p with ⟨fs, _ | f⟩
    · rfl
    · rfl

theorem run_writeFile (h : Host) (p : FilePath) (bytes : List UInt8) : (writeFile p bytes).run h =
    match unusable? p with
    | some f => (.error f, h)
    | none =>
      match h.files.write h.here p bytes with
      | .error f => (.error (.file f), h)
      | .ok fs => (.ok (), { h with files := fs }) := by
  cases hp : unusable? p with
  | some f =>
    simp only [writeFile, hp]
    rfl
  | none =>
    simp only [writeFile, hp]
    rw [Step.run_bind_of_ok (Step.run_get h)]
    cases h.files.write h.here p bytes with
    | error f => rfl
    | ok fs => rfl

/-- **Storing a file** ends in one of these ways, and changes nothing of the host but its files. -/
theorem exists_stores (h : Host) (p : FilePath) (bytes : List UInt8) :
    ∃ r fs, Stores h.files h.here p bytes r fs ∧ (store p bytes).run h = (r, { h with files := fs }) := by
  have hmake := run_ensureDirectory h p.parent
  cases hparent : unusable? p.parent with
  | some f =>
    simp only [hparent] at hmake
    exact ⟨_, _, .noDirectory hparent, Step.run_bind_of_error hmake _⟩
  | none =>
    rcases hmade : h.files.ensureDirectory h.here p.parent with ⟨fs, _ | f⟩
    · simp only [hparent, hmade] at hmake
      rw [store, Step.run_bind_of_ok hmake, run_writeFile]
      cases hp : unusable? p with
      | some f => exact ⟨_, _, .noFile hparent hmade hp, rfl⟩
      | none =>
        cases hw : fs.write h.here p bytes with
        | error f => exact ⟨_, _, .notWritten hparent hmade hp hw, by simp only [here] at hw ⊢; rw [hw]⟩
        | ok fs' => exact ⟨_, _, .written hparent hmade hp hw, by simp only [here] at hw ⊢; rw [hw]⟩
    · simp only [hparent, hmade] at hmake
      exact ⟨_, _, .notMade hparent hmade, Step.run_bind_of_error hmake _⟩

/-! ### All or nothing -/

theorem addsDirectories_of_ensureDirectory {fault : Option FileFault}
    (hmade : files.ensureDirectory place p = (fs, fault)) : files.AddsDirectories fs := by
  have hadds : files.AddsDirectories (files.ensureDirectory place p).1 :=
    FileSystem.addsDirectories_makeDirectories _
  rw [hmade] at hadds
  exact hadds

/-- **If storing fails**, all files are as they were. -/
theorem Stores.addsDirectories {f : AccessFault} (hs : Stores files place p bytes (.error f) fs) :
    files.AddsDirectories fs := by
  cases hs with
  | noDirectory => exact .refl _
  | notMade _ hmade => exact addsDirectories_of_ensureDirectory hmade
  | noFile _ hmade _ => exact addsDirectories_of_ensureDirectory hmade
  | notWritten _ hmade _ _ => exact addsDirectories_of_ensureDirectory hmade

/-- **If storing succeeds**, the path leads to a place that holds the bytes, and all other files are as they
were. -/
theorem Stores.exists_leads (hs : Stores files place p bytes (.ok ()) fs) :
    ∃ q, fs.Leads place p q ∧ fs.file? q = some bytes ∧ files.KeepsDirectories fs ∧
      ∀ q', q' ≠ q → fs.file? q' = files.file? q' := by
  cases hs with
  | written _ hmade _ hwrite =>
    have hadds := addsDirectories_of_ensureDirectory hmade
    obtain ⟨q, hleads, hq, hfind, rfl⟩ := FileSystem.exists_put_of_write hwrite
    have hkeep := FileSystem.keepsDirectories_put hfind (.file bytes)
    refine ⟨q, FileSystem.leads_of_keepsDirectories hkeep hleads, FileSystem.file?_put_self hq bytes,
      hadds.keeps.trans hkeep, fun q' hq' => ?_⟩
    rw [FileSystem.file?_put_of_ne hq', hadds.file?_eq]

/-- A path is **writable** on a host: something can be stored there. -/
def Writable (h : Host) (p : FilePath) : Prop :=
  ∃ bytes h', (store p bytes).run h = (.ok (), h')

theorem Stores.writable {h : Host} (hs : Stores h.files h.here p bytes (.ok ()) fs) : h.Writable p := by
  obtain ⟨r, fs', hstores, hrun⟩ := exists_stores h p bytes
  obtain ⟨rfl, -⟩ := hstores.unique hs
  exact ⟨bytes, _, hrun⟩

/-- Writing does not depend on the bytes. -/
theorem exists_write_of_write {fs' : FileSystem} (h : fs.write place p bytes = .ok fs') (bytes' : List UInt8) :
    ∃ fs', fs.write place p bytes' = .ok fs' := by
  rw [FileSystem.write] at h ⊢
  generalize fs.follow place p = followed at h ⊢
  rcases followed with f | ⟨q, _ | _ | held⟩
  · cases h
  · exact ⟨_, rfl⟩
  · cases h
  · exact ⟨_, rfl⟩

/-- **Where something can be stored, anything can.** -/
theorem Writable.exists_stores {h : Host} (hp : h.Writable p) (bytes : List UInt8) :
    ∃ fs, Stores h.files h.here p bytes (.ok ()) fs := by
  obtain ⟨bytes', h', hrun⟩ := hp
  obtain ⟨r, fs, hstores, hrun'⟩ := Host.exists_stores h p bytes'
  obtain rfl : r = .ok () := (Prod.mk.inj (hrun'.symm.trans hrun)).1
  cases hstores with
  | written hparent hmade husable hwrite =>
    obtain ⟨fs', hwrite'⟩ := exists_write_of_write hwrite bytes
    exact ⟨fs', .written hparent hmade husable hwrite'⟩

/-- However storing ends, it changes only the file to which the path leads. -/
theorem Stores.changesOnlyAt (hs : Stores files place p bytes r fs) :
    FileSystem.ChangesOnlyAt place [p] files fs := by
  rcases r with f | u
  · exact hs.addsDirectories.changesOnlyAt.mono (List.nil_subset _)
  · obtain ⟨q, hleads, -, hkeep, hothers⟩ := hs.exists_leads
    refine ⟨hkeep, fun q' hq' => hothers q' ?_⟩
    rintro rfl
    exact hq' p (List.mem_singleton_self p) hleads

/-! ### Names that no file can have -/

/-- **A name that no file can have is met**: that of the directory, or that of the file after the directory was
made. -/
def NoPlace (files : FileSystem) (place : List String) (p : FilePath) : Prop :=
  (unusable? p.parent).isSome ∨
    (files.ensureDirectory place p.parent).2 = none ∧ (unusable? p).isSome

/-- A path whose text holds neither the one character nor the halves that no name can hold can be the name of a file. -/
theorem unusable?_eq_none (hnul : '\x00' ∉ p.toString.toList)
    (hstray : FileName.stray? p.toString.toList = none) : unusable? p = none := by
  simp [unusable?, FilePath.hasNul, String.contains_char_eq, hnul, hstray]

/-- A name that no file can have is refused before the file system is asked. -/
theorem ne_file_of_unusable? {f : AccessFault} (h : unusable? p = some f) (f' : FileFault) :
    f ≠ .file f' := by
  rw [unusable?] at h
  split at h
  · cases h
    exact nofun
  · split at h
    · cases h
      exact nofun
    · cases h

/-- **Storing that fails for another reason than the file system's** met such a name, and the other way round. -/
theorem Stores.noPlace_iff (hs : Stores files place p bytes r fs) :
    NoPlace files place p ↔ ∃ f, r = .error f ∧ ∀ f', f ≠ .file f' := by
  cases hs with
  | noDirectory hparent =>
    exact iff_of_true (.inl (by rw [hparent]; rfl)) ⟨_, rfl, ne_file_of_unusable? hparent⟩
  | notMade hparent hmade =>
    refine iff_of_false ?_ ?_
    · simp [NoPlace, hparent, hmade]
    · rintro ⟨_, ⟨⟩, hf⟩
      exact hf _ rfl
  | noFile hparent hmade hp =>
    exact iff_of_true (.inr ⟨by rw [hmade], by rw [hp]; rfl⟩) ⟨_, rfl, ne_file_of_unusable? hp⟩
  | notWritten hparent hmade hp hwrite =>
    refine iff_of_false ?_ ?_
    · simp [NoPlace, hparent, hp]
    · rintro ⟨_, ⟨⟩, hf⟩
      exact hf _ rfl
  | written hparent hmade hp hwrite =>
    refine iff_of_false ?_ ?_
    · simp [NoPlace, hparent, hp]
    · rintro ⟨_, ⟨⟩, -⟩

end Host

end Landscape
