import Landscape.Proofs.Host.Names
import Landscape.Proofs.Host.Places

/-!
# Directories and what is in them

A path that leads somewhere leads through directories: what is before its last name leads to one
(`Landscape.FileSystem.exists_directory_of_follow`). So a name in the directory of a path leads to a place in the
directory to which the path leads (`Landscape.FileSystem.exists_directory_of_leads_inside`).

Making a directory with all that lead to it is the same the second time. If it could be made, it is there
(`Landscape.FileSystem.exists_follow_of_ensureDirectory`) and nothing is left to be done. If it could not, it is refused
again and no more is made on the way (`Landscape.FileSystem.exists_ensureDirectory_of_fault`), though it may be refused
for another reason, since what was made on the way is there by then.
-/

namespace Landscape.FileSystem

variable {fs fs' : FileSystem} {here place q : List String} {p : FilePath} {name : String}

/-! ### The directory of a path -/

/-- Whatever its last name is, a path leads through the directory to which the names before it lead. -/
theorem exists_directory_of_followFrom_concat {init : List String} {e : Option Entry}
    (h : fs.followFrom place (init ++ [name]) = .ok (q, e)) :
    ∃ d, fs.followFrom place init = .ok (d, some .directory) := by
  induction init generalizing place with
  | nil => exact ⟨place, rfl⟩
  | cons first init ih =>
    obtain ⟨hlong, ⟨hup, h⟩ | ⟨hup, ⟨hdir, h⟩ | ⟨-, hrest, -⟩⟩⟩ := followFrom_cons_eq_ok.mp h
    · obtain ⟨d, hd⟩ := ih h
      exact ⟨d, followFrom_cons_eq_ok.mpr ⟨hlong, .inl ⟨hup, hd⟩⟩⟩
    · obtain ⟨d, hd⟩ := ih h
      exact ⟨d, followFrom_cons_eq_ok.mpr ⟨hlong, .inr ⟨hup, .inl ⟨hdir, hd⟩⟩⟩⟩
    · simp at hrest

/-- **The parent of a path that leads somewhere leads to a directory.** -/
theorem exists_directory_of_follow {e : Option Entry} (hparts : p.parts ≠ [])
    (h : fs.follow here p = .ok (q, e)) : ∃ d, fs.follow here p.parent = .ok (d, some .directory) := by
  obtain ⟨hlong, hfollow⟩ := follow_eq_ok.mp h
  obtain ⟨init, last, hp⟩ := (List.eq_nil_or_concat' p.parts).resolve_left hparts
  rw [hp] at hfollow
  obtain ⟨d, hd⟩ := exists_directory_of_followFrom_concat hfollow
  refine ⟨d, follow_eq_ok.mpr ⟨FilePath.parent_le_longestPath hlong, ?_⟩⟩
  show fs.followFrom (if p.isAbsolute then [] else here) p.parts.dropLast = _
  rw [hp, List.dropLast_concat, hd]

/-- A path that leads to a directory is followed further from there. -/
theorem followFrom_append {init : List String} {d : List String} (h : fs.followFrom place init = .ok (d, some .directory))
    (rest : List String) : fs.followFrom place (init ++ rest) = fs.followFrom d rest := by
  induction init generalizing place with
  | nil =>
    cases h
    rfl
  | cons first init ih =>
    obtain ⟨hlong, ⟨hup, h⟩ | ⟨hup, ⟨hdir, h⟩ | ⟨hdir, -, -, he⟩⟩⟩ := followFrom_cons_eq_ok.mp h
    · rw [List.cons_append, followFrom, if_neg (Nat.not_lt.mpr hlong), if_pos (by simpa using hup), ih h]
    · rw [List.cons_append, followFrom, if_neg (Nat.not_lt.mpr hlong), if_neg (by simpa using hup)]
      simp only [hdir]
      exact ih h
    · exact absurd he.symm hdir

/-- **Following a name in a directory**, if the name is no way up. -/
theorem follow_inside {d : List String} (hname : name ≠ "..") (h : fs.follow here p = .ok (d, some .directory)) :
    fs.follow here (p.inside name) =
      if longestPath < (p.inside name).byteLength ∨ longestName < (FileName.bytes name).length then
        .error ⟨.nameTooLong, (p.inside name).toString⟩
      else .ok (d ++ [name], fs.find? (d ++ [name])) := by
  have hfollow : fs.followFrom (if (p.inside name).isAbsolute then [] else here) (p.parts ++ [name]) =
      fs.followFrom d [name] := followFrom_append (follow_eq_ok.mp h).2 [name]
  rw [follow]
  by_cases hlong : longestPath < (p.inside name).byteLength
  · simp [hlong]
  · rw [FilePath.parts_inside, hfollow, followFrom]
    by_cases hlong' : longestName < (FileName.bytes name).length
    · simp [hlong, hlong', Except.mapError]
    · have hup : (name == "..") = false := by simpa using hname
      simp only [hlong, hlong', hup, or_self, if_false, Bool.false_eq_true]
      by_cases hdir : fs.find? (d ++ [name]) = some .directory
      · simp [hdir, followFrom, Except.mapError]
      · simp only [List.isEmpty_nil, if_true]
        rfl

/-- **A name in the directory of a path** leads to a place in the directory to which the path leads. -/
theorem exists_directory_of_leads_inside (hname : name ≠ "..") (h : fs.Leads here (p.inside name) q) :
    ∃ d, fs.follow here p = .ok (d, some .directory) ∧ q = d ++ [name] := by
  obtain ⟨e, he⟩ := h
  obtain ⟨hlong, hfollow⟩ := follow_eq_ok.mp he
  obtain ⟨d, hd, hq, -⟩ := exists_directory_of_followFrom hname hfollow
  have hparent := FilePath.parent_le_longestPath hlong
  rw [FilePath.parent_inside] at hparent
  exact ⟨d, follow_eq_ok.mpr ⟨hparent, hd⟩, hq⟩

/-! ### Making a directory again -/

theorem entry?_of_follow {e : Option Entry} (h : fs.follow here p = .ok (q, e)) : fs.entry? here p = .ok e := by
  rw [FileSystem.entry?, h]

/-- A path is taken for one to a directory if it is followed to a directory. -/
theorem matches_directory_iff : (fs.entry? here p matches .ok (some .directory)) = true ↔
    ∃ d, fs.follow here p = .ok (d, some .directory) := by
  rw [FileSystem.entry?]
  rcases fs.follow here p with f | ⟨d, _ | _ | bytes⟩
  · by_cases hlong : f.reason = .nameTooLong <;> simp [hlong]
  · simp
  · simp
  · simp

/-- What is answered for a directory that was refused: the refusal counts only if the directory is not there. -/
theorem unlessDirectory_eq {f : FileFault} {o : Option FileFault}
    (h : (fs, if fs.entry? here p matches .ok (some .directory) then none else some f) = (fs', o)) :
    fs = fs' ∧ ((∃ d, fs.follow here p = .ok (d, some .directory)) ∧ o = none ∨
      (¬∃ d, fs.follow here p = .ok (d, some .directory)) ∧ o = some f) := by
  obtain ⟨rfl, rfl⟩ := Prod.mk.inj h
  by_cases hdir : ∃ d, fs.follow here p = .ok (d, some .directory)
  · rw [if_pos (matches_directory_iff.mpr hdir)]
    exact ⟨rfl, .inl ⟨hdir, rfl⟩⟩
  · rw [if_neg fun hmatches => hdir (matches_directory_iff.mp hmatches)]
    exact ⟨rfl, .inr ⟨hdir, rfl⟩⟩

/-- A directory that is there is not made. -/
theorem makeDirectory_of_directory {d : List String} (h : fs.follow here p = .ok (d, some .directory)) :
    fs.makeDirectory here p = .error ⟨.exists, p.toString⟩ := by
  rw [makeDirectory, h]
  rfl

/-- A directory that was made is there. -/
theorem exists_follow_of_makeDirectory (h : fs.makeDirectory here p = .ok fs') :
    ∃ d, fs'.follow here p = .ok (d, some .directory) := by
  rw [makeDirectory] at h
  rcases hfollow : fs.follow here p with f | ⟨d, _ | e⟩
  · rw [hfollow] at h
    cases h
  · rw [hfollow] at h
    cases h
    obtain ⟨hlong, hfrom⟩ := follow_eq_ok.mp hfollow
    obtain ⟨hd, hnone⟩ := eq_find?_of_followFrom hfrom (by simp)
    have hkeep : fs.KeepsDirectories (fs.put d .directory) := keepsDirectories_put (by simp [← hnone]) _
    obtain ⟨e', hfrom', -, he'⟩ := followFrom_of_keepsDirectories hkeep hfrom
    refine ⟨d, follow_eq_ok.mpr ⟨hlong, ?_⟩⟩
    rw [hfrom', he' (by simp), find?_put_self hd]
  · rw [hfollow] at h
    cases h

/-- **Where a directory is, making it changes nothing.** -/
theorem makeDirectories_of_directory {d : List String} (h : fs.follow here p = .ok (d, some .directory))
    (fuel : Nat) : fs.makeDirectories here p fuel = (fs, none) := by
  cases fuel with
  | zero => rfl
  | succ fuel =>
    rw [makeDirectories, makeDirectory_of_directory h, entry?_of_follow h]
    rfl

/-- **A directory that could be made is there.** -/
theorem exists_follow_of_makeDirectories {fuel : Nat}
    (h : fs.makeDirectories here p (fuel + 1) = (fs', none)) : ∃ d, fs'.follow here p = .ok (d, some .directory) := by
  have hthere : ∀ {fs₁ : FileSystem} {f : FileFault},
      (fs₁, if fs₁.entry? here p matches .ok (some .directory) then none else some f) = (fs', none) →
        ∃ d, fs'.follow here p = .ok (d, some .directory) := by
    intro fs₁ f heq
    obtain ⟨rfl, ⟨hdir, -⟩ | ⟨-, hsome⟩⟩ := unlessDirectory_eq heq
    · exact hdir
    · cases hsome
  rw [makeDirectories] at h
  split at h
  · cases h
    exact exists_follow_of_makeDirectory ‹_›
  · split at h
    · split at h
      · cases h
      · split at h
        · cases h
        · split at h
          · cases h
            exact exists_follow_of_makeDirectory ‹_›
          · exact hthere h
    · exact hthere h

/-- **How making a directory fails**: at once, for want of anything above it, on the way to it, or after all that lead to
it were made. -/
inductive Refuses (fs : FileSystem) (here : List String) (p : FilePath) (fuel : Nat) :
    FileFault → FileSystem → Prop
  /-- It is refused for another reason than that something is missing. -/
  | atOnce {f : FileFault} (hmade : fs.makeDirectory here p = .error f) (hreason : f.reason ≠ .missing)
    (hnone : ¬∃ d, fs.follow here p = .ok (d, some .directory)) : Refuses fs here p fuel f fs
  /-- Something is missing, and there is nothing above it to be made. -/
  | atTop {f : FileFault} (hmade : fs.makeDirectory here p = .error f) (hreason : f.reason = .missing)
    (htop : p.parent = p) : Refuses fs here p fuel f fs
  /-- A directory that leads to it is refused. -/
  | onTheWay {f₀ f : FileFault} {fs' : FileSystem} (hmade : fs.makeDirectory here p = .error f₀)
    (hreason : f₀.reason = .missing) (hparent : p.parent ≠ p)
    (hway : fs.makeDirectories here p.parent fuel = (fs', some f)) : Refuses fs here p fuel f fs'
  /-- It is refused although all that lead to it are there. -/
  | atLast {f₀ f : FileFault} {fs' : FileSystem} (hmade : fs.makeDirectory here p = .error f₀)
    (hreason : f₀.reason = .missing) (hparent : p.parent ≠ p)
    (hway : fs.makeDirectories here p.parent fuel = (fs', none)) (hlast : fs'.makeDirectory here p = .error f)
    (hnone : ¬∃ d, fs'.follow here p = .ok (d, some .directory)) : Refuses fs here p fuel f fs'

theorem makeDirectories_eq_fault {fuel : Nat} {f : FileFault} :
    fs.makeDirectories here p (fuel + 1) = (fs', some f) ↔ Refuses fs here p fuel f fs' := by
  constructor
  · intro h
    rw [makeDirectories] at h
    split at h
    · cases h
    · rename_i f₀ hmade
      by_cases hreason : f₀.reason = .missing
      · rw [if_pos (by simp [hreason])] at h
        by_cases hparent : p.parent = p
        · rw [if_pos hparent] at h
          cases h
          exact .atTop hmade hreason hparent
        · rw [if_neg hparent] at h
          split at h
          · cases h
            exact .onTheWay hmade hreason hparent ‹_›
          · split at h
            · cases h
            · rename_i hway _ f₁ hlast
              obtain ⟨rfl, ⟨-, ⟨⟩⟩ | ⟨hnone, ⟨⟩⟩⟩ := unlessDirectory_eq h
              exact .atLast hmade hreason hparent hway hlast hnone
      · rw [if_neg (by simpa using hreason)] at h
        obtain ⟨rfl, ⟨-, ⟨⟩⟩ | ⟨hnone, ⟨⟩⟩⟩ := unlessDirectory_eq h
        exact .atOnce hmade hreason hnone
  · intro h
    rw [makeDirectories]
    rcases h with ⟨hmade, hreason, hnone⟩ | ⟨hmade, hreason, htop⟩ | ⟨hmade, hreason, hparent, hway⟩ |
      ⟨hmade, hreason, hparent, hway, hlast, hnone⟩
    · simp only [hmade]
      rw [if_neg (by simpa using hreason)]
      exact congrArg (Prod.mk fs) (if_neg fun h => hnone (matches_directory_iff.mp h))
    · simp only [hmade]
      rw [if_pos (by simpa using hreason), if_pos htop]
    · simp only [hmade]
      rw [if_pos (by simpa using hreason), if_neg hparent, hway]
    · simp only [hmade]
      rw [if_pos (by simpa using hreason), if_neg hparent, hway]
      simp only [hlast]
      exact congrArg (Prod.mk fs') (if_neg fun h => hnone (matches_directory_iff.mp h))

/-- A path whose parent cannot be had as a directory leads nowhere. -/
theorem not_follows_of_parent_refused {fuel : Nat} {f : FileFault} (h : p.parent ≠ p)
    (hway : fs.makeDirectories here p.parent fuel = (fs', some f)) : ¬∃ d e, fs.follow here p = .ok (d, e) := by
  rintro ⟨d, e, hfollow⟩
  obtain ⟨d', hd'⟩ := exists_directory_of_follow (fun hnil => h (FilePath.parent_of_nil hnil)) hfollow
  rw [makeDirectories_of_directory hd'] at hway
  cases hway

/-- **A directory that could not be made cannot be made again**, and nothing more is made on the way to it. -/
theorem exists_makeDirectories_of_fault {fuel : Nat} (hfuel : p.parts.length < fuel) {f : FileFault}
    (h : fs.makeDirectories here p fuel = (fs', some f)) :
    ∃ f', fs'.makeDirectories here p fuel = (fs', some f') := by
  induction fuel generalizing p fs fs' f with
  | zero => cases h
  | succ fuel ih =>
    have hshorter : p.parent ≠ p → p.parent.parts.length < fuel := by
      intro hparent
      have hless := FilePath.length_parent_lt hparent
      omega
    rcases makeDirectories_eq_fault.mp h with ⟨hmade, hreason, hnone⟩ | ⟨hmade, hreason, htop⟩ |
      ⟨hmade, hreason, hparent, hway⟩ | ⟨hmade, hreason, hparent, hway, hlast, hnone⟩
    · exact ⟨f, h⟩
    · exact ⟨f, h⟩
    · obtain ⟨f₁, hway'⟩ := ih (hshorter hparent) hway
      have hnowhere := not_follows_of_parent_refused hparent hway'
      rcases hfollow : fs'.follow here p with f₂ | ⟨d, e⟩
      · have hmade' : fs'.makeDirectory here p = .error f₂ := by
          rw [makeDirectory, hfollow]
          rfl
        have hnone : ¬∃ d, fs'.follow here p = .ok (d, some .directory) := by
          rintro ⟨d, hd⟩
          exact hnowhere ⟨d, _, hd⟩
        by_cases hreason' : f₂.reason = .missing
        · exact ⟨f₁, makeDirectories_eq_fault.mpr (.onTheWay hmade' hreason' hparent hway')⟩
        · exact ⟨f₂, makeDirectories_eq_fault.mpr (.atOnce hmade' hreason' hnone)⟩
      · exact absurd ⟨d, e, hfollow⟩ hnowhere
    · obtain ⟨fuel, rfl⟩ : ∃ n, fuel = n + 1 := Nat.exists_eq_succ_of_ne_zero (by have := hshorter hparent; omega)
      obtain ⟨d, hd⟩ := exists_follow_of_makeDirectories hway
      have hway' := makeDirectories_of_directory hd (fuel + 1)
      by_cases hreason' : f.reason = .missing
      · exact ⟨f, makeDirectories_eq_fault.mpr (.atLast hlast hreason' hparent hway' hlast hnone)⟩
      · exact ⟨f, makeDirectories_eq_fault.mpr (.atOnce hlast hreason' hnone)⟩

/-! ### Making sure that a directory is there -/

/-- **After a directory was made sure of**, it is there, and making sure of it again changes nothing. -/
theorem exists_follow_of_ensureDirectory (h : fs.ensureDirectory here p = (fs', none)) :
    ∃ d, fs'.follow here p = .ok (d, some .directory) :=
  exists_follow_of_makeDirectories h

theorem ensureDirectory_of_directory {d : List String} (h : fs.follow here p = .ok (d, some .directory)) :
    fs.ensureDirectory here p = (fs, none) :=
  makeDirectories_of_directory h _

/-- **If it was refused**, it is refused again, and nothing more is made. -/
theorem exists_ensureDirectory_of_fault {f : FileFault} (h : fs.ensureDirectory here p = (fs', some f)) :
    ∃ f', fs'.ensureDirectory here p = (fs', some f') :=
  exists_makeDirectories_of_fault (by omega) h

end Landscape.FileSystem
