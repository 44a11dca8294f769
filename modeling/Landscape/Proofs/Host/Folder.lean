import Landscape.Proofs.Host.Directories
import Landscape.Proofs.Host.Storing
import Mathlib.Logic.Function.Basic

/-!
# Storing files in one directory

Whoever stores several files in one directory makes sure of the directory each time. What becomes of a file is then a
matter of the directory and of the name of the file, and not of what is to be in it
(`Landscape.FileSystem.refusal`): the directory cannot be had, the name is too long, or there is a directory of that name.

After the first file, nothing is left to be done for the directory, and whether a file can be stored does not depend on
which files were stored before (`Landscape.FileSystem.After`). Only the first file may be refused with other words than
those after it, since directories were made on its way.
-/

namespace Landscape

namespace FileSystem

variable {fs fs' fs'' : FileSystem} {here : List String} {p : FilePath} {name : String} {d : List String}

/-! ### Refusals -/

/-- The files after everything was done to have a directory. -/
def settled (fs : FileSystem) (here : List String) (p : FilePath) : FileSystem :=
  (fs.ensureDirectory here p).1

/-- **How storing a file in a directory is refused**, if it is. -/
def refusal (fs : FileSystem) (here : List String) (p : FilePath) (name : String) : Option FileFault :=
  match fs.ensureDirectory here p with
  | (_, some f) => some f
  | (fs', none) =>
    match fs'.write here (p.inside name) [] with
    | .error f => some f
    | .ok _ => none

/-- The place of a file in a directory. -/
def placeIn (fs : FileSystem) (here : List String) (p : FilePath) (name : String) : List String :=
  match fs.follow here p with
  | .ok (d, _) => d ++ [name]
  | .error _ => [name]

theorem placeIn_eq {e : Option Entry} (h : fs.follow here p = .ok (d, e)) (name : String) :
    fs.placeIn here p name = d ++ [name] := by
  rw [placeIn, h]

/-- Different names have different places. -/
theorem placeIn_inj {name' : String} (h : fs.placeIn here p name = fs.placeIn here p name') : name = name' := by
  rw [placeIn, placeIn] at h
  split at h
  · exact List.singleton_inj.mp (List.append_cancel_left h)
  · exact List.singleton_inj.mp h

theorem refusal_of_fault {f : FileFault} (h : fs.ensureDirectory here p = (fs', some f)) :
    fs.refusal here p name = some f := by
  rw [refusal, h]

/-- In a directory that is there, a file is refused for its name or for a directory in its place. -/
theorem refusal_of_directory (hname : name ≠ "..") (h : fs.follow here p = .ok (d, some .directory)) :
    fs.refusal here p name =
      if longestPath < (p.inside name).byteLength ∨ longestName < (FileName.bytes name).length then
        some ⟨.nameTooLong, (p.inside name).toString⟩
      else if fs.find? (d ++ [name]) = some .directory then some ⟨.isDirectory, (p.inside name).toString⟩
      else none := by
  rw [refusal, ensureDirectory_of_directory h]
  dsimp only
  rw [write, follow_inside hname h]
  by_cases hlong : longestPath < (p.inside name).byteLength ∨ longestName < (FileName.bytes name).length
  · rw [if_pos hlong, if_pos hlong]
    rfl
  · rw [if_neg hlong, if_neg hlong]
    rcases fs.find? (d ++ [name]) with _ | _ | bytes
    · rfl
    · rfl
    · rfl

/-- Where a file is not refused, no directory is in its place. -/
theorem find?_ne_directory_of_refusal (hname : name ≠ "..") (h : fs.follow here p = .ok (d, some .directory))
    (hrefusal : fs.refusal here p name = none) : fs.find? (d ++ [name]) ≠ some .directory := by
  rw [refusal_of_directory hname h] at hrefusal
  intro hdir
  simp only [hdir, if_true] at hrefusal
  split at hrefusal <;> cases hrefusal

/-- **Writing a file in a directory that is there** does what the refusals say. -/
theorem write_of_directory (hname : name ≠ "..") (h : fs.follow here p = .ok (d, some .directory))
    (bytes : List UInt8) : fs.write here (p.inside name) bytes =
      match fs.refusal here p name with
      | some f => .error f
      | none => .ok (fs.put (d ++ [name]) (.file bytes)) := by
  rw [refusal_of_directory hname h, write, follow_inside hname h]
  by_cases hlong : longestPath < (p.inside name).byteLength ∨ longestName < (FileName.bytes name).length
  · rw [if_pos hlong, if_pos hlong]
    rfl
  · rw [if_neg hlong, if_neg hlong]
    rcases fs.find? (d ++ [name]) with _ | _ | bytes
    · rfl
    · rfl
    · rfl

/-! ### Once everything is done -/

/-- **Nothing is done twice** to have a directory. -/
theorem settled_settled : (fs.settled here p).settled here p = fs.settled here p := by
  rcases hmade : fs.ensureDirectory here p with ⟨fs₁, _ | f⟩
  · obtain ⟨d, hd⟩ := exists_follow_of_ensureDirectory hmade
    rw [settled, settled, hmade, ensureDirectory_of_directory hd]
  · obtain ⟨f', hagain⟩ := exists_ensureDirectory_of_fault hmade
    rw [settled, settled, hmade, hagain]

/-- If a directory can be had, refusals are the same before and after that. -/
theorem refusal_settled_of_none (h : (fs.ensureDirectory here p).2 = none) (name : String) :
    (fs.settled here p).refusal here p name = fs.refusal here p name := by
  rcases hmade : fs.ensureDirectory here p with ⟨fs₁, _ | f⟩
  · obtain ⟨d, hd⟩ := exists_follow_of_ensureDirectory hmade
    rw [settled, refusal, refusal, hmade, ensureDirectory_of_directory hd]
  · rw [hmade] at h
    cases h

/-- Whether a file is refused does not depend on whether everything was done to have the directory. -/
theorem isSome_refusal_settled (name : String) :
    ((fs.settled here p).refusal here p name).isSome = (fs.refusal here p name).isSome := by
  rcases hmade : fs.ensureDirectory here p with ⟨fs₁, _ | f⟩
  · rw [refusal_settled_of_none (by rw [hmade])]
  · obtain ⟨f', hagain⟩ := exists_ensureDirectory_of_fault hmade
    rw [settled, hmade, refusal_of_fault hagain, refusal_of_fault hmade]
    rfl

/-- A file that is not refused has its directory. -/
theorem exists_follow_of_refusal (h : fs.refusal here p name = none) :
    ∃ d, (fs.settled here p).follow here p = .ok (d, some .directory) ∧
      fs.ensureDirectory here p = (fs.settled here p, none) := by
  rcases hmade : fs.ensureDirectory here p with ⟨fs₁, _ | f⟩
  · obtain ⟨d, hd⟩ := exists_follow_of_ensureDirectory hmade
    rw [settled, hmade]
    exact ⟨d, hd, rfl⟩
  · rw [refusal_of_fault hmade] at h
    cases h

/-- Files `fs'` **come after** `fs` as far as a directory is concerned: everything was done to have it, files are refused in
it as they are once everything was done, and it is where it was. -/
structure After (here : List String) (p : FilePath) (fs fs' : FileSystem) : Prop where
  settled : fs'.settled here p = fs'
  refusal : ∀ name, name ≠ ".." → fs'.refusal here p name = (fs.settled here p).refusal here p name
  directory : ∀ d, (fs.settled here p).follow here p = .ok (d, some .directory) →
    fs'.follow here p = .ok (d, some .directory)

namespace After

theorem of_settled (here : List String) (p : FilePath) (fs : FileSystem) : After here p fs (fs.settled here p) :=
  ⟨settled_settled, fun _ _ => rfl, fun _ hd => hd⟩

/-- **What comes after something later** comes after what was before. -/
theorem trans (h : After here p fs (fs'.settled here p)) (h' : After here p fs' fs'') : After here p fs fs'' :=
  ⟨h'.settled, fun name hname => (h'.refusal name hname).trans (h.refusal name hname),
    fun d hd => h'.directory d (h.directory d hd)⟩

/-- If the directory can be had, files have the same places afterwards. -/
theorem placeIn_eq (h : After here p fs fs') (hd : (fs.settled here p).follow here p = .ok (d, some .directory))
    (name : String) : fs'.placeIn here p name = (fs.settled here p).placeIn here p name := by
  rw [FileSystem.placeIn_eq hd, FileSystem.placeIn_eq (h.directory d hd)]

/-- **Storing a file** in a directory that is there changes nothing of that. -/
theorem put (hd : fs.follow here p = .ok (d, some .directory))
    (hfree : fs.find? (d ++ [name]) ≠ some .directory) (bytes : List UInt8) :
    After here p fs (fs.put (d ++ [name]) (.file bytes)) := by
  have hsettled : fs.settled here p = fs := by rw [FileSystem.settled, ensureDirectory_of_directory hd]
  have hplace : d ++ [name] ≠ [] := by simp
  have hd' : (fs.put (d ++ [name]) (.file bytes)).follow here p = .ok (d, some .directory) := by
    obtain ⟨hlong, hfollow⟩ := follow_eq_ok.mp hd
    obtain ⟨e, hfollow', hdir, -⟩ := followFrom_of_keepsDirectories (keepsDirectories_put hfree (.file bytes)) hfollow
    exact follow_eq_ok.mpr ⟨hlong, by rw [hfollow', hdir rfl]⟩
  refine ⟨by rw [FileSystem.settled, ensureDirectory_of_directory hd'], fun name' hname' => ?_, fun d' h => ?_⟩
  · have hsame : (fs.put (d ++ [name]) (.file bytes)).find? (d ++ [name']) = some .directory ↔
        fs.find? (d ++ [name']) = some .directory := by
      by_cases hne : d ++ [name'] = d ++ [name]
      · rw [hne, find?_put_self hplace]
        exact iff_of_false nofun hfree
      · rw [find?_put_of_ne hne]
    rw [hsettled, refusal_of_directory hname' hd', refusal_of_directory hname' hd]
    simp only [hsame]
  · rw [hsettled, hd] at h
    obtain ⟨rfl, -⟩ := Prod.mk.inj (Except.ok.inj h)
    exact hd'

end After

/-! ### What storing does -/

/-- The tree with some files stored in it. -/
def withFiles (tree : List String → Option Entry) (files : List (List String × List UInt8)) :
    List String → Option Entry :=
  files.foldl (fun tree x => Function.update tree x.1 (some (.file x.2))) tree

theorem withFiles_append (tree : List String → Option Entry) (files files' : List (List String × List UInt8)) :
    withFiles tree (files ++ files') = withFiles (withFiles tree files) files' :=
  List.foldl_append

/-- **The order in which files are stored does not matter**, if no two of them are in one place. -/
theorem withFiles_perm {tree : List String → Option Entry} {files files' : List (List String × List UInt8)}
    (hperm : files.Perm files') (hplaces : ∀ x ∈ files, ∀ y ∈ files, x.1 = y.1 → x = y) :
    withFiles tree files = withFiles tree files' := by
  refine hperm.foldl_eq' (fun x hx y hy tree => ?_) tree
  by_cases hxy : x.1 = y.1
  · rw [hplaces x hx y hy hxy]
  · exact Function.update_comm hxy _ _ _

theorem find?_put_eq_withFiles {place : List String} (hplace : place ≠ []) (bytes : List UInt8) :
    (fs.put place (.file bytes)).find? = withFiles fs.find? [(place, bytes)] := by
  funext q
  show _ = Function.update fs.find? place (some (.file bytes)) q
  by_cases hq : q = place
  · subst hq
    rw [find?_put_self hplace, Function.update_self]
  · rw [find?_put_of_ne hq, Function.update_of_ne hq]

end FileSystem

namespace Host

open FileSystem

variable {files fs : FileSystem} {here : List String} {p : FilePath} {name : String} {bytes : List UInt8}
  {r : Except AccessFault Unit}

/-- **Storing a file in a directory** ends as the refusals say, unless a name is met that no file can have. -/
theorem Stores.eq_of_refusal (h : Stores files here (p.inside name) bytes r fs) (hname : name ≠ "..")
    (hplace : ¬NoPlace files here (p.inside name)) :
    After here p files fs ∧ match files.refusal here p name with
      | some f => r = .error (.file f) ∧ fs.find? = (files.settled here p).find?
      | none => r = .ok () ∧ fs.find? = withFiles (files.settled here p).find?
          [((files.settled here p).placeIn here p name, bytes)] := by
  rcases h with hparent | ⟨-, hmade⟩ | ⟨-, hmade, hp⟩ | ⟨-, hmade, -, hwrite⟩ | ⟨-, hmade, -, hwrite⟩
  · exact absurd (.inl (by rw [hparent]; rfl)) hplace
  · rw [FilePath.parent_inside] at hmade
    obtain rfl : files.settled here p = fs := by rw [settled, hmade]
    rw [refusal_of_fault hmade]
    exact ⟨.of_settled here p files, rfl, rfl⟩
  · exact absurd (.inr ⟨by rw [hmade], by rw [hp]; rfl⟩) hplace
  · -- the directory is there, and the file is refused
    rw [FilePath.parent_inside] at hmade
    obtain ⟨d, hd⟩ := exists_follow_of_ensureDirectory hmade
    obtain rfl : files.settled here p = fs := by rw [settled, hmade]
    rw [write_of_directory hname hd, refusal_settled_of_none (by rw [hmade])] at hwrite
    rcases hrefusal : files.refusal here p name with _ | f
    · rw [hrefusal] at hwrite
      cases hwrite
    · rw [hrefusal] at hwrite
      cases hwrite
      exact ⟨.of_settled here p files, rfl, rfl⟩
  · -- the directory is there, and the file is stored
    rename_i fs₁
    rw [FilePath.parent_inside] at hmade
    obtain ⟨d, hd⟩ := exists_follow_of_ensureDirectory hmade
    obtain rfl : files.settled here p = fs₁ := by rw [settled, hmade]
    have hsame : (files.settled here p).refusal here p name = files.refusal here p name :=
      refusal_settled_of_none (by rw [hmade]) name
    rw [write_of_directory hname hd, hsame] at hwrite
    rcases hrefusal : files.refusal here p name with _ | f
    · rw [hrefusal] at hwrite
      cases hwrite
      have hfree := find?_ne_directory_of_refusal hname hd (hsame.trans hrefusal)
      have hafter : After here p files ((files.settled here p).settled here p) := by
        rw [settled_settled]
        exact .of_settled here p files
      refine ⟨hafter.trans (.put hd hfree bytes), rfl, ?_⟩
      rw [placeIn_eq hd, find?_put_eq_withFiles (by simp)]
    · rw [hrefusal] at hwrite
      cases hwrite

end Host

end Landscape
