import Landscape.Proofs.Host.Names
import Landscape.Proofs.Host.Places

/-!
# Paths that lead apart

Two paths lead apart if their last names differ and neither of these is a way up (`Landscape.FilePath.Apart`). Then
there is no place to which both lead, whatever there is on the way (`Landscape.FilePath.Apart.not_leads`).

A text with two endings gives such paths, seen from any path and whatever the text holds
(`Landscape.FilePath.apart_child`): slashes in the text make names of directories, and the endings stay with the last
name.
-/

namespace Landscape

namespace FilePath

variable {fs : FileSystem} {here q : List String} {p p' : FilePath}

/-- Two paths **lead apart**: their last names differ, and neither of these is a way up. -/
def Apart (p p' : FilePath) : Prop :=
  ∃ init name init' name', p.parts = init ++ [name] ∧ p'.parts = init' ++ [name'] ∧
    name ≠ ".." ∧ name' ≠ ".." ∧ name ≠ name'

/-- Two names give paths that lead apart, in whatever directories they are. -/
theorem apart_inside {name name' : String} (hname : name ≠ "..") (hname' : name' ≠ "..") (hne : name ≠ name') :
    (p.inside name).Apart (p'.inside name') :=
  ⟨p.parts, name, p'.parts, name', rfl, rfl, hname, hname', hne⟩

/-- What ends with three characters is no way up. -/
theorem append_ne_up (s : String) {ending : String} (hlong : 3 ≤ ending.toList.length) : s ++ ending ≠ ".." := by
  intro hup
  have hlength := congrArg (fun s => s.toList.length) hup
  simp only [String.toList_append, List.length_append] at hlength
  have : "..".toList.length = 2 := rfl
  omega

/-- **One text with two endings** gives paths that lead apart. -/
theorem apart_child (p : FilePath) (s : String) {ending ending' : String} (hmark : '/' ∉ ending.toList)
    (hmark' : '/' ∉ ending'.toList) (hlong : 3 ≤ ending.toList.length) (hlong' : 3 ≤ ending'.toList.length)
    (hne : ending ≠ ending') : Apart (p.child (s ++ ending)) (p.child (s ++ ending')) := by
  rw [child_append p s hmark (by omega), child_append p s hmark' (by omega)]
  refine apart_inside (append_ne_up _ hlong) (append_ne_up _ hlong') fun heq => hne ?_
  exact String.toList_inj.mp (by simpa using congrArg String.toList heq)

theorem Apart.symm (h : Apart p p') : Apart p' p := by
  obtain ⟨init, name, init', name', hp, hp', hname, hname', hne⟩ := h
  exact ⟨init', name', init, name, hp', hp, hname', hname, hne.symm⟩

/-- **Where one of the two leads, the other does not.** -/
theorem Apart.not_leads (h : Apart p p') (hp : fs.Leads here p q) : ¬fs.Leads here p' q := by
  obtain ⟨init, name, init', name', hparts, hparts', hname, hname', hne⟩ := h
  obtain ⟨e, he⟩ := hp
  rintro ⟨e', he'⟩
  have hfollow := (FileSystem.follow_eq_ok.mp he).2
  have hfollow' := (FileSystem.follow_eq_ok.mp he').2
  rw [hparts] at hfollow
  rw [hparts'] at hfollow'
  obtain ⟨d, -, rfl, -⟩ := FileSystem.exists_directory_of_followFrom hname hfollow
  obtain ⟨d', -, heq, -⟩ := FileSystem.exists_directory_of_followFrom hname' hfollow'
  exact hne (by simpa using (List.append_inj' heq rfl).2)

/-- The file that one of the two leads to is the one at its place. -/
theorem Apart.fileOf?_eq (h : Apart p p') (hp : fs.Leads here p q) : fs.fileOf? here p = fs.file? q := by
  obtain ⟨init, name, _, _, hparts, -, hname, -⟩ := h
  exact FileSystem.fileOf?_of_leads hparts hname hp

end FilePath

end Landscape
