import Landscape.Host.FileSystem
import Mathlib.Data.List.Basic

/-!
# Paths and their texts

A text that is seen from a path may hold slashes. What is before the last of them names a directory
(`Landscape.FilePath.folder`), and what is after it a name in this directory (`Landscape.FilePath.lastName`); an ending
without slashes stays with the name (`Landscape.FilePath.child_append`). So all texts that differ in their endings alone
give names in one directory, and this is the directory they are seen from if and only if the text before the endings
holds no slash (`Landscape.FilePath.child_eq_inside_iff`).

The other way round, the text of a path gives the path again, if no part of it is one that reading drops or divides
(`Landscape.FilePath.ofString_toString`).
-/

namespace Landscape

/-! ### Splitting -/

/-- Before an ending without the mark at which a text is split, the text is split as if it stood alone, and the ending
stays with its last part. -/
theorem exists_splitOn_append {α : Type} [DecidableEq α] (mark : α) (cs : List α) :
    ∃ init last, mark ∉ last ∧ (mark ∉ cs → init = [] ∧ last = cs) ∧
      ∀ ending, mark ∉ ending → (cs ++ ending).splitOn mark = init ++ [last ++ ending] := by
  by_cases hmem : mark ∈ cs
  · -- the last mark is the first one from behind
    obtain ⟨bs, as, hreverse, hlast⟩ := List.eq_append_cons_of_mem (List.mem_reverse.mpr hmem)
    have hcs : cs = as.reverse ++ mark :: bs.reverse := by
      rw [← List.reverse_reverse cs, hreverse]
      simp
    refine ⟨as.reverse.splitOn mark, bs.reverse, by simpa using hlast, fun h => absurd hmem h, ?_⟩
    intro ending hending
    have hsingle : mark ∉ bs.reverse ++ ending := by simpa using ⟨hlast, hending⟩
    rw [hcs, List.append_assoc, List.cons_append, List.splitOn_append_cons_self, List.splitOn_eq_singleton hsingle]
  · refine ⟨[], cs, hmem, fun _ => ⟨rfl, rfl⟩, fun ending hending => ?_⟩
    exact List.splitOn_eq_singleton fun h => (List.mem_append.mp h).elim hmem hending

/-- No part of a split text holds the mark. -/
theorem not_mem_of_mem_splitOn {α : Type} [DecidableEq α] {mark : α} {cs piece : List α}
    (h : piece ∈ cs.splitOn mark) : mark ∉ piece := by
  induction cs generalizing piece with
  | nil =>
    rw [List.splitOn_nil] at h
    rw [List.mem_singleton.mp h]
    exact List.not_mem_nil
  | cons c cs ih =>
    rw [List.splitOn_cons_eq_if_modifyHead] at h
    by_cases hc : (c == mark) = true
    · rw [if_pos hc] at h
      obtain rfl | h := List.mem_cons.mp h
      · exact List.not_mem_nil
      · exact ih h
    · rw [if_neg hc] at h
      obtain ⟨first, rest, hsplit⟩ := List.exists_cons_of_ne_nil (List.splitOn_ne_nil mark cs)
      rw [hsplit] at h ih
      obtain rfl | h := List.mem_cons.mp h
      · intro hmem
        obtain rfl | hmem := List.mem_cons.mp hmem
        · exact hc (beq_self_eq_true _)
        · exact ih List.mem_cons_self hmem
      · exact ih (List.mem_cons_of_mem _ h)

namespace FilePath

variable {p : FilePath} {s name ending : String}

/-! ### Directories and names -/

/-- The parts that a text has for a path, by its pieces between slashes. -/
def partsOf (pieces : List (List Char)) : List String :=
  (pieces.filter fun p => !p.isEmpty && p != ['.']).map String.ofList

/-- What a text says after its last slash. -/
def lastName (s : String) : String :=
  String.ofList ((s.toList.splitOn '/').getLast?.getD [])

/-- The directory that a text names before its last slash. -/
def folder (s : String) : FilePath :=
  { root := .of s.toList, parts := partsOf (s.toList.splitOn '/').dropLast }

/-- The path of a name in the directory of a path. -/
def inside (p : FilePath) (name : String) : FilePath :=
  { p with parts := p.parts ++ [name] }

@[simp] theorem parts_inside : (p.inside name).parts = p.parts ++ [name] :=
  rfl

@[simp] theorem parent_inside : (p.inside name).parent = p := by
  rw [parent, parts_inside, List.dropLast_concat, inside]

/-- A path without names is its own parent. -/
theorem parent_of_nil (h : p.parts = []) : p.parent = p := by
  rw [parent, h, List.dropLast_nil, ← h]

/-- The parent of a path is shorter, if it is another. -/
theorem length_parent_lt (h : p.parent ≠ p) : p.parent.parts.length < p.parts.length := by
  have hlength : p.parent.parts.length = p.parts.length - 1 := List.length_dropLast
  have hpos : 0 < p.parts.length := List.length_pos_iff.mpr fun hnil => h (parent_of_nil hnil)
  omega

theorem inside_inj {p' : FilePath} {name' : String} :
    p.inside name = p'.inside name' ↔ p = p' ∧ name = name' := by
  constructor
  · intro h
    have hroot : p.root = p'.root := congrArg (fun q => q.root) h
    have hparts : p.parts ++ [name] = p'.parts ++ [name'] := congrArg (fun q => q.parts) h
    obtain ⟨hinit, hlast⟩ := List.append_inj' hparts rfl
    refine ⟨?_, List.singleton_inj.mp hlast⟩
    cases p
    cases p'
    simp_all
  · rintro ⟨rfl, rfl⟩
    rfl

/-- An ending without slashes does not change the root of a text. -/
theorem rootOf_append {cs ending : List Char} (hmark : '/' ∉ ending) : Root.of (cs ++ ending) = Root.of cs := by
  cases ending with
  | nil => rw [List.append_nil]
  | cons x ending =>
    have hx : x ≠ '/' := (List.ne_of_not_mem_cons hmark).symm
    -- a root is three slashes at most
    rcases cs with _ | ⟨a, _ | ⟨b, _ | ⟨c, cs⟩⟩⟩
    · simp [Root.of, hx]
    · by_cases ha : a = '/' <;> simp [Root.of, ha, hx]
    · by_cases ha : a = '/' <;> by_cases hb : b = '/' <;> simp [Root.of, ha, hb, hx]
    · by_cases ha : a = '/' <;> by_cases hb : b = '/' <;> by_cases hc : c = '/' <;> simp [Root.of, ha, hb, hc]

/-- A slash and a name behind a text do not change its root, unless it is nothing but one. -/
theorem rootOf_append_slash {cs : List Char} (hempty : cs ≠ []) (hsingle : cs ≠ ['/']) (hdouble : cs ≠ ['/', '/'])
    (ds : List Char) : Root.of (cs ++ '/' :: ds) = Root.of cs := by
  rcases cs with _ | ⟨a, _ | ⟨b, _ | ⟨c, cs⟩⟩⟩
  · exact absurd rfl hempty
  · have ha : a ≠ '/' := fun h => hsingle (h ▸ rfl)
    simp [Root.of, ha]
  · by_cases ha : a = '/'
    · subst ha
      have hb : b ≠ '/' := fun h => hdouble (h ▸ rfl)
      simp [Root.of, hb]
    · simp [Root.of, ha]
  · by_cases ha : a = '/' <;> by_cases hb : b = '/' <;> by_cases hc : c = '/' <;> simp [Root.of, ha, hb, hc]

/-- **A text seen from a directory** is what is read of the two with a slash between them, unless the directory is a
bare root or nothing, or the text begins at a root itself. -/
theorem ofString_append_slash {directory : String} (hempty : directory ≠ "") (hsingle : directory ≠ "/")
    (hdouble : directory ≠ "//") (hrelative : s.toList.head? ≠ some '/') :
    ofString (directory ++ "/" ++ s) = (ofString directory).child s := by
  have hroot : Root.of (directory.toList ++ '/' :: s.toList) = Root.of directory.toList :=
    rootOf_append_slash (mt String.toList_eq_nil_iff.mp hempty) (fun h => hsingle (String.toList_inj.mp h))
      (fun h => hdouble (String.toList_inj.mp h)) _
  have hnone : (ofString s).isAbsolute = false := by
    rcases hs : s.toList with _ | ⟨c, cs⟩
    · simp [ofString, isAbsolute, hs, Root.of]
    · have hc : c ≠ '/' := fun h => hrelative (by rw [hs, h, List.head?_cons])
      simp [ofString, isAbsolute, hs, Root.of, hc]
  have htext : (directory ++ "/" ++ s).toList = directory.toList ++ '/' :: s.toList := by simp
  rw [child, join, hnone, ofString, htext, hroot, List.splitOn_append_cons_self]
  simp [ofString]

/-- A text without slashes has no root. -/
theorem rootOf_eq_none {cs : List Char} (hmark : '/' ∉ cs) : Root.of cs = .none :=
  @rootOf_append [] cs hmark

/-- The pieces of a text before an ending, with the directory and the name that they give. -/
theorem exists_pieces (s : String) : ∃ init, (folder s).parts = partsOf init ∧ '/' ∉ (lastName s).toList ∧
    ('/' ∉ s.toList → init = [] ∧ lastName s = s) ∧
    ∀ ending, '/' ∉ ending → (s.toList ++ ending).splitOn '/' = init ++ [(lastName s).toList ++ ending] := by
  obtain ⟨init, last, hlast, hnone, hsplit⟩ := exists_splitOn_append '/' s.toList
  have hpieces : s.toList.splitOn '/' = init ++ [last] := by
    have h := hsplit [] List.not_mem_nil
    rwa [List.append_nil, List.append_nil] at h
  have hname : lastName s = String.ofList last := by
    rw [lastName, hpieces, List.getLast?_concat, Option.getD_some]
  refine ⟨init, ?_, ?_, fun hmark => ?_, ?_⟩
  · show partsOf _ = _
    rw [hpieces, List.dropLast_concat]
  · rwa [hname, String.toList_ofList]
  · obtain ⟨hinit, hcs⟩ := hnone hmark
    exact ⟨hinit, by rw [hname, hcs, String.ofList_toList]⟩
  · rw [hname, String.toList_ofList]
    exact hsplit

theorem not_mem_lastName (s : String) : '/' ∉ (lastName s).toList := by
  obtain ⟨_, -, hlast, -⟩ := exists_pieces s
  exact hlast

/-- A text is its own last name if it holds no slash. -/
theorem lastName_eq_self_iff : lastName s = s ↔ '/' ∉ s.toList := by
  refine ⟨fun h => h ▸ not_mem_lastName s, fun hmark => ?_⟩
  obtain ⟨_, -, -, hnone, -⟩ := exists_pieces s
  exact (hnone hmark).2

/-- A text without slashes names no directory but the one from which it is seen. -/
theorem join_folder_of_not_mem (p : FilePath) (hmark : '/' ∉ s.toList) : p.join (folder s) = p := by
  obtain ⟨init, hparts, -, hnone, -⟩ := exists_pieces s
  have hroot : (folder s).root = .none := rootOf_eq_none hmark
  obtain rfl := (hnone hmark).1
  have habsolute : (folder s).isAbsolute = false := by rw [isAbsolute, hroot]; rfl
  rw [join, habsolute, hparts]
  simp [partsOf]

/-- **A text with an ending names a file in the directory of the text.** -/
theorem child_append (p : FilePath) (s : String) (hmark : '/' ∉ ending.toList) (hlong : 2 ≤ ending.toList.length) :
    p.child (s ++ ending) = (p.join (folder s)).inside (lastName s ++ ending) := by
  obtain ⟨init, hparts, -, -, hsplit⟩ := exists_pieces s
  have hlast : [(lastName s).toList ++ ending.toList].filter (fun p => !p.isEmpty && p != ['.']) =
      [(lastName s).toList ++ ending.toList] := by
    rw [List.filter_eq_self]
    intro cs hcs
    obtain rfl := List.mem_singleton.mp hcs
    have hlength : ((lastName s).toList ++ ending.toList).length =
        (lastName s).toList.length + ending.toList.length := List.length_append
    have hempty : (lastName s).toList ++ ending.toList ≠ [] := fun h => by
      rw [h, List.length_nil] at hlength
      omega
    have hdot : (lastName s).toList ++ ending.toList ≠ ['.'] := fun h => by
      rw [h, List.length_singleton] at hlength
      omega
    simp [hempty, hdot]
  have hread : ofString (s ++ ending) = (folder s).inside (lastName s ++ ending) := by
    rw [ofString, String.toList_append, hsplit ending.toList hmark, rootOf_append hmark, List.filter_append, hlast,
      List.map_append, List.map_singleton, String.ofList_append, String.ofList_toList, String.ofList_toList, inside,
      hparts]
    rfl
  rw [child, hread, join, join]
  show (if (folder s).isAbsolute then _ else _) = _
  by_cases habsolute : (folder s).isAbsolute = true
  · rw [if_pos habsolute, if_pos habsolute]
  · rw [if_neg habsolute, if_neg habsolute, parts_inside, inside, List.append_assoc]

/-- **It names a file in the directory from which it is seen**, if and only if the text before the ending holds no
slash. -/
theorem child_eq_inside_iff (hmark : '/' ∉ ending.toList) (hlong : 2 ≤ ending.toList.length) :
    p.child (s ++ ending) = p.inside (s ++ ending) ↔ '/' ∉ s.toList := by
  rw [child_append p s hmark hlong, inside_inj]
  constructor
  · rintro ⟨-, hname⟩
    refine lastName_eq_self_iff.mp (String.toList_inj.mp ?_)
    simpa [String.toList_append] using congrArg String.toList hname
  · exact fun hnone => ⟨p.join_folder_of_not_mem hnone, by rw [lastName_eq_self_iff.mpr hnone]⟩

/-! ### Long paths -/

theorem byteLength_of_concat {init : List String} (hparts : p.parts = init ++ [name]) :
    p.byteLength = p.root.text.length + (init.flatMap FileName.bytes).length + (FileName.bytes name).length +
      init.length := by
  have hempty : p.parts.isEmpty = false := by simp [hparts]
  rw [byteLength, hempty, Bool.and_false, if_neg Bool.false_ne_true, hparts, List.flatMap_append, List.length_append,
    List.length_append, List.flatMap_singleton, List.length_singleton, Nat.add_sub_cancel]
  omega

/-- **The parent of a path that is not too long** is not too long either. -/
theorem parent_le_longestPath (h : p.byteLength ≤ FileSystem.longestPath) :
    p.parent.byteLength ≤ FileSystem.longestPath := by
  obtain hparts | ⟨init, name, hparts⟩ := List.eq_nil_or_concat' p.parts
  · rwa [parent_of_nil hparts]
  · have hparent : p.parent = ⟨p.root, init⟩ := by rw [parent, hparts, List.dropLast_concat]
    rw [byteLength_of_concat hparts] at h
    rw [hparent, byteLength]
    split
    · -- what is left is the current directory
      decide
    · dsimp only
      omega

/-! ### Reading what was written -/

/-- A path whose parts are read as they are written. -/
def IsPlain (p : FilePath) : Prop :=
  ∀ name ∈ p.parts, name ≠ "" ∧ name ≠ "." ∧ '/' ∉ name.toList

/-- What is read is plain. -/
theorem isPlain_ofString (s : String) : (ofString s).IsPlain := by
  intro name hname
  obtain ⟨piece, hpiece, rfl⟩ := List.mem_map.mp hname
  obtain ⟨hmem, hkept⟩ := List.mem_filter.mp hpiece
  obtain ⟨hempty, hdot⟩ : piece ≠ [] ∧ piece ≠ ['.'] := by simpa using hkept
  refine ⟨fun h => hempty ?_, fun h => hdot ?_, ?_⟩
  · simpa using congrArg String.toList h
  · simpa using congrArg String.toList h
  · rw [String.toList_ofList]
    exact not_mem_of_mem_splitOn hmem

/-- A root in front of a text that begins with no slash is read as it is written. -/
theorem root_of_text (root : Root) {c : Char} (hc : c ≠ '/') (cs : List Char) :
    Root.of (root.text.toList ++ c :: cs) = root := by
  cases root <;> simp [Root.of, Root.text, hc]

/-- A root in front of a text gives no parts. -/
theorem partsOf_root (root : Root) (cs : List Char) :
    partsOf ((root.text.toList ++ cs).splitOn '/') = partsOf (cs.splitOn '/') := by
  cases root <;> simp [Root.text, partsOf, List.splitOn_cons_eq_if_modifyHead]

theorem IsPlain.join {q : FilePath} (hp : p.IsPlain) (hq : q.IsPlain) : (p.join q).IsPlain := by
  rw [FilePath.join]
  split
  · exact hq
  · intro name hname
    exact (List.mem_append.mp hname).elim (hp name) (hq name)

/-- **The text of a plain path gives the path again.** -/
theorem ofString_toString (hp : p.IsPlain) : ofString p.toString = p := by
  obtain ⟨root, parts⟩ := p
  cases parts with
  | nil => cases root <;> rfl
  | cons name names =>
    have htext : toString ⟨root, name :: names⟩ = root.text ++ "/".intercalate (name :: names) := by
      rw [toString, List.isEmpty_cons, Bool.and_false]
      rfl
    have hsplit : ("/".intercalate (name :: names)).toList.splitOn '/' = (name :: names).map String.toList := by
      rw [String.toList_intercalate]
      refine List.splitOn_intercalate '/' ?_ (by simp)
      intro cs hcs
      obtain ⟨part, hpart, rfl⟩ := List.mem_map.mp hcs
      exact (hp part hpart).2.2
    have hparts : partsOf ((name :: names).map String.toList) = name :: names := by
      rw [partsOf, List.filter_eq_self.mpr, List.map_map, List.map_congr_left (g := id), List.map_id]
      · intro part _
        exact String.ofList_toList
      · intro cs hcs
        obtain ⟨part, hpart, rfl⟩ := List.mem_map.mp hcs
        obtain ⟨hempty, hdot, -⟩ := hp part hpart
        have hempty' : part.toList ≠ [] := fun h => hempty (String.toList_eq_nil_iff.mp h)
        have hdot' : part.toList ≠ ['.'] := fun h => hdot (String.toList_inj.mp h)
        simp [hempty', hdot']
    obtain ⟨c, cs, hfirst, hc⟩ : ∃ c cs, ("/".intercalate (name :: names)).toList = c :: cs ∧ c ≠ '/' := by
      obtain ⟨hempty, -, hslash⟩ := hp name List.mem_cons_self
      obtain ⟨c, cs, hcs⟩ := List.exists_cons_of_ne_nil fun h => hempty (String.toList_eq_nil_iff.mp h)
      obtain ⟨rest, hrest⟩ : ∃ rest, "/".intercalate (name :: names) = name ++ rest := by
        cases names with
        | nil => exact ⟨"", by simp⟩
        | cons next names => exact ⟨"/" ++ "/".intercalate (next :: names), by
            rw [String.intercalate_cons_cons, String.append_assoc]⟩
      rw [hcs] at hslash
      exact ⟨c, cs ++ rest.toList, by rw [hrest, String.toList_append, hcs, List.cons_append],
        (List.ne_of_not_mem_cons hslash).symm⟩
    have hroot : Root.of (root.text.toList ++ ("/".intercalate (name :: names)).toList) = root := by
      rw [hfirst]
      exact root_of_text root hc cs
    have hread : partsOf ((root.text.toList ++ ("/".intercalate (name :: names)).toList).splitOn '/') =
        name :: names := by
      rw [partsOf_root, hsplit, hparts]
    rw [htext, ofString, String.toList_append, hroot]
    exact congrArg (FilePath.mk root) hread

end FilePath

end Landscape
