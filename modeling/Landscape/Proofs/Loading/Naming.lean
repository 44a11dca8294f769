import Landscape.Proofs.Loading.Mirrored

/-!
# How an interface is named in a contract

A contract names its owner by the name of the interface, or by that of its microservice, a slash and then the name of
the interface. Names may hold slashes themselves, but a reference is always cut at its first slash
(`Landscape.Refers`). So an interface with a slash in its name cannot be named by this alone, and a microservice with a
slash in its name cannot qualify anything.

Apart from this, an interface can be named if it can be told from the others: by its name if no other interface of the
system has it, and by both names if no other interface has both. Nothing else names it
(`Landscape.Model.resolveOwner_of_reaches`). With slashes a reference may mean nothing, or another interface
(`Landscape.Model.resolveOwner_ne_slashes`).
-/

namespace Landscape

/-! ### References made of names -/

section Refers

variable {reference r r' x x' : String}

/-- The name of an interface does not mean it if there is a slash in it. -/
theorem refers_self_iff : Refers x r x ↔ '/' ∉ x.toList := by
  have hne : x.toList ≠ r.toList ++ '/' :: x.toList := fun h => by
    have := congrArg List.length h
    rw [List.length_append, List.length_cons] at this
    omega
  simp [Refers, hne]

theorem refers_iff_of_notMem (hx : '/' ∉ x.toList) : Refers x r' x' ↔ x' = x := by
  have hne : x.toList ≠ r'.toList ++ '/' :: x'.toList := fun h => hx (by simp [h])
  simp [Refers, hne, hx]

theorem toList_qualified (r x : String) : (r ++ "/" ++ x).toList = r.toList ++ '/' :: x.toList := by
  simp

/-- Both names do not mean an interface if there is a slash in that of its microservice. -/
theorem refers_qualified_self_iff : Refers (r ++ "/" ++ x) r x ↔ '/' ∉ r.toList := by
  simp [Refers]

theorem refers_qualified_iff_of_notMem (hr : '/' ∉ r.toList) :
    Refers (r ++ "/" ++ x) r' x' ↔ r' = r ∧ x' = x := by
  rw [OwnerReference.refers_iff_of_eq_append (toList_qualified r x) hr, String.toList_inj, String.toList_inj]

/-- **There are two ways to refer** to an interface. -/
theorem Refers.eq_or_eq (h : Refers reference r x) : reference = x ∨ reference = r ++ "/" ++ x := by
  rcases h with ⟨-, h⟩ | ⟨-, h⟩
  · exact .inl h.symm
  · exact .inr (String.toList_inj.mp (h.trans (toList_qualified r x).symm))

end Refers

/-! ### Interfaces that can be told apart -/

namespace Model

variable {m m' : Model} {document : Value} {s : Ref .system} {r : Ref .microservice} {i : Ref .interface}

/-- No other interface of the system has the name of this one. -/
def OnlyByName (m : Model) (s : Ref .system) (i : Ref .interface) : Prop :=
  ∀ j ∈ m.providedInterfaces s, (m.interface j).name = (m.interface i).name → j = i

/-- No other interface of the system has the name of this one and a provider of the name of this microservice. -/
def OnlyByNames (m : Model) (s : Ref .system) (r : Ref .microservice) (i : Ref .interface) : Prop :=
  ∀ j ∈ m.providedInterfaces s, (m.interface j).name = (m.interface i).name →
    (m.interface j).provider.map (fun p => (m.microservice p).name) = some (m.microservice r).name → j = i

instance : Decidable (m.OnlyByName s i) :=
  inferInstanceAs (Decidable (∀ _ ∈ _, _ → _))

instance : Decidable (m.OnlyByNames s r i) :=
  inferInstanceAs (Decidable (∀ _ ∈ _, _ → _ → _))

/-- **The interface that a reference names** in a closed system is the only thing that the reference means. -/
theorem Closed.resolveOwner_iff (h : m.Closed s) {reference : String} :
    resolveOwner m s reference = .ok i ↔ ∀ j, m.RefersTo s reference j ↔ j = i := by
  have hnodup := h.interfaces_nodup.filter ((OwnerReference.of reference).fits m)
  rw [resolveOwner_eq_ok, ← List.perm_singleton, List.perm_ext_iff_of_nodup hnodup (List.nodup_singleton i)]
  simp only [mem_filter_fits h.provider, List.mem_singleton]

/-- It is named if the reference means it and nothing else. -/
theorem Closed.resolveOwner_iff_of_mem (h : m.Closed s) (hr : r ∈ (m.system s).microservices)
    (hi : i ∈ (m.microservice r).interfaces) {reference : String} :
    resolveOwner m s reference = .ok i ↔ Refers reference (m.microservice r).name (m.interface i).name ∧
      ∀ r' ∈ (m.system s).microservices, ∀ j ∈ (m.microservice r').interfaces,
        Refers reference (m.microservice r').name (m.interface j).name → j = i := by
  rw [h.resolveOwner_iff]
  constructor
  · intro hall
    obtain ⟨r', hr', hi', hrefers⟩ := (hall i).mpr rfl
    -- an interface is listed by its provider only
    obtain rfl : r' = r := Option.some.inj ((h.provider r' hr' i hi').symm.trans (h.provider r hr i hi))
    exact ⟨hrefers, fun r'' hr'' j hj hj' => (hall j).mp ⟨r'', hr'', hj, hj'⟩⟩
  · rintro ⟨hrefers, honly⟩ j
    constructor
    · rintro ⟨r', hr', hj, hj'⟩
      exact honly r' hr' j hj hj'
    · rintro rfl
      exact ⟨r, hr, hi, hrefers⟩

/-- The name of an interface names it if there is no slash in it and no other interface has it. -/
theorem Closed.resolveOwner_name_iff (h : m.Closed s) (hr : r ∈ (m.system s).microservices)
    (hi : i ∈ (m.microservice r).interfaces) :
    resolveOwner m s (m.interface i).name = .ok i ↔ '/' ∉ (m.interface i).name.toList ∧ m.OnlyByName s i := by
  rw [h.resolveOwner_iff_of_mem hr hi, refers_self_iff]
  refine and_congr_right fun hslash => ?_
  simp only [refers_iff_of_notMem hslash, OnlyByName, providedInterfaces, List.mem_flatMap]
  constructor
  · rintro honly j ⟨r', hr', hj⟩
    exact honly r' hr' j hj
  · intro honly r' hr' j hj
    exact honly j ⟨r', hr', hj⟩

/-- Both names name an interface if there is no slash in that of its microservice and no other interface has both. -/
theorem Closed.resolveOwner_names_iff (h : m.Closed s) (hr : r ∈ (m.system s).microservices)
    (hi : i ∈ (m.microservice r).interfaces) :
    resolveOwner m s ((m.microservice r).name ++ "/" ++ (m.interface i).name) = .ok i ↔
      '/' ∉ (m.microservice r).name.toList ∧ m.OnlyByNames s r i := by
  rw [h.resolveOwner_iff_of_mem hr hi, refers_qualified_self_iff]
  refine and_congr_right fun hslash => ?_
  simp only [refers_qualified_iff_of_notMem hslash, OnlyByNames, providedInterfaces, List.mem_flatMap]
  constructor
  · rintro honly j ⟨r', hr', hj⟩ hname hprovider
    rw [h.provider r' hr' j hj] at hprovider
    exact honly r' hr' j hj ⟨Option.some.inj hprovider, hname⟩
  · rintro honly r' hr' j hj ⟨hname', hname⟩
    refine honly j ⟨r', hr', hj⟩ hname ?_
    rw [h.provider r' hr' j hj, ← hname']
    rfl

/-- **Which references name an interface.** Wherever loading has come to in the contracts of a document, an interface of
the system is named by its name if and only if there is no slash in it and no other interface has it, and by the
name of its microservice and its own if and only if there is no slash in the former and no other interface has both.
No other reference names it. -/
theorem resolveOwner_of_reaches (h : m.Reaches m' document s) (hr : r ∈ (m'.system s).microservices)
    (hi : i ∈ (m'.microservice r).interfaces) :
    (resolveOwner m' s (m'.interface i).name = .ok i ↔
      '/' ∉ (m'.interface i).name.toList ∧ m'.OnlyByName s i) ∧
    (resolveOwner m' s ((m'.microservice r).name ++ "/" ++ (m'.interface i).name) = .ok i ↔
      '/' ∉ (m'.microservice r).name.toList ∧ m'.OnlyByNames s r i) ∧
    ∀ reference, resolveOwner m' s reference = .ok i → reference = (m'.interface i).name ∨
      reference = (m'.microservice r).name ++ "/" ++ (m'.interface i).name := by
  have hc := h.loaded.closed
  refine ⟨hc.resolveOwner_name_iff hr hi, hc.resolveOwner_names_iff hr hi, fun reference hreference => ?_⟩
  exact ((hc.resolveOwner_iff_of_mem hr hi).mp hreference).1.eq_or_eq

/-- Of the twins, each is named by both names and none by one. -/
theorem resolveOwner_of_reaches_twins : ∃ s m' r i, Model.Reaches {} m' twinsDocument s ∧
    r ∈ (m'.system s).microservices ∧ i ∈ (m'.microservice r).interfaces ∧ resolveOwner m' s "B/X" = .ok i ∧
    ∀ reference, resolveOwner m' s reference = .ok i → reference = "B/X" := by
  obtain ⟨s, m', h, hp⟩ := exists_load_of_any {} twinsDocument (fun p =>
    ⟨1⟩ ∈ (p.2.system p.1).microservices ∧ ⟨1⟩ ∈ (p.2.microservice ⟨1⟩).interfaces ∧
      (p.2.microservice ⟨1⟩).name = "B" ∧ (p.2.interface ⟨1⟩).name = "X" ∧ ¬ p.2.OnlyByName p.1 ⟨1⟩ ∧
      p.2.OnlyByNames p.1 ⟨1⟩ ⟨1⟩) (by decide +kernel)
  obtain ⟨hr, hi, hmicroservice, hinterface, hmany, honly⟩ := of_decide_eq_true hp
  obtain ⟨hname, hnames, hothers⟩ := resolveOwner_of_reaches (reaches_of_load h) hr hi
  rw [hmicroservice, hinterface] at *
  refine ⟨s, m', _, _, reaches_of_load h, hr, hi, hnames.mpr ⟨by decide, honly⟩, fun reference hreference => ?_⟩
  refine (hothers reference hreference).resolve_left ?_
  rintro rfl
  exact hmany (hname.mp hreference).2

end Model

/-- A landscape with slashes in names: a microservice that has one, and an interface that is called like another one
with its microservice. -/
def slashesDocument (contracts : List Value) : Value :=
  .mapping [
    (.text "name", .text "S"),
    (.text "microservices", .list [
      .mapping [(.text "name", .text "x/y"), (.text "interfaces", .list [.mapping [(.text "name", .text "Api")]])],
      .mapping [(.text "name", .text "B"), (.text "interfaces", .list [.mapping [(.text "name", .text "Api")]])],
      .mapping [(.text "name", .text "C"), (.text "interfaces", .list [.mapping [(.text "name", .text "B/Api")]])]]),
    (.text "contracts", .list contracts)]

/-- **With a slash in a name the reference goes astray.** No other interface has both names of the first one, but they
mean nothing; no other interface has the name of the last one, but it means the second one. So no contract with
the first one can be loaded: its own name is ambiguous, and qualifying it as the message asks for does not help. -/
theorem Model.resolveOwner_ne_slashes :
    (∃ s m', Model.load {} (slashesDocument []) = .ok (s, m') ∧
      (∃ r ∈ (m'.system s).microservices, ∃ i ∈ (m'.microservice r).interfaces, m'.OnlyByNames s r i ∧
        resolveOwner m' s ((m'.microservice r).name ++ "/" ++ (m'.interface i).name) =
          .error (.unknownOwner "x/y/Api")) ∧
      ∃ i ∈ m'.providedInterfaces s, m'.OnlyByName s i ∧
        ∃ j ∈ m'.providedInterfaces s, j ≠ i ∧ resolveOwner m' s (m'.interface i).name = .ok j) ∧
    Model.load {} (slashesDocument [.mapping [(.text "owner", .text "Api"), (.text "consumer", .text "B")]]) =
      .error (.ambiguousOwner "Api" "Api") ∧
    Model.load {} (slashesDocument [.mapping [(.text "owner", .text "x/y/Api"), (.text "consumer", .text "B")]]) =
      .error (.unknownOwner "x/y/Api") := by
  refine ⟨?_, load_eq_error_of_map (by decide +kernel), load_eq_error_of_map (by decide +kernel)⟩
  obtain ⟨s, m', h, hp⟩ := exists_load_of_any {} (slashesDocument []) (fun p =>
    (∃ r ∈ (p.2.system p.1).microservices, ∃ i ∈ (p.2.microservice r).interfaces, p.2.OnlyByNames p.1 r i ∧
      resolveOwner p.2 p.1 ((p.2.microservice r).name ++ "/" ++ (p.2.interface i).name) =
        .error (.unknownOwner "x/y/Api")) ∧
    ∃ i ∈ p.2.providedInterfaces p.1, p.2.OnlyByName p.1 i ∧
      ∃ j ∈ p.2.providedInterfaces p.1, j ≠ i ∧ resolveOwner p.2 p.1 (p.2.interface i).name = .ok j)
    (by decide +kernel)
  exact ⟨s, m', h, of_decide_eq_true hp⟩

end Landscape
