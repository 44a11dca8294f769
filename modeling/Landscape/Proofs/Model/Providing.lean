import Landscape.Model.Basic
import Mathlib.Data.List.Induction
import Mathlib.Data.List.Nodup

/-!
# Who provides an interface

Providing an interface touches two things: the interface gets a provider, and the provider's list gets one more
entry. What a sequence of such calls leaves behind can be read off the calls. A microservice lists the
interfaces of the calls on it, in their order (`Landscape.Model.interfaces_provideAll`), and the provider of an
interface is the microservice of the last call for it (`Landscape.Model.provider_provideAll`).

So the provider of an interface always lists it, but nothing takes an interface out of a list again. The two
sides agree (`Landscape.Model.Agrees`) as long as no interface is provided twice, and no longer
(`Landscape.Model.agrees_provideAll_iff`): if an interface moves to another microservice, then the first one keeps
it in its list, and if the same microservice provides it again, then it stands in its list twice.
-/

namespace Landscape

namespace Model

variable {m : Model} {r s : Ref .microservice} {i j : Ref .interface}

/-! ### One call -/

/-- There is such a microservice. -/
def HasMicroservice (m : Model) (r : Ref .microservice) : Prop :=
  r.index < m.microservices.size

/-- There is such an interface. -/
def HasInterface (m : Model) (i : Ref .interface) : Prop :=
  i.index < m.interfaces.size

instance : Decidable (m.HasMicroservice r) :=
  inferInstanceAs (Decidable (_ < _))

instance : Decidable (m.HasInterface i) :=
  inferInstanceAs (Decidable (_ < _))

theorem hasMicroservice_provide : (m.provide s i).HasMicroservice r ↔ m.HasMicroservice r := by
  simp [HasMicroservice, provide, modifyMicroservice, modifyInterface]

theorem hasInterface_provide : (m.provide s i).HasInterface j ↔ m.HasInterface j := by
  simp [HasInterface, provide, modifyMicroservice, modifyInterface]

/-- The interface goes to the end of the microservice's list; the other lists stay. -/
theorem interfaces_provide (hr : m.HasMicroservice r) (i : Ref .interface) (s : Ref .microservice) :
    ((m.provide r i).microservice s).interfaces =
      (m.microservice s).interfaces ++ if r = s then [i] else [] := by
  have hrow : (m.provide r i).microservice s =
      if r.index = s.index ∧ s.index < m.microservices.size then
        { m.microservice s with interfaces := (m.microservice s).interfaces ++ [i] }
      else m.microservice s :=
    Table.get_modify ..
  rw [hrow]
  by_cases h : r = s
  · subst h
    rw [if_pos ⟨rfl, hr⟩, if_pos rfl]
  · rw [if_neg fun hi => h (congrArg Ref.mk hi.1), if_neg h, List.append_nil]

/-- The interface has a new provider; the other interfaces keep theirs. -/
theorem provider_provide (hi : m.HasInterface i) (r : Ref .microservice) (j : Ref .interface) :
    ((m.provide r i).interface j).provider = if i = j then some r else (m.interface j).provider := by
  have hrow : (m.provide r i).interface j =
      if i.index = j.index ∧ j.index < m.interfaces.size then
        { m.interface j with provider := some r }
      else m.interface j :=
    Table.get_modify ..
  rw [hrow]
  by_cases h : i = j
  · subst h
    rw [if_pos ⟨rfl, hi⟩, if_pos rfl]
  · rw [if_neg fun hj => h (congrArg Ref.mk hj.1), if_neg h]

/-! ### A sequence of calls -/

/-- Provides interfaces one after the other. -/
def provideAll (m : Model) (calls : List (Ref .microservice × Ref .interface)) : Model :=
  calls.foldl (fun m c => m.provide c.1 c.2) m

/-- The calls are about things of the model. -/
def HasBoth (m : Model) (calls : List (Ref .microservice × Ref .interface)) : Prop :=
  ∀ c ∈ calls, m.HasMicroservice c.1 ∧ m.HasInterface c.2

variable {calls : List (Ref .microservice × Ref .interface)}

theorem provideAll_concat (m : Model) (calls : List (Ref .microservice × Ref .interface))
    (c : Ref .microservice × Ref .interface) :
    m.provideAll (calls ++ [c]) = (m.provideAll calls).provide c.1 c.2 := by
  simp [provideAll]

theorem hasMicroservice_provideAll : (m.provideAll calls).HasMicroservice r ↔ m.HasMicroservice r := by
  induction calls using List.reverseRecOn with
  | nil => rfl
  | append_singleton calls c ih => rw [provideAll_concat, hasMicroservice_provide, ih]

theorem hasInterface_provideAll : (m.provideAll calls).HasInterface i ↔ m.HasInterface i := by
  induction calls using List.reverseRecOn with
  | nil => rfl
  | append_singleton calls c ih => rw [provideAll_concat, hasInterface_provide, ih]

/-- **A microservice lists** what it has listed before and then the interfaces of the calls on it. -/
theorem interfaces_provideAll (h : m.HasBoth calls) (r : Ref .microservice) :
    ((m.provideAll calls).microservice r).interfaces =
      (m.microservice r).interfaces ++ (calls.filter (·.1 = r)).map (·.2) := by
  induction calls using List.reverseRecOn with
  | nil => simp [provideAll]
  | append_singleton calls c ih =>
    have hc : (m.provideAll calls).HasMicroservice c.1 := hasMicroservice_provideAll.mpr (h c (by simp)).1
    rw [provideAll_concat, interfaces_provide hc, ih fun d hd => h d (by simp [hd])]
    by_cases hr : c.1 = r <;> simp [hr]

/-- **The provider of an interface** is the microservice of the last call for it. -/
theorem provider_provideAll (h : m.HasBoth calls) (i : Ref .interface) :
    ((m.provideAll calls).interface i).provider =
      ((calls.filter (·.2 = i)).getLast?.map (·.1)).or (m.interface i).provider := by
  induction calls using List.reverseRecOn with
  | nil => simp [provideAll]
  | append_singleton calls c ih =>
    have hc : (m.provideAll calls).HasInterface c.2 := hasInterface_provideAll.mpr (h c (by simp)).2
    rw [provideAll_concat, provider_provide hc, ih fun d hd => h d (by simp [hd])]
    by_cases hi : c.2 = i <;> simp [hi]

/-! ### Lists and providers -/

/-- **Lists and providers agree**: an interface stands in the list of its provider, once, and nowhere else. -/
structure Agrees (m : Model) : Prop where
  /-- A microservice lists the interfaces of which it is the provider. -/
  listed_iff : ∀ r i, i ∈ (m.microservice r).interfaces ↔ (m.interface i).provider = some r
  /-- No microservice lists an interface twice. -/
  nodup : ∀ r, (m.microservice r).interfaces.Nodup

/-- No interface belongs to two microservices. -/
theorem Agrees.eq_of_listed (h : m.Agrees) (hr : i ∈ (m.microservice r).interfaces)
    (hs : i ∈ (m.microservice s).interfaces) : r = s :=
  Option.some.inj (((h.listed_iff r i).mp hr).symm.trans ((h.listed_iff s i).mp hs))

/-- **A fresh model**: no interface is provided yet. -/
structure Fresh (m : Model) : Prop where
  microservices : ∀ x ∈ m.microservices.rows, x.interfaces = []
  interfaces : ∀ x ∈ m.interfaces.rows, x.provider = none

theorem Fresh.interfaces_eq_nil (h : m.Fresh) (r : Ref .microservice) :
    (m.microservice r).interfaces = [] := by
  obtain hdefault | hrow := m.microservices.get_eq_default_or_mem r.index
  · exact congrArg Microservice.interfaces hdefault
  · exact h.microservices _ hrow

theorem Fresh.provider_eq_none (h : m.Fresh) (i : Ref .interface) : (m.interface i).provider = none := by
  obtain hdefault | hrow := m.interfaces.get_eq_default_or_mem i.index
  · exact congrArg Interface.provider hdefault
  · exact h.interfaces _ hrow

section Fresh

variable (hfresh : m.Fresh) (hboth : m.HasBoth calls)

include hfresh hboth

theorem Fresh.interfaces_provideAll (r : Ref .microservice) :
    ((m.provideAll calls).microservice r).interfaces = (calls.filter (·.1 = r)).map (·.2) := by
  rw [Model.interfaces_provideAll hboth, hfresh.interfaces_eq_nil, List.nil_append]

theorem Fresh.provider_provideAll (i : Ref .interface) :
    ((m.provideAll calls).interface i).provider = (calls.filter (·.2 = i)).getLast?.map (·.1) := by
  rw [Model.provider_provideAll hboth, hfresh.provider_eq_none, Option.or_none]

/-- What a microservice lists was provided on it. -/
theorem Fresh.mem_interfaces_provideAll :
    i ∈ ((m.provideAll calls).microservice r).interfaces ↔ (r, i) ∈ calls := by
  rw [hfresh.interfaces_provideAll hboth]
  simp

/-- The provider of an interface has provided it, in the last call for it. -/
theorem Fresh.mem_of_provider (h : ((m.provideAll calls).interface i).provider = some r) :
    (r, i) ∈ calls := by
  rw [hfresh.provider_provideAll hboth, Option.map_eq_some_iff] at h
  obtain ⟨c, hlast, rfl⟩ := h
  obtain ⟨hc, hi⟩ := List.mem_filter.mp (List.mem_of_getLast? hlast)
  rwa [← of_decide_eq_true hi]

/-- What was provided has a provider. -/
theorem Fresh.exists_provider (h : (r, i) ∈ calls) :
    ∃ s, ((m.provideAll calls).interface i).provider = some s := by
  rw [hfresh.provider_provideAll hboth]
  have hne : calls.filter (·.2 = i) ≠ [] := List.ne_nil_of_mem (List.mem_filter.mpr ⟨h, by simp⟩)
  exact ⟨_, by rw [List.getLast?_eq_getLast_of_ne_nil hne, Option.map_some]⟩

/-- If no interface is provided twice, then lists and providers agree. -/
theorem Fresh.agrees_of_nodup (h : (calls.map (·.2)).Nodup) : (m.provideAll calls).Agrees where
  listed_iff r i := by
    rw [hfresh.mem_interfaces_provideAll hboth]
    refine ⟨fun hmem => ?_, hfresh.mem_of_provider hboth⟩
    obtain ⟨s, hs⟩ := hfresh.exists_provider hboth hmem
    -- two calls for one interface are one call
    have hcall : (r, i) = (s, i) := List.inj_on_of_nodup_map h hmem (hfresh.mem_of_provider hboth hs) rfl
    rw [hs, (Prod.mk.inj hcall).1]
  nodup r := by
    rw [hfresh.interfaces_provideAll hboth]
    exact h.sublist (List.filter_sublist.map _)

/-- If lists and providers agree after the calls, then no interface was provided twice. -/
theorem Fresh.nodup_of_agrees (h : (m.provideAll calls).Agrees) : (calls.map (·.2)).Nodup := by
  refine List.pairwise_map.mpr (List.pairwise_iff_forall_sublist.mpr ?_)
  rintro ⟨r, i⟩ ⟨s, j⟩ hsub (rfl : i = j)
  have hr : i ∈ ((m.provideAll calls).microservice r).interfaces :=
    (hfresh.mem_interfaces_provideAll hboth).mpr (hsub.subset (by simp))
  have hs : i ∈ ((m.provideAll calls).microservice s).interfaces :=
    (hfresh.mem_interfaces_provideAll hboth).mpr (hsub.subset (by simp))
  obtain rfl : r = s := h.eq_of_listed hr hs
  have htwice : [i, i].Sublist ((m.provideAll calls).microservice r).interfaces := by
    rw [hfresh.interfaces_provideAll hboth]
    simpa using (hsub.filter (·.1 = r)).map (·.2)
  exact List.not_nodup_pair i ((h.nodup r).sublist htwice)

end Fresh

/-- **What providing leaves behind.** From a fresh model, a microservice lists the interfaces of the calls on it, in
their order, and the last call for an interface makes its provider, which lists it. Lists and providers agree
after every call if and only if no interface is provided twice. -/
theorem agrees_provideAll_iff (hfresh : m.Fresh) (hboth : m.HasBoth calls) :
    (∀ r, ((m.provideAll calls).microservice r).interfaces = (calls.filter (·.1 = r)).map (·.2)) ∧
    (∀ i, ((m.provideAll calls).interface i).provider = (calls.filter (·.2 = i)).getLast?.map (·.1)) ∧
    (∀ r i, ((m.provideAll calls).interface i).provider = some r →
      i ∈ ((m.provideAll calls).microservice r).interfaces) ∧
    ((∀ earlier, earlier <+: calls → (m.provideAll earlier).Agrees) ↔ (calls.map (·.2)).Nodup) := by
  refine ⟨hfresh.interfaces_provideAll hboth, hfresh.provider_provideAll hboth, fun r i h => ?_, ?_⟩
  · exact (hfresh.mem_interfaces_provideAll hboth).mpr (hfresh.mem_of_provider hboth h)
  · refine ⟨fun h => hfresh.nodup_of_agrees hboth (h calls (List.prefix_refl _)), fun h earlier hpre => ?_⟩
    exact hfresh.agrees_of_nodup (fun c hc => hboth c (hpre.subset hc)) (h.sublist (hpre.sublist.map _))

/-- Two microservices and two interfaces, none of which is provided. -/
def unprovided : Model where
  microservices := ⟨[{ name := "A" }, { name := "B" }]⟩
  interfaces := ⟨[{ name := "X" }, { name := "Y" }]⟩

theorem fresh_unprovided : unprovided.Fresh where
  microservices := by decide
  interfaces := by decide

theorem agrees_provideAll_iff_unprovided :
    (unprovided.provideAll [(⟨1⟩, ⟨0⟩), (⟨0⟩, ⟨1⟩)]).Agrees :=
  (agrees_provideAll_iff fresh_unprovided (by unfold HasBoth; decide)).2.2.2.mpr (by decide) _
    (List.prefix_refl _)

/-- **An interface that moves** is still listed by the microservice that provided it first. -/
theorem not_agrees_provideAll : ¬ ∀ (m : Model) (calls : List (Ref .microservice × Ref .interface)),
    m.Fresh → m.HasBoth calls → ∀ earlier, earlier <+: calls → (m.provideAll earlier).Agrees := by
  intro h
  have hagrees := h unprovided [(⟨0⟩, ⟨0⟩), (⟨1⟩, ⟨0⟩)] fresh_unprovided (by unfold HasBoth; decide) _
    (List.prefix_refl _)
  have hfirst := (hagrees.listed_iff ⟨0⟩ ⟨0⟩).mp (by decide)
  exact absurd hfirst (by decide)

end Model

end Landscape
