import Landscape.Proofs.Diagram.Order

/-!
# Contracts that do not show in a text

The DOT text of a system is written from its contracts, but it does not tell how they were listed. A graph keeps what
is mentioned first, so a contract that joins what an earlier one joins mentions nothing new, wherever it
stands after that one. Its graph is the graph without it (`Landscape.Model.graph_setContracts_of_repeats`). Nothing
is asked of the model here: the ends may lie outside the system, and another contract may lack a provider.

The order of the contracts shows in two places. It is the order of the edges of one tail, and it is the order of the
vertices that the contracts bring along. If no contract leads outside, it brings none, and only the first is left
(`Landscape.Model.dotText_of_inside`). So contracts of different consumers may change places
(`Landscape.Model.Rearranged`). A contract that leads outside would have to stay where it is.
-/

namespace Landscape

section EraseDups

variable {α : Type} [BEq α] [LawfulBEq α]

/-- What was there before may be repeated at once. -/
theorem eraseDups_append_append_of_subset {xs ys : List α} (zs : List α) (h : ys ⊆ xs) :
    (xs ++ (ys ++ zs)).eraseDups = (xs ++ zs).eraseDups := by
  have hnone : ys.removeAll xs = [] := List.filter_eq_nil_iff.mpr fun y hy => by simp [h hy]
  have hnew : (ys ++ zs).removeAll xs = zs.removeAll xs := by
    rw [List.removeAll, List.filter_append]
    exact congrArg (· ++ _) hnone
  rw [List.eraseDups_append, hnew, ← List.eraseDups_append]

end EraseDups

namespace Model

variable {m : Model} {s : Ref .system} {c d : Ref .contract} {cs ds : List (Ref .contract)}

/-! ### Other contracts -/

/-- The model in which a system has other contracts. -/
def setContracts (m : Model) (s : Ref .system) (cs : List (Ref .contract)) : Model :=
  m.modifySystem s fun y => { y with contracts := cs }

/-- A system that has contracts can get others; one that is not there has none. -/
theorem system_setContracts (h : (m.system s).contracts = [] → cs = []) :
    (m.setContracts s cs).system s = { m.system s with contracts := cs } := by
  rw [system, setContracts, modifySystem, Table.get_modify]
  split
  · rfl
  · rename_i hnot
    have hdefault : m.system s = default := Table.get_of_size_le _ (Nat.le_of_not_lt fun hlt => hnot ⟨rfl, hlt⟩)
    rw [h (by rw [hdefault]; rfl)]
    show m.system s = _
    rw [hdefault]
    rfl

/-- The ends of some edges, edge by edge. -/
def endsOf (es : List (Ref .microservice × Ref .microservice)) : List (Ref .microservice) :=
  es.flatMap fun e => [e.1, e.2]

/-- The graph of a system with other contracts. Everything but the contracts is as it was. -/
theorem graph_setContracts (h : (m.system s).contracts = [] → cs = []) : (m.setContracts s cs).graph s =
    match cs.find? m.lacksProvider with
    | some c => .error (.noProvider (m.interface (m.contract c).owner).name)
    | none => .ok (.mentioning ((m.system s).microservices ++ endsOf (cs.filterMap m.joined?))
        (cs.filterMap m.joined?)) := by
  rw [graph_eq, mentioned, joined, system_setContracts h]
  rfl

theorem joined?_eq_some_iff {e : Ref .microservice × Ref .microservice} :
    m.joined? c = some e ↔ m.Joins c e := by
  obtain ⟨tail, head⟩ := e
  cases hp : (m.interface (m.contract c).owner).provider with
  | none => simp [joined?, Joins, hp]
  | some p => simp [joined?, Joins, hp, eq_comm]

theorem not_lacksProvider_of_joins {e : Ref .microservice × Ref .microservice} (h : m.Joins c e) :
    ¬ m.lacksProvider c = true := by
  rw [lacksProvider_iff, h.2]
  nofun

/-- With the same graph, there is the same text. -/
theorem dotText_setContracts_of_graph (h : (m.setContracts s cs).graph s = m.graph s) :
    (m.setContracts s cs).dotText s = m.dotText s := by
  rw [dotText, dotText, h]
  rfl

/-! ### Contracts that repeat others -/

/-- **A contract that joins what an earlier one joins** leaves the graph as it was, and so it does if there is none. -/
theorem graph_setContracts_of_repeats {before after : List (Ref .contract)}
    {e : Ref .microservice × Ref .microservice} (hcs : (m.system s).contracts = before ++ after) (hd : d ∈ before)
    (hde : m.Joins d e) (hce : m.Joins c e) :
    (m.setContracts s (before ++ c :: after)).graph s = m.graph s := by
  have hne : (m.system s).contracts = [] → before ++ c :: after = [] := fun h => by
    rw [hcs] at h
    simp [List.append_eq_nil_iff.mp h] at hd
  have hfind : (before ++ c :: after).find? m.lacksProvider = (before ++ after).find? m.lacksProvider := by
    rw [List.find?_append, List.find?_append, List.find?_cons_of_neg (not_lacksProvider_of_joins hce)]
  have hmem : e ∈ before.filterMap m.joined? := List.mem_filterMap.mpr ⟨d, hd, joined?_eq_some_iff.mpr hde⟩
  have hjoined : (before ++ c :: after).filterMap m.joined? =
      before.filterMap m.joined? ++ ([e] ++ after.filterMap m.joined?) := by
    rw [List.filterMap_append, List.filterMap_cons_some (joined?_eq_some_iff.mpr hce)]
    rfl
  -- neither the edge nor its ends are new
  have hgraph : Graph.mentioning ((m.system s).microservices ++ endsOf ((before ++ c :: after).filterMap m.joined?))
      ((before ++ c :: after).filterMap m.joined?) = .mentioning (m.mentioned s) (m.joined s) := by
    have hends : [e.1, e.2] ⊆ (m.system s).microservices ++ endsOf (before.filterMap m.joined?) := by
      refine fun x hx => List.mem_append_right _ (List.mem_flatMap.mpr ⟨e, hmem, hx⟩)
    rw [Graph.mentioning, Graph.mentioning, mentioned, joined, hcs, hjoined]
    congr 1
    · have := eraseDups_append_append_of_subset (endsOf (after.filterMap m.joined?)) hends
      simpa [endsOf] using this
    · rw [eraseDups_append_append_of_subset _ (by simpa using hmem), List.filterMap_append]
  rw [graph_setContracts hne, hfind, hgraph, ← hcs]
  exact (graph_eq m s).symm

/-! ### Contracts that change places -/

/-- **A rearrangement of contracts** in which the contracts of each consumer stay in order. -/
def Rearranged (m : Model) (cs ds : List (Ref .contract)) : Prop :=
  ∀ r, ds.filter (fun c => (m.contract c).consumer = r) = cs.filter fun c => (m.contract c).consumer = r

/-- The contracts are the same, as often as before. -/
theorem Rearranged.perm (h : m.Rearranged cs ds) : ds.Perm cs := by
  refine List.perm_iff_count.mpr fun c => ?_
  have hcount (xs : List (Ref .contract)) :
      (xs.filter fun d => (m.contract d).consumer = (m.contract c).consumer).count c = xs.count c :=
    List.count_filter (by simp)
  rw [← hcount ds, h, hcount]

/-- Two neighbours with different consumers change places. -/
theorem rearranged_swap (before after : List (Ref .contract))
    (h : (m.contract c).consumer ≠ (m.contract d).consumer) :
    m.Rearranged (before ++ c :: d :: after) (before ++ d :: c :: after) := by
  intro r
  rw [List.filter_append, List.filter_append]
  by_cases hc : (m.contract c).consumer = r
  · have hd : ¬ (m.contract d).consumer = r := fun hd => h (hc.trans hd.symm)
    simp [hc, hd]
  · simp [List.filter_cons, hc]

/-- What the contracts of one consumer join. -/
theorem filter_filterMap_joined? (cs : List (Ref .contract)) (r : Ref .microservice) :
    (cs.filterMap m.joined?).filter (·.1 = r) =
      (cs.filter fun c => (m.contract c).consumer = r).filterMap m.joined? := by
  rw [List.filter_filterMap, List.filterMap_filter]
  refine List.filterMap_congr fun c _ => ?_
  cases hp : (m.interface (m.contract c).owner).provider with
  | none => simp [joined?, hp]
  | some p => simp [joined?, hp, Option.filter]

/-- No contract of a system leads outside. -/
def Inside (m : Model) (s : Ref .system) : Prop :=
  ∀ c ∈ (m.system s).contracts, ∃ e, m.Joins c e ∧
    e.1 ∈ (m.system s).microservices ∧ e.2 ∈ (m.system s).microservices

theorem Closed.inside (h : m.Closed s) : m.Inside s := fun c hc => by
  obtain ⟨r, -, hprov, -⟩ := h.owner c hc
  have hj : m.Joins c ((m.contract c).consumer, r) := ⟨rfl, hprov⟩
  exact ⟨_, hj, h.joins_mem hc hj⟩

/-- **The text of a system whose contracts stay inside** depends on what is joined tail by tail. -/
theorem dotText_of_inside (h : m.Inside s) : m.dotText s = .ok (String.ofList (Dot.text
    ((m.system s).microservices.eraseDups.map (fun v => .vertex (m.vertexId v) (m.vertexLabel v)) ++
      ((m.system s).microservices.eraseDups.flatMap fun v => ((m.joined s).filter (·.1 = v)).eraseDups).map
        fun e => .edge (m.vertexId e.1) (m.vertexId e.2)))) := by
  have hfind : (m.system s).contracts.find? m.lacksProvider = none := List.find?_eq_none.mpr fun c hc =>
    not_lacksProvider_of_joins (h c hc).choose_spec.1
  have hends : endsOf (m.joined s) ⊆ (m.system s).microservices := by
    intro x hx
    obtain ⟨e, he, hx⟩ := List.mem_flatMap.mp hx
    obtain ⟨c, hc, hce⟩ := List.mem_filterMap.mp he
    obtain ⟨e', hj, htail, hhead⟩ := h c hc
    obtain rfl : e' = e := Option.some.inj ((joined?_eq_some_iff.mpr hj).symm.trans hce)
    rcases List.mem_pair.mp hx with rfl | rfl
    · exact htail
    · exact hhead
  have hvertices : (m.mentioned s).eraseDups = (m.system s).microservices.eraseDups := by
    have := eraseDups_append_append_of_subset [] hends
    rwa [List.append_nil, List.append_nil] at this
  have htext : m.dotText s =
      .ok (String.ofList (Dot.text (m.dotStatements (.mentioning (m.mentioned s) (m.joined s))))) := by
    rw [dotText, graph_eq, hfind]
    rfl
  rw [htext, dotStatements, Graph.edgesByTail_mentioning, ← hvertices]
  rfl

/-- **Contracts that stay inside may be rearranged**, if those of each consumer stay in order. -/
theorem dotText_setContracts_of_rearranged (hin : m.Inside s) (h : m.Rearranged (m.system s).contracts cs) :
    (m.setContracts s cs).dotText s = m.dotText s := by
  have hsystem : (m.setContracts s cs).system s = { m.system s with contracts := cs } :=
    system_setContracts fun hnil => List.perm_nil.mp (hnil ▸ h.perm)
  have hin' : (m.setContracts s cs).Inside s := by
    rw [Inside, hsystem]
    exact fun c hc => hin c (h.perm.mem_iff.mp hc)
  have htails (v : Ref .microservice) :
      ((m.setContracts s cs).joined s).filter (·.1 = v) = (m.joined s).filter (·.1 = v) := by
    rw [joined, hsystem]
    exact (filter_filterMap_joined? cs v).trans ((congrArg _ (h v)).trans (filter_filterMap_joined? _ v).symm)
  rw [dotText_of_inside hin', dotText_of_inside hin, hsystem]
  simp only [htails]
  rfl

end Model

namespace Diagram

/-- **What of the contracts does not show in a text.** A contract may be put in anywhere after one that joins the same
consumer to the same provider: the text of the simple diagram stays what it was, and if there is none, so does the
fault. The contracts of a loaded system may be listed in any order that keeps the order among the contracts of each
consumer: both times there is a text, and it is the same. -/
theorem source_simpleOf_setContracts :
    (∀ (st st' : Studio) (s : Ref .system) (r : RendererRef) (before after : List (Ref .contract))
      (c d : Ref .contract) (e : Ref .microservice × Ref .microservice),
      (st.model.system s).contracts = before ++ after → d ∈ before → st.model.Joins d e → st.model.Joins c e →
      st'.model = st.model.setContracts s (before ++ c :: after) →
      ((simpleOf s r).source.run st').1 = ((simpleOf s r).source.run st).1) ∧
    ∀ (m m' : Model) (document : Value) (st st' : Studio) (s : Ref .system) (r : RendererRef)
      (cs : List (Ref .contract)), m.load document = .ok (s, m') → m'.Rearranged (m'.system s).contracts cs →
      st.model = m' → st'.model = m'.setContracts s cs →
      ∃ text, ((simpleOf s r).source.run st).1 = .ok text ∧ ((simpleOf s r).source.run st').1 = .ok text := by
  constructor
  · intro st st' s r before after c d e hcs hd hde hce hst'
    rw [source_simpleOf_run, source_simpleOf_run, hst',
      Model.dotText_setContracts_of_graph (Model.graph_setContracts_of_repeats hcs hd hde hce)]
  · intro m m' document st st' s r cs hload hcs hst hst'
    have hin := (Model.loaded_of_load hload).closed.inside
    rw [source_simpleOf_run, source_simpleOf_run, hst, hst', Model.dotText_setContracts_of_rearranged hin hcs,
      Model.dotText_of_inside hin]
    exact ⟨_, rfl, rfl⟩

/-- A system in which two contracts lead outside. The third contract is not in it, but joins what the first one does. -/
def outlying : Model where
  microservices := ⟨[{ name := "A" }, { name := "B" }, { name := "C" }]⟩
  interfaces := ⟨[{ name := "X", provider := some ⟨0⟩ }, { name := "Y", provider := some ⟨1⟩ },
    { name := "Z", provider := some ⟨0⟩ }]⟩
  contracts := ⟨[⟨⟨0⟩, ⟨2⟩⟩, ⟨⟨1⟩, ⟨0⟩⟩, ⟨⟨2⟩, ⟨2⟩⟩]⟩
  systems := ⟨[{ name := "S", microservices := [⟨1⟩], contracts := [⟨0⟩, ⟨1⟩] }]⟩

/-- A landscape in which two microservices are consumers, one of them twice. -/
def consumersDocument : Value :=
  .mapping [
    (.text "name", .text "Consumers"),
    (.text "microservices", .list [
      .mapping [(.text "name", .text "A"), (.text "interfaces", .list [.mapping [(.text "name", .text "X")]])],
      .mapping [(.text "name", .text "B"), (.text "interfaces", .list [.mapping [(.text "name", .text "Y")]])],
      .mapping [(.text "name", .text "C")]]),
    (.text "contracts", .list [
      .mapping [(.text "owner", .text "Y"), (.text "consumer", .text "C")],
      .mapping [(.text "owner", .text "X"), (.text "consumer", .text "B")],
      .mapping [(.text "owner", .text "X"), (.text "consumer", .text "C")]])]

/-- The third contract changes nothing when it is put in, and neither does it when the consumers take turns. -/
theorem source_simpleOf_setContracts_consumers :
    ((simpleOf ⟨0⟩ ⟨0⟩).source.run { model := outlying.setContracts ⟨0⟩ [⟨0⟩, ⟨1⟩, ⟨2⟩] }).1 =
      ((simpleOf ⟨0⟩ ⟨0⟩).source.run { model := outlying }).1 ∧
    ∃ s m' text, Model.load {} consumersDocument = .ok (s, m') ∧
      ((simpleOf s ⟨0⟩).source.run { model := m' }).1 = .ok text ∧
      ((simpleOf s ⟨0⟩).source.run { model := m'.setContracts s [⟨1⟩, ⟨0⟩, ⟨2⟩] }).1 = .ok text := by
  obtain ⟨hinsert, hrearrange⟩ := source_simpleOf_setContracts
  refine ⟨hinsert { model := outlying } _ ⟨0⟩ ⟨0⟩ [⟨0⟩, ⟨1⟩] [] ⟨2⟩ ⟨0⟩ (⟨2⟩, ⟨0⟩) rfl (by decide) ⟨rfl, rfl⟩
    ⟨rfl, rfl⟩ rfl, ?_⟩
  obtain ⟨s, m', h, hp⟩ := Model.exists_load_of_any {} consumersDocument
    (fun r => (r.2.system r.1).contracts = [⟨0⟩, ⟨1⟩, ⟨2⟩] ∧
      (r.2.contract ⟨0⟩).consumer ≠ (r.2.contract ⟨1⟩).consumer) (by decide +kernel)
  obtain ⟨hcontracts, hne⟩ := of_decide_eq_true hp
  have hrearranged : m'.Rearranged (m'.system s).contracts [⟨1⟩, ⟨0⟩, ⟨2⟩] := by
    rw [hcontracts]
    exact Model.rearranged_swap [] [⟨2⟩] hne
  obtain ⟨text, htext, htext'⟩ :=
    hrearrange {} m' consumersDocument { model := m' } { model := m'.setContracts s [⟨1⟩, ⟨0⟩, ⟨2⟩] } s ⟨0⟩ _ h
      hrearranged rfl rfl
  exact ⟨s, m', text, h, htext, htext'⟩

/-- The order does show where contracts lead outside, although their consumers differ. -/
example : outlying.Rearranged [⟨0⟩, ⟨1⟩] [⟨1⟩, ⟨0⟩] ∧
    (outlying.graph ⟨0⟩).map Graph.vertices = .ok [⟨1⟩, ⟨2⟩, ⟨0⟩] ∧
    ((outlying.setContracts ⟨0⟩ [⟨1⟩, ⟨0⟩]).graph ⟨0⟩).map Graph.vertices = .ok [⟨1⟩, ⟨0⟩, ⟨2⟩] :=
  ⟨Model.rearranged_swap [] [] (by decide), rfl, rfl⟩

end Diagram

end Landscape
