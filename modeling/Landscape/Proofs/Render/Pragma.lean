import Landscape.Proofs.Export.Records
import Landscape.Proofs.Render.Course

/-!
# The line of the layout in a diagram

The archive lays diagrams out with Graphviz. Where that is missing, a line of the text asks for another layout
(`Landscape.PlantUml.withLayout`). This file says exactly which texts get the line and where, and what that comes to for
the component diagrams of the library: the line becomes the second of the text that the archive is given
(`Landscape.PlantUml.layout_once`).

A name in a diagram may hold the mark that begins diagrams. It does not matter, since a text is searched from its front,
and the text of a component diagram begins with its own mark
(`Landscape.Diagram.exists_rows_of_source`).
-/

namespace Landscape

/-! ### The first line of a diagram -/

/-- A text after a first line has that line and then its own. -/
theorem splitOn_line {line : List Char} (h : '\n' ∉ line) (rest : List Char) :
    (line ++ '\n' :: rest).splitOn '\n' = line :: rest.splitOn '\n' := by
  rw [List.splitOn_append_cons_self, List.splitOn_eq_singleton h, List.singleton_append]

/-- The mark that begins a diagram has a line of its own. -/
theorem PlantUml.toList_text_start (items : List Item) :
    (text (.start :: items)).toList = startMark.toList ++ '\n' :: (text items).toList := by
  rw [text, List.flatMap_cons, Item.lines, List.singleton_append, List.map_cons, String.toList_join, List.flatMap_cons,
    String.toList_append, text, String.toList_join, List.append_assoc]
  rfl

/-- **A component diagram begins with its mark.** -/
theorem Diagram.exists_rows_of_source {d : Diagram} {st : Studio} {text : String} (hkind : d.kind = .uml)
    (h : (d.source.run st).1 = .ok text) : ∃ rest, text.toList = PlantUml.startMark.toList ++ '\n' :: rest := by
  rw [d.run_source, textIn, hkind] at h
  obtain ⟨s, -, htext⟩ := bind_eq_ok_iff.mp h
  rw [textOf] at htext
  split at htext
  · have huml := mapError_eq_ok_iff.mp htext
    obtain ⟨items, hitems, ⟨⟩⟩ := bind_eq_ok_iff.mp huml
    rw [Model.umlItems_eq_ok hitems]
    exact ⟨_, PlantUml.toList_text_start _⟩
  · cases htext

namespace PlantUml

variable {k : Renderer} {w : Host} {text : String}

/-! ### What the archive is given -/

/-- Graphviz is **missing** for a renderer: it has not found it before, or else there is none. -/
def Renderer.LacksGraphviz (k : Renderer) (w : Host) : Prop :=
  k.graphvizThere = some false ∨ k.graphvizThere = none ∧ "dot" ∉ w.programs

theorem Renderer.layoutIn_of_lacksGraphviz (h : k.LacksGraphviz w) (text : String) :
    k.layoutIn w text = withLayout false text := by
  have hmissing : k.graphvizThere.getD (w.programs.contains "dot") = false := by
    obtain hknown | ⟨hunknown, hnone⟩ := h
    · rw [hknown, Option.getD_some]
    · rw [hunknown, Option.getD_none]
      simpa using hnone
  rw [layoutIn, hmissing]

/-- **Nothing but the text in its layout** is given to the archive. -/
theorem Renderer.input_of_run_mem {command : List String} {input : String} {timeout : Value}
    (h : .run command input timeout ∈ k.requestsIn w text) : input = k.layoutIn w text := by
  cases hS : k.settingsIn w with
  | error f =>
    simp only [requestsIn, hS] at h
    split at h
    · obtain ⟨_, ⟨⟩⟩ := exists_find_of_mem_layoutProbes h
    · cases h
  | ok S =>
    obtain ⟨probes, runs, fetches, hparts, hprobes, hcourse⟩ := exists_course hS text
    rw [hparts, List.mem_append, List.mem_append] at h
    obtain (hprobe | hrun) | hfetch := h
    · obtain ⟨_, ⟨⟩⟩ := hprobes _ hprobe
    · obtain ⟨-, rfl⟩ | ⟨-, rfl⟩ := hcourse.run
      · cases List.mem_singleton.mp hrun
        rfl
      · cases hrun
    · obtain ⟨address, -, rfl⟩ | ⟨-, rfl⟩ := hcourse.fetch
      · simp at hfetch
      · cases hfetch

/-- An archive that is run is given the text in its layout. -/
theorem Renderer.run_mem_of_runsJar {S : Settings} (hS : k.settingsIn w = .ok S) (h : k.RunsJar w S text) :
    .run (jarCommand S.jar.toString) (k.layoutIn w text) S.timeout ∈ k.requestsIn w text := by
  obtain ⟨probes, runs, fetches, hparts, -, hcourse⟩ := exists_course hS text
  obtain ⟨-, rfl⟩ | ⟨hnot, -⟩ := hcourse.run
  · rw [hparts]
    simp
  · exact absurd h hnot

/-- **The line becomes the second** of a text that begins with the mark. -/
theorem toList_withLayout_of_start {rest : List Char} (htext : text.toList = startMark.toList ++ '\n' :: rest)
    (hpragma : ¬layoutPragma.toList <:+: text.toList) :
    (withLayout false text).toList = startMark.toList ++ '\n' :: (layoutPragma.toList ++ '\n' :: rest) := by
  have hneeds : ¬NeedsNoLine false text := by
    rintro (hfalse | hasks | hstart)
    · cases hfalse
    · exact hpragma hasks
    · exact hstart ⟨[], '\n' :: rest, htext.symm⟩
  obtain ⟨before, after, ⟨heq, hfirst⟩, hput⟩ := exists_withLayout hneeds
  obtain rfl : before = [] := List.length_eq_zero_iff.mp (Nat.le_zero.mp (hfirst [] _ htext))
  rw [htext, List.nil_append, List.append_cancel_left_eq] at heq
  rw [hput, ← heq, layoutLine]
  rfl

/-! ### Every text -/

/-- **The line of the layout is put in exactly where it is needed, and once.** A text stays as it is if and only if
Graphviz is there, the text asks for the layout already, or no diagram begins in it. Otherwise the line goes after the
first mark, and nothing else changes; and a text that has gone through this stays as it is. So where Graphviz is missing,
a component diagram that does not ask for the layout itself is given to the archive with the line as its second, and all
its own lines around it. -/
theorem layout_once :
    (∀ (graphviz : Bool) (text : String),
      (withLayout graphviz text = text ↔
        graphviz = true ∨ layoutPragma.toList <:+: text.toList ∨ ¬startMark.toList <:+: text.toList) ∧
      (¬(graphviz = true ∨ layoutPragma.toList <:+: text.toList ∨ ¬startMark.toList <:+: text.toList) →
        ∃ before after, HoldsFirst startMark.toList before after text.toList ∧
          (withLayout graphviz text).toList =
            before ++ startMark.toList ++ ('\n' :: layoutPragma.toList ++ after)) ∧
      withLayout graphviz (withLayout graphviz text) = withLayout graphviz text) ∧
    ∀ (d : Diagram) (st : Studio) (text : String) (k : Renderer) (w : Host), d.kind = .uml →
      (d.source.run st).1 = .ok text → ¬layoutPragma.toList <:+: text.toList → k.LacksGraphviz w →
      ∃ piped rows asked, text.toList.splitOn '\n' = startMark.toList :: rows ∧
        piped.toList.splitOn '\n' = startMark.toList :: layoutPragma.toList :: rows ∧
        ((drawSvg text).run (k, w)).2.2.requests = w.requests ++ asked ∧
        (∀ command input timeout, .run command input timeout ∈ asked → input = piped) ∧
        ∀ S, k.settingsIn w = .ok S → k.RunsJar w S text →
          .run (jarCommand S.jar.toString) piped S.timeout ∈ asked := by
  refine ⟨fun graphviz text => ⟨withLayout_eq_self_iff, exists_withLayout, withLayout_withLayout graphviz text⟩, ?_⟩
  intro d st text k w hkind hsource hpragma hgraphviz
  obtain ⟨rest, htext⟩ := Diagram.exists_rows_of_source hkind hsource
  obtain ⟨k', w', hrun, -, hrequests, -⟩ := (findsBy_drawSvg k w text).exists_run
  have hpiped := toList_withLayout_of_start htext hpragma
  have hlayout := Renderer.layoutIn_of_lacksGraphviz hgraphviz text
  have hstart : '\n' ∉ startMark.toList := by decide
  have hline : '\n' ∉ layoutPragma.toList := by decide
  refine ⟨withLayout false text, rest.splitOn '\n', k.requestsIn w text, ?_, ?_, ?_, ?_, ?_⟩
  · rw [htext, splitOn_line hstart]
  · rw [hpiped, splitOn_line hstart, splitOn_line hline]
  · rw [hrun, hrequests]
  · intro command input timeout hmem
    rw [Renderer.input_of_run_mem hmem, hlayout]
  · intro S hS hruns
    rw [← hlayout]
    exact Renderer.run_mem_of_runsJar hS hruns

/-- A landscape of one microservice, with the mark in its name. -/
def markedDocument : Value :=
  .mapping [(.text "name", .text "S"),
    (.text "microservices", .list [.mapping [(.text "name", .text "A @startuml")]])]

/-- The lines of its component diagram after the first. -/
def markedRows : List (List Char) :=
  ["allow_mixing", "component [A @startuml] << Microservice >> as A@startuml", "@enduml", ""].map String.toList

/-- The diagram of a microservice with the mark in its name gets the line after its own mark. -/
theorem layout_once_marked : ∃ s m' text piped command timeout, Model.load {} markedDocument = .ok (s, m') ∧
    ((Diagram.umlOf s ⟨0⟩).source.run { model := m' }).1 = .ok text ∧
    .run command piped timeout ∈ ((drawSvg text).run (jarFinder, failing)).2.2.requests ∧
    piped.toList.splitOn '\n' = startMark.toList :: layoutPragma.toList :: markedRows := by
  obtain ⟨s, m', hload, hp⟩ := Model.exists_load_of_any {} markedDocument
    (fun r => (Diagram.textOf r.2 r.1 .uml).toOption.any fun text =>
      !occursIn layoutPragma.toList text.toList && !holdsHalves text &&
        text.toList.splitOn '\n' == startMark.toList :: markedRows) (by decide +kernel)
  cases htext : Diagram.textOf m' s .uml with
  | error f => simp [htext, Except.toOption] at hp
  | ok text =>
    obtain ⟨⟨hpragma, hhalves⟩, hlines⟩ : (occursIn layoutPragma.toList text.toList = false ∧
        holdsHalves text = false) ∧ text.toList.splitOn '\n' = startMark.toList :: markedRows := by
      simpa [htext, Except.toOption] using hp
    have hsource : ((Diagram.umlOf s ⟨0⟩).source.run { model := m' }).1 = .ok text := by
      rw [Diagram.source_umlOf_run, htext]
    have hnot : ¬layoutPragma.toList <:+: text.toList := by
      rw [← occursIn_iff, hpragma]
      exact Bool.false_ne_true
    obtain ⟨piped, rows, asked, hrows, hpiped, hasked, -, hruns⟩ :=
      layout_once.2 (Diagram.umlOf s ⟨0⟩) { model := m' } text jarFinder failing rfl hsource hnot
        (.inr ⟨rfl, by decide⟩)
    obtain rfl : markedRows = rows := (List.cons.inj (hlines.symm.trans hrows)).2
    have hrun := List.mem_append_right failing.requests
      (hruns (Settings.usual ⟨.single, []⟩) rfl ⟨.inl rfl, hhalves⟩)
    rw [← hasked] at hrun
    exact ⟨s, m', text, piped, _, _, hload, hsource, hrun, hpiped⟩

end PlantUml

end Landscape
