import Landscape.Proofs.Dot.Statement
import Landscape.Proofs.Loading.Closed
import Landscape.Proofs.Text.Alias

/-!
# The edges of a graph, as DOT reads them

The DOT text of a system has a line for each vertex of its graph and then a line for each edge. Both lines are written
from the alias of a name, but not in the same way: a vertex is quoted as a whole, while a colon splits the end of an
edge into a vertex and a place on its border. So DOT reads the line of an edge as an edge between the vertices that
the text declares exactly if the names of both microservices have no colon
(`Landscape.Model.edges_of_dotText`). A microservice with a colon in its name is declared under one identifier and
joined under another (`Landscape.Model.readEdge_ne_colons`).
-/

namespace Landscape

namespace Model

variable {m : Model}

/-- The line that declares a microservice. -/
def vertexLine (m : Model) (r : Ref .microservice) : List Char :=
  (Dot.Statement.vertex (m.vertexId r) (m.vertexLabel r)).line

/-- The line of an edge. -/
def edgeLine (m : Model) (e : Ref .microservice × Ref .microservice) : List Char :=
  (Dot.Statement.edge (m.vertexId e.1) (m.vertexId e.2)).line

/-- A microservice that has a colon in its name. -/
def HasColon (m : Model) (r : Ref .microservice) : Prop :=
  ':' ∈ (m.microservice r).name.toList

/-! ### Identifiers of microservices -/

theorem lineBreak_notMem_alias (r : Ref .microservice) : '\n' ∉ (aliasOf (m.microservice r).name).toList := by
  rw [toList_aliasOf]
  exact fun h => absurd (List.mem_filter.mp h).2 (by decide)

theorem colon_mem_alias (r : Ref .microservice) : ':' ∈ (aliasOf (m.microservice r).name).toList ↔ m.HasColon r := by
  rw [toList_aliasOf, List.mem_filter, HasColon]
  exact and_iff_left (by decide)

/-- **The line of a microservice** declares its identifier. -/
theorem readVertex_vertexLine (r : Ref .microservice) :
    Dot.readVertex (m.vertexLine r) = some (.text (m.vertexId r)) :=
  Dot.readVertex_line _ (lineBreak_notMem_alias r)

/-- **The line of an edge** says what it should if and only if no colon is in the way. -/
theorem readEdge_edgeLine_iff (e : Ref .microservice × Ref .microservice) :
    Dot.readEdge (m.edgeLine e) =
        some (⟨.text (m.vertexId e.1), none, none⟩, ⟨.text (m.vertexId e.2), none, none⟩) ↔
      ¬ m.HasColon e.1 ∧ ¬ m.HasColon e.2 := by
  rw [← colon_mem_alias, ← colon_mem_alias]
  exact Dot.readEdge_line_iff (lineBreak_notMem_alias e.1) (lineBreak_notMem_alias e.2)

/-- The vertices that the line of an edge joins, however it is read. -/
theorem vertices_of_readEdge_edgeLine {e : Ref .microservice × Ref .microservice} {x y : Dot.End}
    (h : Dot.readEdge (m.edgeLine e) = some (x, y)) :
    (x.vertex = .text (m.vertexId e.1) ↔ ¬ m.HasColon e.1) ∧
      (¬ m.HasColon e.1 → (y.vertex = .text (m.vertexId e.2) ↔ ¬ m.HasColon e.2)) := by
  rw [← colon_mem_alias, ← colon_mem_alias]
  exact Dot.vertices_of_readEdge (lineBreak_notMem_alias e.1) (lineBreak_notMem_alias e.2) h

/-! ### Texts -/

theorem exists_dotText {s : Ref .system} {g : Graph (Ref .microservice)} (h : m.graph s = .ok g) :
    ∃ text, m.dotText s = .ok text := by
  rw [dotText, h]
  exact ⟨_, rfl⟩

/-- The lines of a DOT text. -/
theorem toList_of_dotText {s : Ref .system} {text : String} (h : m.dotText s = .ok text) :
    ∃ g, m.graph s = .ok g ∧ text.toList = "strict digraph G \x7b\n".toList ++
      (g.vertices.flatMap m.vertexLine ++ g.edgesByTail.flatMap m.edgeLine) ++ "\x7d\n".toList := by
  cases hg : m.graph s with
  | error f =>
    rw [dotText, hg] at h
    cases h
  | ok g =>
    rw [dotText, hg] at h
    cases h
    have hlines : (m.dotStatements g).flatMap Dot.Statement.line =
        g.vertices.flatMap m.vertexLine ++ g.edgesByTail.flatMap m.edgeLine := by
      rw [dotStatements, List.flatMap_append, List.flatMap_map, List.flatMap_map]
      rfl
    refine ⟨g, rfl, ?_⟩
    rw [← hlines]
    exact String.toList_ofList

end Model

/-- **The edges of a DOT text join the vertices it declares, unless colons are in the way.** The text has a line for
each vertex of the graph and then one for each edge, each edge once, and the ends of an edge are among the vertices.
The lines of these ends declare two identifiers. The line of the edge joins exactly these two, and names no place and
no direction, if and only if neither microservice has a colon in its name; and if it can be read at all, its tail is
the one declared exactly if the consumer has no colon, and then its head exactly if the provider has none. -/
theorem Model.edges_of_dotText {m : Model} {s : Ref .system} {text : String} (h : m.dotText s = .ok text) :
    ∃ g, m.graph s = .ok g ∧
      text.toList = "strict digraph G \x7b\n".toList ++
        (g.vertices.flatMap m.vertexLine ++ g.edgesByTail.flatMap m.edgeLine) ++ "\x7d\n".toList ∧
      g.edgesByTail.Perm g.edges ∧ g.edges.Nodup ∧
      ∀ e ∈ g.edges, e.1 ∈ g.vertices ∧ e.2 ∈ g.vertices ∧
        ∃ tail head, Dot.readVertex (m.vertexLine e.1) = some tail ∧ Dot.readVertex (m.vertexLine e.2) = some head ∧
          (Dot.readEdge (m.edgeLine e) = some (⟨tail, none, none⟩, ⟨head, none, none⟩) ↔
            ¬ m.HasColon e.1 ∧ ¬ m.HasColon e.2) ∧
          ∀ x y, Dot.readEdge (m.edgeLine e) = some (x, y) →
            (x.vertex = tail ↔ ¬ m.HasColon e.1) ∧
              (¬ m.HasColon e.1 → (y.vertex = head ↔ ¬ m.HasColon e.2)) := by
  obtain ⟨g, hg, htext⟩ := toList_of_dotText h
  have hsound := sound_of_graph hg
  refine ⟨g, hg, htext, hsound.edgesByTail_perm, hsound.edges_nodup, fun e he => ?_⟩
  exact ⟨(hsound.ends e he).1, (hsound.ends e he).2, _, _, readVertex_vertexLine e.1, readVertex_vertexLine e.2,
    readEdge_edgeLine_iff e, fun _ _ => vertices_of_readEdge_edgeLine⟩

/-- Among the twins, the edge from the consumer to its provider is read as it should be. -/
theorem Model.edges_of_dotText_twins : ∃ s m' text g e, Model.load {} twinsDocument = .ok (s, m') ∧
    m'.dotText s = .ok text ∧ m'.graph s = .ok g ∧ e ∈ g.edges ∧
    Dot.readVertex (m'.vertexLine e.1) = some (.text ['C']) ∧
    Dot.readVertex (m'.vertexLine e.2) = some (.text ['A']) ∧
    Dot.readEdge (m'.edgeLine e) = some (⟨.text ['C'], none, none⟩, ⟨.text ['A'], none, none⟩) := by
  obtain ⟨s, m', h, hp⟩ := Model.exists_load_of_any {} twinsDocument
    (fun r => (r.2.graph r.1).toOption.any fun g => g.edges.any fun e =>
      (r.2.microservice e.1).name == "C" && (r.2.microservice e.2).name == "A") (by decide +kernel)
  cases hg : m'.graph s with
  | error f => simp [hg, Except.toOption] at hp
  | ok g =>
    obtain ⟨e, he, hC, hA⟩ : ∃ e ∈ g.edges,
        (m'.microservice e.1).name = "C" ∧ (m'.microservice e.2).name = "A" := by
      simpa [hg, Except.toOption] using hp
    obtain ⟨text, htext⟩ := exists_dotText hg
    obtain ⟨g', hg', -, -, -, hedges⟩ := Model.edges_of_dotText htext
    rw [hg] at hg'
    cases hg'
    obtain ⟨-, -, tail, head, htail, hhead, hiff, -⟩ := hedges e he
    have htailId : m'.vertexId e.1 = ['C'] := by
      rw [vertexId, hC]
      decide +kernel
    have hheadId : m'.vertexId e.2 = ['A'] := by
      rw [vertexId, hA]
      decide +kernel
    rw [readVertex_vertexLine, htailId] at htail
    rw [readVertex_vertexLine, hheadId] at hhead
    cases htail
    cases hhead
    have hnone : ¬ m'.HasColon e.1 ∧ ¬ m'.HasColon e.2 := by
      rw [HasColon, HasColon, hC, hA]
      decide
    refine ⟨s, m', text, g, e, h, htext, hg, he, ?_, ?_, hiff.mpr hnone⟩
    · rw [readVertex_vertexLine, htailId]
    · rw [readVertex_vertexLine, hheadId]

/-- A landscape in which a microservice has a colon in its name. -/
def colonsDocument : Value :=
  .mapping [
    (.text "name", .text "S"),
    (.text "microservices", .list [
      .mapping [(.text "name", .text "A:B"),
        (.text "interfaces", .list [.mapping [(.text "name", .text "X")]])],
      .mapping [(.text "name", .text "C")]]),
    (.text "contracts", .list [.mapping [(.text "owner", .text "X"), (.text "consumer", .text "C")]])]

/-- An edge can miss the vertex that is declared: with a colon in the provider's name, what comes before the colon is
read as a vertex of its own, and the rest as a place on it. -/
theorem Model.readEdge_ne_colons : ∃ s m' text g e, Model.load {} colonsDocument = .ok (s, m') ∧
    m'.dotText s = .ok text ∧ m'.graph s = .ok g ∧ e ∈ g.edges ∧
    Dot.readVertex (m'.vertexLine e.2) = some (.text ['A', ':', 'B']) ∧
    Dot.readEdge (m'.edgeLine e) = some (⟨.text ['C'], none, none⟩, ⟨.text ['A'], some (.text ['B']), none⟩) := by
  obtain ⟨s, m', h, hp⟩ := Model.exists_load_of_any {} colonsDocument
    (fun r => (r.2.graph r.1).toOption.any fun g => g.edges.any fun e =>
      Dot.readVertex (r.2.vertexLine e.2) = some (.text ['A', ':', 'B']) ∧
        Dot.readEdge (r.2.edgeLine e) =
          some (⟨.text ['C'], none, none⟩, ⟨.text ['A'], some (.text ['B']), none⟩)) (by decide +kernel)
  cases hg : m'.graph s with
  | error f => simp [hg, Except.toOption] at hp
  | ok g =>
    obtain ⟨e, he, hvertex, hedge⟩ : ∃ e ∈ g.edges,
        Dot.readVertex (m'.vertexLine e.2) = some (.text ['A', ':', 'B']) ∧ Dot.readEdge (m'.edgeLine e) =
          some (⟨.text ['C'], none, none⟩, ⟨.text ['A'], some (.text ['B']), none⟩) := by
      simpa [hg, Except.toOption] using hp
    obtain ⟨text, htext⟩ := exists_dotText hg
    exact ⟨s, m', text, g, e, h, htext, hg, he, hvertex, hedge⟩

end Landscape
