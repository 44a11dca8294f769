import Landscape.Proofs.Diagram.Edges
import Landscape.Proofs.Dot.Quoted

/-!
# The vertices of a graph, as DOT reads them

The line of a microservice declares a vertex and labels it, and both are written from its name. The vertex is declared
by the alias. An alias has no blanks, so whatever else the name holds, it is written as one identifier and read
as it was written; two microservices share a vertex of the text exactly if they share their alias
(`Landscape.Model.identifier_of_vertexLine`).

The label is the name itself, blanks included. It is shown as written, whatever quotes, backslashes and brackets there
are in it and wherever lines are broken, with one exception: a name that is a word or a numeral and then one line break
(`Landscape.Dot.endsLoose`). Such a name is not quoted, so its line break is a blank of the statement, and its word
may be one that DOT keeps (`Landscape.Model.label_of_vertexLine`, `Landscape.Model.readAttribute_ne_loose`).
-/

namespace Landscape

namespace Model

variable {m : Model}

/-- The line of a microservice. -/
theorem vertexLine_eq (r : Ref .microservice) : m.vertexLine r = '\t' ::
    (Dot.quoteId (m.vertexId r) ++ " [label=".toList ++ Dot.quoteId (m.vertexLabel r) ++ "]\n".toList) := by
  simp [vertexLine, Dot.Statement.line]

theorem endsLoose_alias (r : Ref .microservice) : Dot.endsLoose (aliasOf (m.microservice r).name).toList = false :=
  Dot.endsLoose_of_notMem (lineBreak_notMem_alias r)

/-- The label of a microservice is its name with the backslashes doubled, as far as DOT can read it. -/
theorem readAttribute_vertexLine (r : Ref .microservice) : Dot.readAttribute (m.vertexLine r) =
    if Dot.endsLoose (m.microservice r).name.toList then
      if Dot.isKeyword (m.microservice r).name.toList.dropLast then none
      else some (.text "label".toList, .text (m.microservice r).name.toList.dropLast)
    else some (.text "label".toList, .text (Dot.escapeBackslashes (m.microservice r).name.toList)) :=
  Dot.readAttribute_line _ (lineBreak_notMem_alias r)

end Model

/-- **The identifier of a vertex stands for the alias.** What is written before the label is one identifier of DOT and
never markup. Read by itself or where it stands, it is the alias with its backslashes doubled. So the lines of two
microservices declare the same vertex if and only if their names have the same alias. -/
theorem Model.identifier_of_vertexLine (m : Model) (r : Ref .microservice) :
    m.vertexLine r = '\t' ::
      (Dot.quoteId (m.vertexId r) ++ " [label=".toList ++ Dot.quoteId (m.vertexLabel r) ++ "]\n".toList) ∧
    Dot.IsIdentifier (Dot.quoteId (m.vertexId r)) ∧ (∀ t, Dot.quoteId (m.vertexId r) ≠ '<' :: t) ∧
    Dot.readId (Dot.quoteId (m.vertexId r)) =
      some (.text (Dot.escapeBackslashes (aliasOf (m.microservice r).name).toList), []) ∧
    Dot.readVertex (m.vertexLine r) =
      some (.text (Dot.escapeBackslashes (aliasOf (m.microservice r).name).toList)) ∧
    ∀ (m' : Model) (r' : Ref .microservice), Dot.readVertex (m.vertexLine r) = Dot.readVertex (m'.vertexLine r') ↔
      aliasOf (m.microservice r).name = aliasOf (m'.microservice r').name := by
  have hid : Dot.IsIdentifier (Dot.quoteId (m.vertexId r)) :=
    (Dot.isIdentifier_quoteId_iff _).mpr (endsLoose_alias r)
  have hread := Dot.readId_quoteId (r := []) (lineBreak_notMem_alias (m := m) r) nofun
  rw [List.append_nil] at hread
  refine ⟨vertexLine_eq r, hid, hid.ne_markup, hread, readVertex_vertexLine r, fun m' r' => ?_⟩
  rw [readVertex_vertexLine, readVertex_vertexLine, Option.some.injEq, Dot.Id.text.injEq]
  exact Dot.halveBackslashes_escapeBackslashes.injective.eq_iff.trans String.toList_inj

/-- **The label of a vertex shows the name**, if it is not for a loose line break. What is written after the equals
sign is one identifier of DOT, and reading it and halving its backslashes gives the name, if and only if the name is
no word or numeral with one line break at its end. If it is, then the label is read without the line
break, or not at all, since the word is a keyword. -/
theorem Model.label_of_vertexLine (m : Model) (r : Ref .microservice) :
    m.vertexLine r = '\t' ::
      (Dot.quoteId (m.vertexId r) ++ " [label=".toList ++ Dot.quoteId (m.vertexLabel r) ++ "]\n".toList) ∧
    (Dot.IsIdentifier (Dot.quoteId (m.vertexLabel r)) ↔ Dot.endsLoose (m.microservice r).name.toList = false) ∧
    ((∃ label, Dot.readAttribute (m.vertexLine r) = some (.text "label".toList, .text label) ∧
      Dot.halveBackslashes label = (m.microservice r).name.toList) ↔
        Dot.endsLoose (m.microservice r).name.toList = false) ∧
    Dot.readAttribute (m.vertexLine r) =
      if Dot.endsLoose (m.microservice r).name.toList then
        if Dot.isKeyword (m.microservice r).name.toList.dropLast then none
        else some (.text "label".toList, .text (m.microservice r).name.toList.dropLast)
      else some (.text "label".toList, .text (Dot.escapeBackslashes (m.microservice r).name.toList)) := by
  refine ⟨vertexLine_eq r, Dot.isIdentifier_quoteId_iff _, ?_, readAttribute_vertexLine r⟩
  rw [readAttribute_vertexLine]
  constructor
  · rintro ⟨label, hread, hlabel⟩
    rw [Bool.eq_false_iff]
    intro hloose
    obtain ⟨w, hname, hw, hdrop⟩ := Dot.exists_of_endsLoose hloose
    rw [if_pos hloose, hdrop] at hread
    split at hread
    · cases hread
    · cases hread
      -- the name is longer by its line break
      have hself := Dot.escapeBackslashes_of_notMem (Dot.backslash_notMem_of_isPlain hw)
      rw [← hself, Dot.halveBackslashes_escapeBackslashes, hname] at hlabel
      simp at hlabel
  · intro hloose
    rw [hloose]
    exact ⟨_, rfl, Dot.halveBackslashes_escapeBackslashes _⟩

/-- A landscape with names that end their lines, as they come from texts of several lines. -/
def looseDocument : Value :=
  .mapping [
    (.text "name", .text "S"),
    (.text "microservices", .list [
      .mapping [(.text "name", .text "Orders\n")],
      .mapping [(.text "name", .text "Node\n")]])]

/-- A label can miss a part of the name, and a name can make a text that DOT does not read. -/
theorem Model.readAttribute_ne_loose : ∃ s m', Model.load {} looseDocument = .ok (s, m') ∧
    m'.dotText s = .ok "strict digraph G \x7b\n\tOrders [label=Orders\n]\n\t\"Node\" [label=Node\n]\n\x7d\n" ∧
    (m'.microservice ⟨0⟩).name = "Orders\n" ∧
    Dot.readAttribute (m'.vertexLine ⟨0⟩) = some (.text "label".toList, .text "Orders".toList) ∧
    Dot.halveBackslashes "Orders".toList ≠ "Orders\n".toList ∧
    (m'.microservice ⟨1⟩).name = "Node\n" ∧ Dot.readAttribute (m'.vertexLine ⟨1⟩) = none := by
  obtain ⟨s, m', h, hp⟩ := Model.exists_load_of_any {} looseDocument
    (fun r => (r.2.dotText r.1).toOption =
        some "strict digraph G \x7b\n\tOrders [label=Orders\n]\n\t\"Node\" [label=Node\n]\n\x7d\n" ∧
      (r.2.microservice ⟨0⟩).name = "Orders\n" ∧
      Dot.readAttribute (r.2.vertexLine ⟨0⟩) = some (.text "label".toList, .text "Orders".toList) ∧
      (r.2.microservice ⟨1⟩).name = "Node\n" ∧ Dot.readAttribute (r.2.vertexLine ⟨1⟩) = none) (by decide +kernel)
  obtain ⟨htext, hfirst, hread, hsecond, hread'⟩ := of_decide_eq_true hp
  refine ⟨s, m', h, ?_, hfirst, hread, by decide, hsecond, hread'⟩
  cases hdot : m'.dotText s with
  | error f => simp [hdot, Except.toOption] at htext
  | ok text => simpa [hdot, Except.toOption] using htext

end Landscape
