import Landscape.Proofs.Diagram.Assembly
import Landscape.Proofs.Text.Breaks

/-!
# The lines of a component diagram

Each item of a component diagram has its lines, and each signature of an interface is one of them
(`Landscape.PlantUml.Item.rows`). But names, endpoints and signatures are put into the text as they are written, and
only identifiers are free of blanks. So the text has one line break for each of its lines and one more for each that is
written in such a text (`Landscape.PlantUml.breaksIn_text`), and it consists of the lines of its items if and only if
there is none.

A break in a name can end the diagram before it has begun (`Landscape.Diagram.breaksIn_source_broken`). Without breaks,
the end of the diagram is its last line and no other, and a closing brace ends an interface and stands nowhere else
(`Landscape.Diagram.lines_of_load`).
-/

namespace Landscape

/-! ### Rows -/

namespace PlantUml

/-- The lines of signatures: one for each, and an empty one if there is none. -/
def signatureRows : List String → List String
  | [] => [""]
  | signatures => signatures

theorem breaksAmong_signatureRows (signatures : List String) :
    breaksAmong (signatureRows signatures) = breaksAmong signatures := by
  cases signatures <;> rfl

/-- The lines of an item, each signature of an interface being one. -/
def Item.rows : Item → List String
  | .interface id endpoint communicationType signatures =>
    ["interface " ++ id ++ " \x7b"] ++
      (endpoint.map ("endpoint = " ++ ·)).toList ++
      (communicationType.map ("communicationType = " ++ ·)).toList ++
      signatureRows signatures ++ ["\x7d"]
  | x => x.lines

/-- Signatures that share a line are lines of their own. -/
theorem intercalate_signatures (signatures : List String) :
    "\n".intercalate signatures ++ "\n" =
      String.join ((signatureRows signatures).map (· ++ "\n")) := by
  cases signatures with
  | nil => rfl
  | cons s ss =>
    rw [signatureRows]
    · induction ss generalizing s with
      | nil => simp
      | cons t ss ih =>
        rw [String.intercalate_cons_cons, String.append_assoc, ih]
        simp
    · simp

theorem Item.join_rows (x : Item) :
    String.join (x.rows.map (· ++ "\n")) = String.join (x.lines.map (· ++ "\n")) := by
  cases x with
  | interface id endpoint communicationType signatures =>
    have hrows := intercalate_signatures signatures
    simp only [rows, lines, List.map_append, String.join_append, ← hrows]
    simp [String.append_assoc]
  | _ => rfl

/-- **The text of some items** is that of their rows. -/
theorem text_eq_join_rows (items : List Item) :
    text items = String.join ((items.flatMap Item.rows).map (· ++ "\n")) := by
  rw [text]
  induction items with
  | nil => rfl
  | cons x items ih =>
    rw [List.flatMap_cons, List.flatMap_cons, List.map_append, List.map_append, String.join_append,
      String.join_append, ih, x.join_rows]

/-- **The line breaks of a text**: one for each row, and those that are written in the rows. -/
theorem breaksIn_text (items : List Item) : breaksIn (text items) =
    (items.flatMap Item.rows).length + ((items.flatMap Item.rows).map breaksIn).sum := by
  rw [text_eq_join_rows, breaksIn_lines, breaksAmong]

/-- Whether an item is an interface. -/
def Item.isInterface : Item → Bool
  | .interface .. => true
  | _ => false

/-- **What closes an item**: an interface ends with a closing brace, and no other row is one; nothing but the end of the
diagram looks like it. -/
structure Item.Framed (x : Item) : Prop where
  brace : ∃ body, "\x7d" ∉ body ∧ x.rows = if x.isInterface then body ++ ["\x7d"] else body
  finish : "@enduml" ∈ x.rows → x = .finish

/-- A row that closes nothing. -/
def IsPlain (row : String) : Prop :=
  row ≠ "\x7d" ∧ row ≠ "@enduml"

/-- A row with a blank in it closes nothing. -/
theorem isPlain_of_blank {row : String} (h : ' ' ∈ row.toList) : IsPlain row := by
  constructor
  · rintro rfl
    exact absurd h (by decide)
  · rintro rfl
    exact absurd h (by decide)

theorem isPlain_empty : IsPlain "" := by
  constructor <;> decide

/-- An item whose rows are plain, but for the brace of an interface. -/
theorem Item.framed_of_isPlain {x : Item} (body : List String) (hbody : ∀ row ∈ body, IsPlain row)
    (h : x.rows = if x.isInterface then body ++ ["\x7d"] else body) : x.Framed := by
  refine ⟨⟨body, fun hmem => (hbody _ hmem).1 rfl, h⟩, fun hmem => ?_⟩
  have hnot : "@enduml" ∉ body := fun hmem => (hbody _ hmem).2 rfl
  rw [h] at hmem
  split at hmem
  · obtain hmem | hmem := List.mem_append.mp hmem
    · exact absurd hmem hnot
    · exact absurd (List.mem_singleton.mp hmem) (by decide)
  · exact absurd hmem hnot

end PlantUml

namespace Model

variable {m : Model} {s : Ref .system}

/-! ### What the diagram of a system shows -/

/-- What an operation returns, as it is written, if it returns anything. -/
def shownResult? (m : Model) (r : Ref .operation) : Option String :=
  match (m.operation r).returnValue with
  | .null => none
  | v => some v.display

/-- The texts that a signature shows as they are written. -/
def textsOfSignature (m : Model) (r : Ref .operation) : List String :=
  (m.shownResult? r).toList ++ (m.operation r).name :: (m.operation r).parameters.flatMap fun p =>
    (m.parameter p).name :: (display? (m.parameter p).type).toList

theorem signature_eq (r : Ref .operation) : m.signature r =
    (m.shownResult? r).getD "void" ++ " " ++ (m.operation r).name ++ "(" ++
      ", ".intercalate ((m.operation r).parameters.map m.parameterText) ++ ")" := by
  rw [signature, shownResult?]
  cases (m.operation r).returnValue <;> rfl

/-- The texts that an interface shows as they are written. -/
def textsOfInterface (m : Model) (r : Ref .interface) : List String :=
  (display? (m.interface r).endpoint).toList ++ (display? (m.interface r).communicationType).toList ++
    (m.interface r).operations.flatMap m.textsOfSignature

/-- **The texts that the component diagram of a system shows as they are written.** -/
def shownTexts (m : Model) (s : Ref .system) : List String :=
  (m.system s).microservices.flatMap fun r =>
    (m.microservice r).name :: (m.microservice r).interfaces.flatMap m.textsOfInterface

theorem breaksIn_parameterText (p : Ref .parameter) : breaksIn (m.parameterText p) =
    breaksAmong ((m.parameter p).name :: (display? (m.parameter p).type).toList) := by
  rw [parameterText, display?]
  split
  · have hcolon : breaksIn " : " = 0 := by decide
    simp [hcolon]
  · have hblank : breaksIn " " = 0 := by decide
    simp [hblank]

/-- A signature has the breaks of the texts it shows. -/
theorem breaksIn_signature (r : Ref .operation) :
    breaksIn (m.signature r) = breaksAmong (m.textsOfSignature r) := by
  have hmarks : breaksIn " " = 0 ∧ breaksIn "(" = 0 ∧ breaksIn ")" = 0 ∧ breaksIn ", " = 0 ∧ breaksIn "void" = 0 := by
    decide
  obtain ⟨hblank, hopen, hclose, hcomma, hvoid⟩ := hmarks
  have hparameters : breaksIn (", ".intercalate ((m.operation r).parameters.map m.parameterText)) =
      breaksAmong ((m.operation r).parameters.flatMap fun p =>
        (m.parameter p).name :: (display? (m.parameter p).type).toList) := by
    rw [breaksIn_intercalate hcomma, ← breaksAmong]
    induction (m.operation r).parameters with
    | nil => rfl
    | cons p ps ih => rw [List.map_cons, breaksAmong_cons, List.flatMap_cons, breaksAmong_append, ih,
        breaksIn_parameterText]
  have hresult : breaksIn ((m.shownResult? r).getD "void") = breaksAmong (m.shownResult? r).toList := by
    cases m.shownResult? r <;> simp [hvoid]
  simp only [signature_eq, textsOfSignature, breaksIn_append, breaksAmong_append, breaksAmong_cons, hresult,
    hparameters, hblank, hopen, hclose]
  omega

/-! ### What the rows of a system hold -/

/-- The rows of an interface have the breaks of the texts it shows. -/
theorem breaksAmong_rows_interfaceItem (i : Ref .interface) :
    breaksAmong (m.interfaceItem i).rows = breaksAmong (m.textsOfInterface i) := by
  have hmarks : breaksIn "interface " = 0 ∧ breaksIn " \x7b" = 0 ∧ breaksIn "\x7d" = 0 ∧ breaksIn "endpoint = " = 0 ∧
      breaksIn "communicationType = " = 0 := by decide
  obtain ⟨hinterface, hopen, hclose, hendpoint, htype⟩ := hmarks
  have hsignatures : breaksAmong (PlantUml.signatureRows ((m.interface i).operations.map m.signature)) =
      breaksAmong ((m.interface i).operations.flatMap m.textsOfSignature) := by
    rw [PlantUml.breaksAmong_signatureRows]
    induction (m.interface i).operations with
    | nil => rfl
    | cons o os ih =>
      rw [List.map_cons, breaksAmong_cons, List.flatMap_cons, breaksAmong_append, ih, breaksIn_signature]
  have hid := breaksIn_aliasOf (m.interface i).name
  simp only [interfaceItem, PlantUml.Item.rows, textsOfInterface, breaksAmong_append, hsignatures]
  cases display? (m.interface i).endpoint <;> cases display? (m.interface i).communicationType <;>
    simp [hid, hinterface, hopen, hclose, hendpoint, htype]

/-- The rows of a microservice have the breaks of the texts it shows. -/
theorem breaksAmong_rows_microserviceItems (r : Ref .microservice) :
    breaksAmong ((m.microserviceItems r).flatMap PlantUml.Item.rows) =
      breaksAmong ((m.microservice r).name :: (m.microservice r).interfaces.flatMap m.textsOfInterface) := by
  have hmarks : breaksIn "component [" = 0 ∧ breaksIn "] << Microservice >> as " = 0 ∧ breaksIn " ..|>  " = 0 := by
    decide
  obtain ⟨hcomponent, has, harrow⟩ := hmarks
  have hid := breaksIn_aliasOf (m.microservice r).name
  have hinterfaces : breaksAmong (((m.microservice r).interfaces.map m.interfaceItem).flatMap PlantUml.Item.rows) =
      breaksAmong ((m.microservice r).interfaces.flatMap m.textsOfInterface) := by
    rw [List.flatMap_map]
    exact breaksAmong_flatMap_congr breaksAmong_rows_interfaceItem _
  have harrows : breaksAmong (((m.microservice r).interfaces.map fun i => PlantUml.Item.realization
      (aliasOf (m.microservice r).name) (aliasOf (m.interface i).name)).flatMap PlantUml.Item.rows) = 0 := by
    rw [List.flatMap_map]
    refine breaksAmong_flatMap_of_zero (fun i => ?_) _
    simp [PlantUml.Item.rows, PlantUml.Item.lines, hid, breaksIn_aliasOf, harrow]
  rw [microserviceItems_eq, declarations, List.flatMap_append, breaksAmong_append, harrows, List.flatMap_cons,
    breaksAmong_append, hinterfaces]
  simp [PlantUml.Item.rows, PlantUml.Item.lines, hid, hcomponent, has]

/-- The row of a contract has no breaks. -/
theorem breaksAmong_rows_contractItem (c : Ref .contract) : breaksAmong (m.contractItem c).rows = 0 := by
  have hmarks : breaksIn " ..> " = 0 ∧ breaksIn " : uses >" = 0 := by decide
  obtain ⟨harrow, huses⟩ := hmarks
  simp [contractItem, PlantUml.Item.rows, PlantUml.Item.lines, breaksIn_aliasOf, harrow, huses]

/-- **The breaks in the rows of a system** are those in the texts it shows. -/
theorem breaksAmong_rows {items : List PlantUml.Item} (h : m.umlItems s = .ok items) :
    breaksAmong (items.flatMap PlantUml.Item.rows) = breaksAmong (m.shownTexts s) := by
  have hmarks : breaksIn "@startuml" = 0 ∧ breaksIn "allow_mixing" = 0 ∧ breaksIn "@enduml" = 0 := by decide
  obtain ⟨hstart, hmixing, hfinish⟩ := hmarks
  rw [umlItems_eq_ok h, List.flatMap_append, List.flatMap_append, List.flatMap_append, List.flatMap_assoc,
    List.flatMap_map, breaksAmong_append, breaksAmong_append, breaksAmong_append,
    breaksAmong_flatMap_congr breaksAmong_rows_microserviceItems,
    breaksAmong_flatMap_of_zero breaksAmong_rows_contractItem, shownTexts]
  simp [PlantUml.Item.rows, PlantUml.Item.lines, hstart, hmixing, hfinish]

/-! ### How many rows a system has -/

/-- How many lines an interface takes: where it begins and where it ends, the arrow to it, what is known of its endpoint
and its communication type, and its signatures, for which there is at least one. -/
def linesOfInterface (m : Model) (i : Ref .interface) : Nat :=
  3 + (if (m.interface i).endpoint.isTruthy then 1 else 0) +
    (if (m.interface i).communicationType.isTruthy then 1 else 0) + max 1 (m.interface i).operations.length

/-- **How many lines the layout of a system takes**: three for the frame, one for each contract, one for each
microservice, and those of the interfaces. -/
def linesOfLayout (m : Model) (s : Ref .system) : Nat :=
  3 + (m.system s).contracts.length + (m.system s).microservices.length +
    ((m.providedInterfaces s).map m.linesOfInterface).sum

theorem length_rows_interfaceItem (i : Ref .interface) :
    (m.interfaceItem i).rows.length + 1 = m.linesOfInterface i := by
  have hsignatures : (PlantUml.signatureRows ((m.interface i).operations.map m.signature)).length =
      max 1 (m.interface i).operations.length := by
    cases (m.interface i).operations with
    | nil => rfl
    | cons o os => simp [PlantUml.signatureRows]
  have hshown (v : Value) (mark : String) : ((display? v).map (mark ++ ·)).toList.length =
      if v.isTruthy then 1 else 0 := by
    rw [display?]
    split <;> rfl
  simp only [interfaceItem, PlantUml.Item.rows, linesOfInterface, List.length_append, hsignatures, hshown,
    List.length_singleton]
  omega

theorem length_rows_microserviceItems (r : Ref .microservice) :
    ((m.microserviceItems r).flatMap PlantUml.Item.rows).length =
      1 + ((m.microservice r).interfaces.map m.linesOfInterface).sum := by
  -- an interface takes a line more than its rows, for the arrow to it
  have hinterfaces (is : List (Ref .interface)) :
      (is.flatMap fun i => (m.interfaceItem i).rows).length + is.length = (is.map m.linesOfInterface).sum := by
    induction is with
    | nil => rfl
    | cons i is ih =>
      rw [List.flatMap_cons, List.length_append, List.length_cons, List.map_cons, List.sum_cons, ← ih,
        ← length_rows_interfaceItem]
      omega
  rw [← hinterfaces, microserviceItems_eq, declarations, List.flatMap_append, List.flatMap_cons, List.flatMap_map,
    List.flatMap_map]
  simp [PlantUml.Item.rows, PlantUml.Item.lines]
  omega

/-- **The rows of a system** are as many as its layout takes. -/
theorem length_rows {items : List PlantUml.Item} (h : m.umlItems s = .ok items) :
    (items.flatMap PlantUml.Item.rows).length = m.linesOfLayout s := by
  have hservices (rs : List (Ref .microservice)) :
      ((rs.flatMap m.microserviceItems).flatMap PlantUml.Item.rows).length =
        rs.length + ((rs.flatMap fun r => (m.microservice r).interfaces).map m.linesOfInterface).sum := by
    induction rs with
    | nil => rfl
    | cons r rs ih =>
      rw [List.flatMap_cons, List.flatMap_append, List.length_append, ih, length_rows_microserviceItems,
        List.flatMap_cons, List.map_append, List.sum_append, List.length_cons]
      omega
  have hcontracts (cs : List (Ref .contract)) :
      ((cs.map m.contractItem).flatMap PlantUml.Item.rows).length = cs.length := by
    induction cs with
    | nil => rfl
    | cons c cs ih =>
      rw [List.map_cons, List.flatMap_cons, List.length_append, ih, List.length_cons, Nat.add_comm]
      rfl
  rw [umlItems_eq_ok h, List.flatMap_append, List.flatMap_append, List.flatMap_append, List.length_append,
    List.length_append, List.length_append, hservices, hcontracts, linesOfLayout, providedInterfaces]
  simp [PlantUml.Item.rows, PlantUml.Item.lines]
  omega

/-! ### What closes the items of a system -/

theorem isPlain_signature (r : Ref .operation) : PlantUml.IsPlain (m.signature r) := by
  refine PlantUml.isPlain_of_blank ?_
  rw [signature_eq]
  simp

theorem framed_interfaceItem (i : Ref .interface) : (m.interfaceItem i).Framed := by
  refine PlantUml.Item.framed_of_isPlain (["interface " ++ aliasOf (m.interface i).name ++ " \x7b"] ++
    ((display? (m.interface i).endpoint).map ("endpoint = " ++ ·)).toList ++
    ((display? (m.interface i).communicationType).map ("communicationType = " ++ ·)).toList ++
    PlantUml.signatureRows ((m.interface i).operations.map m.signature)) (fun row hrow => ?_) rfl
  have hmarked (shown : Option String) (mark : String) (hmark : ' ' ∈ mark.toList)
      (h : row ∈ (shown.map (mark ++ ·)).toList) : PlantUml.IsPlain row := by
    obtain ⟨text, -, rfl⟩ := Option.map_eq_some_iff.mp (Option.mem_toList.mp h)
    refine PlantUml.isPlain_of_blank ?_
    rw [String.toList_append]
    exact List.mem_append_left _ hmark
  simp only [List.mem_append] at hrow
  obtain ((hopening | hendpoint) | htype) | hsignature := hrow
  · rw [List.mem_singleton.mp hopening]
    exact PlantUml.isPlain_of_blank (by simp)
  · exact hmarked _ _ (by decide) hendpoint
  · exact hmarked _ _ (by decide) htype
  · -- an interface without operations has an empty row in the place of signatures
    cases hos : (m.interface i).operations with
    | nil =>
      rw [hos] at hsignature
      rw [List.mem_singleton.mp hsignature]
      exact PlantUml.isPlain_empty
    | cons o os =>
      rw [hos] at hsignature
      obtain ⟨o', -, rfl⟩ := List.mem_map.mp (show row ∈ (o :: os).map m.signature from hsignature)
      exact isPlain_signature o'

/-- **Every item of a system is framed.** -/
theorem framed_of_mem_umlItems {items : List PlantUml.Item} (h : m.umlItems s = .ok items) {x : PlantUml.Item}
    (hx : x ∈ items) : x.Framed := by
  have hrow (x : PlantUml.Item) (row : String) (hplain : PlantUml.IsPlain row) (hother : x.isInterface = false)
      (hrows : x.rows = [row]) : x.Framed := by
    refine PlantUml.Item.framed_of_isPlain [row] ?_ (by rw [hrows, hother]; rfl)
    simpa using hplain
  rw [umlItems_eq_ok h] at hx
  simp only [List.mem_append, List.mem_cons, List.not_mem_nil, or_false, List.mem_flatMap, List.mem_map] at hx
  obtain (((rfl | rfl) | ⟨r, -, hx⟩) | ⟨c, -, rfl⟩) | rfl := hx
  · exact hrow _ _ (by constructor <;> decide) rfl rfl
  · exact hrow _ _ (by constructor <;> decide) rfl rfl
  · rw [microserviceItems_eq, declarations] at hx
    simp only [List.mem_append, List.mem_cons, List.mem_map] at hx
    obtain (rfl | ⟨i, -, rfl⟩) | ⟨i, -, rfl⟩ := hx
    · exact hrow _ _ (PlantUml.isPlain_of_blank (by simp)) rfl rfl
    · exact framed_interfaceItem i
    · exact hrow _ _ (PlantUml.isPlain_of_blank (by simp)) rfl rfl
  · exact hrow _ _ (PlantUml.isPlain_of_blank (by simp)) rfl rfl
  · -- the end of the diagram is the one item whose row is not plain
    exact ⟨⟨["@enduml"], by decide, rfl⟩, fun _ => rfl⟩

/-- The end of a diagram is the last of its items, and no other. -/
theorem exists_init_of_umlItems {items : List PlantUml.Item} (h : m.umlItems s = .ok items) :
    ∃ init, items = init ++ [.finish] ∧ .finish ∉ init := by
  refine ⟨_, umlItems_eq_ok h, ?_⟩
  simp [microserviceItems, interfaceItem, contractItem]

/-- The last row of a diagram is its end, and no other is. -/
theorem exists_rows_eq {items : List PlantUml.Item} (h : m.umlItems s = .ok items) :
    ∃ rows, items.flatMap PlantUml.Item.rows = rows ++ ["@enduml"] ∧ "@enduml" ∉ rows := by
  obtain ⟨init, rfl, hfinish⟩ := exists_init_of_umlItems h
  refine ⟨init.flatMap PlantUml.Item.rows, List.flatMap_append, fun hmem => ?_⟩
  obtain ⟨x, hx, hrow⟩ := List.mem_flatMap.mp hmem
  rw [(framed_of_mem_umlItems h (List.mem_append_left _ hx)).finish hrow] at hx
  exact hfinish hx

end Model

/-- **The lines of a component diagram.** A loaded system has its text, unless a value in it is too long to be written.
The text has one line break for each line of the layout and besides those that the texts it shows hold. So it has as
many as the layout has lines if and only if none of these texts holds one. It then consists of the rows of its items:
the end of the diagram is the last and no other, and a closing brace stands only at the end of an interface. -/
theorem Diagram.lines_of_load {m m' : Model} {document : Value} {s : Ref .system}
    (h : m.load document = .ok (s, m')) (r : RendererRef) (st : Studio) :
    ∃ items, m'.umlItems s = .ok items ∧
      ((umlOf s r).source.run { st with model := m' }).1 =
        (if m'.isWritable s then .ok (PlantUml.text items) else .error .longNumber) ∧
      breaksIn (PlantUml.text items) = m'.linesOfLayout s + breaksAmong (m'.shownTexts s) ∧
      (breaksIn (PlantUml.text items) = m'.linesOfLayout s ↔ ∀ t ∈ m'.shownTexts s, '\n' ∉ t.toList) ∧
      ((∀ t ∈ m'.shownTexts s, '\n' ∉ t.toList) →
        (PlantUml.text items).toList.splitOn '\n' =
          (items.flatMap PlantUml.Item.rows).map String.toList ++ [[]] ∧
        (∃ rows, items.flatMap PlantUml.Item.rows = rows ++ ["@enduml"] ∧ "@enduml" ∉ rows) ∧
        ∀ x ∈ items, ∃ body, "\x7d" ∉ body ∧ x.rows = if x.isInterface then body ++ ["\x7d"] else body) := by
  have hitems := (Model.loaded_of_load h).closed.umlItems_eq
  -- the items are given from here on by what they were made from
  generalize [PlantUml.Item.start, .allowMixing] ++ _ ++ _ ++ _ = items at hitems
  have hbreaks : breaksIn (PlantUml.text items) = m'.linesOfLayout s + breaksAmong (m'.shownTexts s) := by
    rw [PlantUml.breaksIn_text, Model.length_rows hitems, ← breaksAmong, Model.breaksAmong_rows hitems]
  have hnone : breaksAmong (m'.shownTexts s) = 0 ↔ ∀ t ∈ m'.shownTexts s, '\n' ∉ t.toList := by
    simp only [breaksAmong_eq_zero_iff, breaksIn_eq_zero_iff]
  refine ⟨items, hitems, ?_, hbreaks, ?_, fun hshown => ⟨?_, Model.exists_rows_eq hitems, fun x hx => ?_⟩⟩
  · rw [source_umlOf_run, textOf, Model.umlText, hitems]
    rfl
  · rw [hbreaks, ← hnone]
    omega
  · have hrows : breaksAmong (items.flatMap PlantUml.Item.rows) = 0 := by
      rw [Model.breaksAmong_rows hitems, hnone]
      exact hshown
    rw [PlantUml.text_eq_join_rows, splitOn_join_lines (breaksAmong_eq_zero_iff.mp hrows)]
  · exact (Model.framed_of_mem_umlItems hitems hx).brace

/-- A landscape with an interface of two operations, and a contract. -/
def shopDocument : Value :=
  .mapping [
    (.text "name", .text "Shop"),
    (.text "microservices", .list [
      .mapping [(.text "name", .text "My Orders"),
        (.text "interfaces", .list [
          .mapping [(.text "name", .text "Api"), (.text "endpoint", .text "/api"),
            (.text "operations", .list [
              .mapping [(.text "name", .text "list")],
              .mapping [(.text "name", .text "find"), (.text "returns", .text "Order")]])]])],
      .mapping [(.text "name", .text "Web")]]),
    (.text "contracts", .list [.mapping [(.text "owner", .text "Api"), (.text "consumer", .text "Web")]])]

/-- The diagram of the shop has twelve lines. -/
theorem Diagram.lines_of_load_shop : ∃ s m' items, Model.load {} shopDocument = .ok (s, m') ∧
    (∀ t ∈ m'.shownTexts s, '\n' ∉ t.toList) ∧ m'.umlItems s = .ok items ∧
    breaksIn (PlantUml.text items) = 12 ∧
    ∃ rows, items.flatMap PlantUml.Item.rows = rows ++ ["@enduml"] ∧ "@enduml" ∉ rows := by
  obtain ⟨s, m', h, hp⟩ := Model.exists_load_of_any {} shopDocument
    (fun r => (r.2.shownTexts r.1).all (fun t => '\n' ∉ t.toList) && r.2.linesOfLayout r.1 == 12) (by decide +kernel)
  obtain ⟨hshown, hlines⟩ : (∀ t ∈ m'.shownTexts s, '\n' ∉ t.toList) ∧ m'.linesOfLayout s = 12 := by
    simpa using hp
  obtain ⟨items, hitems, -, -, hiff, hlast⟩ := Diagram.lines_of_load h ⟨0⟩ {}
  exact ⟨s, m', items, h, hshown, hitems, (hiff.mpr hshown).trans hlines, (hlast hshown).2.1⟩

/-- A landscape of one microservice, with a name of three lines. -/
def brokenDocument : Value :=
  .mapping [(.text "name", .text "S"),
    (.text "microservices", .list [.mapping [(.text "name", .text "A\n@enduml\nB")]])]

/-- **A name can break the lines of a diagram**: it is loaded, its diagram has a text with more line breaks than its
layout has lines, and the end of the diagram stands in the text twice. -/
theorem Diagram.breaksIn_source_broken : ∃ s m' text, Model.load {} brokenDocument = .ok (s, m') ∧
    ((umlOf s ⟨0⟩).source.run { model := m' }).1 = .ok text ∧ m'.linesOfLayout s = 4 ∧ breaksIn text = 6 ∧
    (text.toList.splitOn '\n').count "@enduml".toList = 2 := by
  obtain ⟨s, m', h, hp⟩ := Model.exists_load_of_any {} brokenDocument
    (fun r => r.2.linesOfLayout r.1 == 4 && (textOf r.2 r.1 .uml).toOption.any fun text =>
      breaksIn text == 6 && (text.toList.splitOn '\n').count "@enduml".toList == 2) (by decide +kernel)
  cases htext : textOf m' s .uml with
  | error f => simp [htext, Except.toOption] at hp
  | ok text =>
    obtain ⟨hlines, hbreaks, hcount⟩ : m'.linesOfLayout s = 4 ∧ breaksIn text = 6 ∧
        (text.toList.splitOn '\n').count "@enduml".toList = 2 := by
      simpa [htext, Except.toOption] using hp
    exact ⟨s, m', text, h, by rw [source_umlOf_run, htext], hlines, hbreaks, hcount⟩

end Landscape
