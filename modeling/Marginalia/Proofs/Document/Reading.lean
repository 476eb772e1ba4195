/-
Module: Marginalia.Proofs.Document.Reading
Purpose: What the parser makes of what it reads. Each of its functions is taken apart once, into the checks that
  a value has passed and what the value was then made of; later proofs, about documents that were read or
  that are to be read, go through these forms and never open the parser. The labels of whatever was read
  stand on spans.
Main exports: Document.parseLabel_eq_ok_iff, Document.parseReport_eq_ok_iff, Document.parse_eq_ok_iff,
  Document.readFrom, Document.readFrom_of_forall₂, Document.exists_span_of_parse
-/

import Marginalia.Document.Reports
import Marginalia.Proofs.Outcome

namespace Marginalia.Document

variable {report index : Nat} {v : Value} {items : List Value}

theorem refuse_ne_ok {α : Type} {place : DocumentPlace} {problem : DocumentProblem} {a : α} :
    refuse place problem ≠ .ok a := by
  intro same
  cases same

/-!
### One value
-/

/-- A label is read exactly if each of its members is, and is made of what these give. -/
theorem parseLabel_eq_ok_iff {label : Label} :
    parseLabel report index v = .ok label ↔
      ∃ members given priority span message source, v = .object members ∧
        member? members "span" = some given ∧
        Priority.ofValue? ((member? members "priority").getD (.text (Text.of "primary"))) = some priority ∧
        parseSpan (.span report index) given = .ok span ∧
        optionalText (.label report index) members "message" = .ok message ∧
        optionalText (.label report index) members "source" = .ok source ∧
        label = .make (.span span) message priority source := by
  cases v with
  | object members =>
      simp only [parseLabel, Value.object.injEq, exists_and_left, exists_eq_left']
      split
      next no_span => simp [refuse_ne_ok, no_span]
      next given found =>
        split
        next unknown => simp [refuse_ne_ok, unknown]
        next priority named =>
          simp only [bind_eq_ok_iff, pure_eq_ok_iff, found, named, Option.some.injEq, exists_eq_left',
            eq_comm (a := label)]
  | null | bool | int | float | text | list =>
      refine iff_of_false refuse_ne_ok ?_
      intro parts
      rcases parts with ⟨members, given, priority, span, message, source, same, -⟩
      cases same

/-- A report is read exactly if each of its members is, and is made of what these give. -/
theorem parseReport_eq_ok_iff {parsed : Report} :
    parseReport index v = .ok parsed ↔
      ∃ members message severity items code source labels help notes, v = .object members ∧
        member? members "message" = some (.text message) ∧
        Severity.ofValue? ((member? members "severity").getD (.text (Text.of "error"))) = some severity ∧
        labelItems (.report index) members = .ok items ∧
        optionalText (.report index) members "code" = .ok code ∧
        optionalText (.report index) members "source" = .ok source ∧
        parseLabels index 0 items = .ok labels ∧
        texts (.report index) members "help" = .ok help ∧
        texts (.report index) members "notes" = .ok notes ∧
        parsed = { message, severity, code, source, labels, help, notes } := by
  cases v with
  | object members =>
      simp only [parseReport, Value.object.injEq, exists_and_left, exists_eq_left']
      split
      next message found =>
        split
        next unknown => simp [refuse_ne_ok, unknown]
        next severity named =>
          simp only [bind_eq_ok_iff, pure_eq_ok_iff, found, named, Option.some.injEq, Value.text.injEq,
            exists_eq_left', eq_comm (a := parsed)]
      next no_message =>
        refine iff_of_false refuse_ne_ok ?_
        intro parts
        rcases parts with ⟨message, found, -⟩
        exact no_message message found
  | null | bool | int | float | text | list =>
      refine iff_of_false refuse_ne_ok ?_
      intro parts
      rcases parts with ⟨members, message, severity, items, code, source, labels, help, notes, same, -⟩
      cases same

/-- A document is read exactly if its body is a list of reports that can be read. -/
theorem parse_eq_ok_iff {document : Text} {doc : Value} {reports : List Report} :
    parse document doc = .ok reports ↔
      ∃ items, body doc = .list items ∧ parseReports 0 items = .ok reports := by
  rw [parse]
  split
  next items is_list => simp [mapError_eq_ok_iff, is_list]
  next no_list =>
    refine iff_of_false (fun same => by cases same) ?_
    intro listed
    rcases listed with ⟨items, is_list, -⟩
    exact no_list items is_list

/-!
### Lists of values
-/

/-- Values read in order, each under its own number, from a number on. -/
def readFrom {α : Type} (read : Nat → Value → Except DocumentCause α) (index : Nat) :
    List Value → Except DocumentCause (List α)
  | [] => .ok []
  | v :: rest => do
    let first ← read index v
    let others ← readFrom read (index + 1) rest
    return first :: others

theorem parseLabels_eq_readFrom (report index : Nat) (items : List Value) :
    parseLabels report index items = readFrom (parseLabel report) index items := by
  induction items generalizing index with
  | nil => rfl
  | cons v rest ih => rw [parseLabels, readFrom, ih]

theorem parseReports_eq_readFrom (index : Nat) (items : List Value) :
    parseReports index items = readFrom parseReport index items := by
  induction items generalizing index with
  | nil => rfl
  | cons v rest ih => rw [parseReports, readFrom, ih]

variable {α : Type} {read : Nat → Value → Except DocumentCause α} {results : List α}

/-- Everything that comes out of a list was read from one of its values. -/
theorem exists_of_mem_readFrom (parsed : readFrom read index items = .ok results) {a : α} (mem : a ∈ results) :
    ∃ v ∈ items, ∃ i, read i v = .ok a := by
  induction items generalizing index results with
  | nil =>
      cases parsed
      exact absurd mem List.not_mem_nil
  | cons v rest ih =>
      simp only [readFrom, bind_eq_ok_iff, pure_eq_ok_iff] at parsed
      rcases parsed with ⟨first, here, others, later, rfl⟩
      rcases List.mem_cons.1 mem with rfl | behind
      · exact ⟨v, List.mem_cons_self .., index, here⟩
      · rcases ih later behind with ⟨other, other_mem, i, at_other⟩
        exact ⟨other, List.mem_cons_of_mem v other_mem, i, at_other⟩

/-- Values that can each be read, whatever their number, are read as a list. -/
theorem readFrom_of_forall₂ (readable : List.Forall₂ (fun a v => ∀ i, read i v = .ok a) results items) :
    readFrom read index items = .ok results := by
  induction readable generalizing index with
  | nil => rfl
  | @cons a v results items here _ ih =>
      rw [readFrom, here, ih]
      rfl

/-!
### What was read
-/

theorem exists_span_of_parseLabel {label : Label} (parsed : parseLabel report index v = .ok label) :
    ∃ span, label.span = .span span := by
  rcases parseLabel_eq_ok_iff.1 parsed with ⟨_, _, priority, span, message, source, -, -, -, -, -, -, rfl⟩
  exact ⟨span, rfl⟩

/-- Every label of a document that was read stands on a span. -/
theorem exists_span_of_parse {document : Text} {doc : Value} {reports : List Report}
    (parsed : parse document doc = .ok reports) {one : Report} (mem : one ∈ reports) {label : Label}
    (attached : label ∈ one.labels) : ∃ span, label.span = .span span := by
  rcases parse_eq_ok_iff.1 parsed with ⟨items, -, listed⟩
  rw [parseReports_eq_readFrom] at listed
  rcases exists_of_mem_readFrom listed mem with ⟨v, -, i, read⟩
  rcases parseReport_eq_ok_iff.1 read with
    ⟨_, message, severity, values, code, source, labels, help, notes, -, -, -, -, -, -, labelled, -, -, rfl⟩
  rw [parseLabels_eq_readFrom] at labelled
  rcases exists_of_mem_readFrom labelled attached with ⟨w, -, j, read_label⟩
  exact exists_span_of_parseLabel read_label

end Marginalia.Document
