/-
Module: Marginalia.Proofs.Document.Format
Purpose: The format of documents, and that the parser reads this format and nothing else. The format is
  stated member by member, without the order in which the parser looks at them; each function of the parser
  succeeds on exactly the values of its part of the format. A document that is not of the format is refused
  with a cause, under the name of the document, and there is no other way to fail.
Main exports: Document.SpanFormat, Document.LabelFormat, Document.ReportFormat, DocumentFormat,
  Document.succeeds_parseSpan, Document.succeeds_parseLabel, Document.succeeds_parseReport,
  Document.parse_accepts_format
-/

import Marginalia.Document.Reports
import Marginalia.Proofs.Span.Construction

namespace Marginalia

open Value

namespace Document

/-!
### The format
-/

/-- A text, or null. -/
def IsTextOrNull (v : Value) : Prop := v = .null ∨ v.IsText

/-- A list with what each of its items must keep. -/
def IsListOf (p : Value → Prop) (v : Value) : Prop := ∃ items, v = .list items ∧ ∀ item ∈ items, p item

/-- A span is an object with exactly one member: octets by start and length, a position by two numbers or by
    four, of which the last two may be null, or a search by its parts. -/
inductive SpanFormat : Value → Prop where
  | octets {start length : Value} (from_zero : start.IsIntFrom 0) (from_one : length.IsIntFrom 1) :
      SpanFormat (.object [(Text.of "byte", .list [start, length])])
  | point {line column : Value} (at_line : line.IsIntFrom 1) (at_column : column.IsIntFrom 1) :
      SpanFormat (.object [(Text.of "position", .list [line, column])])
  | stretch {line column endLine endColumn : Value} (at_line : line.IsIntFrom 1)
      (at_column : column.IsIntFrom 1)
      (stop : endLine = .null ∧ endColumn = .null ∨ endLine.IsIntFrom 1 ∧ endColumn.IsIntFrom 1) :
      SpanFormat (.object [(Text.of "position", .list [line, column, endLine, endColumn])])
  | search {parts : Members} (format : Search.Format parts) :
      SpanFormat (.object [(Text.of "search", .object parts)])

/-- The members of a label. -/
structure LabelFormat (members : Members) : Prop where
  span : Requires members "span" SpanFormat
  priority : Allows members "priority" fun v => ∃ p : Priority, v = .text p.name
  message : Allows members "message" IsTextOrNull
  source : Allows members "source" IsTextOrNull

/-- The members of a report. -/
structure ReportFormat (members : Members) : Prop where
  message : Requires members "message" IsText
  severity : Allows members "severity" fun v => ∃ s : Severity, v = .text s.name
  code : Allows members "code" IsTextOrNull
  source : Allows members "source" IsTextOrNull
  help : Allows members "help" (IsListOf IsText)
  notes : Allows members "notes" (IsListOf IsText)
  labels : Allows members "labels" (IsListOf fun v => ∃ label, v = .object label ∧ LabelFormat label)

/-- A list of reports, bare or under a key of an object. -/
inductive DocumentFormat : Value → Prop where
  | bare {items : List Value} (reports : ∀ v ∈ items, ∃ report, v = .object report ∧ ReportFormat report) :
      DocumentFormat (.list items)
  | wrapped {members : Members} {items : List Value}
      (under : Value.member? (Text.of "diagnostics") members = some (.list items))
      (reports : ∀ v ∈ items, ∃ report, v = .object report ∧ ReportFormat report) :
      DocumentFormat (.object members)

/-!
### Members
-/

variable (place : DocumentPlace) (members : Members) (key : String)

theorem succeeds_optionalText :
    Succeeds (optionalText place members key) ↔ Allows members key IsTextOrNull := by
  rw [optionalText, member?, Allows]
  cases found : Value.member? (Text.of key) members with
  | none => simp
  | some v => cases v <;> simp [IsTextOrNull, IsText, refuse]

theorem allTexts?_isSome_iff (items : List Value) :
    (allTexts? items).isSome ↔ ∀ item ∈ items, IsText item := by
  induction items with
  | nil => simp [allTexts?]
  | cons v rest ih => cases v <;> simp [allTexts?, IsText, ih]

theorem succeeds_texts : Succeeds (texts place members key) ↔ Allows members key (IsListOf IsText) := by
  rw [texts, member?, Allows]
  cases found : Value.member? (Text.of key) members with
  | none => simp
  | some v =>
      cases v with
      | list items =>
          have texts := allTexts?_isSome_iff items
          cases read : allTexts? items <;> simp_all [IsListOf, refuse]
      | null | bool | int | float | text | object => simp [IsListOf, refuse]

/-!
### Spans
-/

theorem succeeds_settleSpan (kind : Text) {α : Type} (wrap : α → Span) (outcome : Except SearchFault α) :
    Succeeds (settleSpan place kind wrap outcome) ↔ Succeeds outcome := by
  cases outcome <;> simp [settleSpan, refuse]

theorem position_ne_byte : Text.of "position" ≠ Text.of "byte" := by decide

theorem search_ne_byte : Text.of "search" ≠ Text.of "byte" := by decide

theorem search_ne_position : Text.of "search" ≠ Text.of "position" := by decide

theorem spanFormat_of_succeeds {v : Value} (parsed : Succeeds (parseSpan place v)) : SpanFormat v := by
  unfold parseSpan at parsed
  split at parsed
  next kind given =>
    simp only at parsed
    split at parsed
    next is_byte =>
      subst is_byte
      split at parsed
      next start length =>
        rw [succeeds_settleSpan, succeeds_mapError, OctetRange.succeeds_ofValues] at parsed
        exact .octets parsed.1 parsed.2
      next => simp [refuse] at parsed
    next =>
      split at parsed
      next is_position =>
        subst is_position
        split at parsed
        next line column =>
          rw [succeeds_settleSpan, succeeds_mapError, Position.succeeds_ofValues] at parsed
          exact .point parsed.1 parsed.2.1
        next line column endLine endColumn =>
          rw [succeeds_settleSpan, succeeds_mapError, Position.succeeds_ofValues] at parsed
          exact .stretch parsed.1 parsed.2.1 parsed.2.2
        next => simp [refuse] at parsed
      next =>
        split at parsed
        next is_search =>
          subst is_search
          split at parsed
          next parts =>
            rw [succeeds_settleSpan, Search.succeeds_ofMembers] at parsed
            exact .search parsed
          next => simp [refuse] at parsed
        next => simp [refuse] at parsed
  next => simp [refuse] at parsed

theorem succeeds_of_spanFormat {v : Value} (format : SpanFormat v) : Succeeds (parseSpan place v) := by
  cases format with
  | octets from_zero from_one =>
      simp only [parseSpan, if_true, succeeds_settleSpan, succeeds_mapError, OctetRange.succeeds_ofValues]
      exact ⟨from_zero, from_one⟩
  | point at_line at_column =>
      simp only [parseSpan, position_ne_byte, if_false, if_true, succeeds_settleSpan, succeeds_mapError,
        Position.succeeds_ofValues]
      exact ⟨at_line, at_column, .inl ⟨trivial, trivial⟩⟩
  | stretch at_line at_column stop =>
      simp only [parseSpan, position_ne_byte, if_false, if_true, succeeds_settleSpan, succeeds_mapError,
        Position.succeeds_ofValues]
      exact ⟨at_line, at_column, stop⟩
  | search format =>
      simp only [parseSpan, search_ne_byte, search_ne_position, if_false, if_true, succeeds_settleSpan,
        Search.succeeds_ofMembers]
      exact format

theorem succeeds_parseSpan (v : Value) : Succeeds (parseSpan place v) ↔ SpanFormat v :=
  ⟨spanFormat_of_succeeds place, succeeds_of_spanFormat place⟩

/-!
### Names
-/

/-- Among all of some named things the one of a name is found, if there is one. -/
theorem exists_find?_name_iff {α : Type} {all : List α} (complete : ∀ a, a ∈ all) (name : α → Text)
    (t : Text) :
    (∃ a, all.find? (fun a => name a = t) = some a) ↔ ∃ a, Value.text t = .text (name a) := by
  rw [← Option.isSome_iff_exists, List.find?_isSome]
  constructor
  · intro named
    rcases named with ⟨a, -, same⟩
    exact ⟨a, by rw [of_decide_eq_true same]⟩
  · intro named
    rcases named with ⟨a, same⟩
    cases same
    exact ⟨a, complete a, decide_eq_true rfl⟩

theorem exists_priority_iff (v : Value) :
    (∃ p, Priority.ofValue? v = some p) ↔ ∃ p : Priority, v = .text p.name := by
  cases v with
  | text t => exact exists_find?_name_iff (fun p => by cases p <;> simp) Priority.name t
  | null | bool | int | float | list | object => simp [Priority.ofValue?]

theorem exists_severity_iff (v : Value) :
    (∃ s, Severity.ofValue? v = some s) ↔ ∃ s : Severity, v = .text s.name := by
  cases v with
  | text t => exact exists_find?_name_iff (fun s => by cases s <;> simp) Severity.name t
  | null | bool | int | float | list | object => simp [Severity.ofValue?]

theorem exists_named_priority_iff :
    (∃ p, Priority.ofValue? ((member? members "priority").getD (.text (Text.of "primary"))) = some p) ↔
      Allows members "priority" fun v => ∃ p : Priority, v = .text p.name :=
  (exists_priority_iff _).trans
    (allows_iff_getD (p := fun v => ∃ p : Priority, v = .text p.name) ⟨.primary, rfl⟩).symm

theorem exists_named_severity_iff :
    (∃ s, Severity.ofValue? ((member? members "severity").getD (.text (Text.of "error"))) = some s) ↔
      Allows members "severity" fun v => ∃ s : Severity, v = .text s.name :=
  (exists_severity_iff _).trans
    (allows_iff_getD (p := fun v => ∃ s : Severity, v = .text s.name) ⟨.error, rfl⟩).symm

/-!
### Labels
-/

theorem not_succeeds_refuse {α : Type} (problem : DocumentProblem) :
    ¬ Succeeds (refuse place problem : Except DocumentCause α) :=
  not_succeeds_error _

theorem succeeds_parseLabel_object (report index : Nat) :
    Succeeds (parseLabel report index (.object members)) ↔ LabelFormat members := by
  rw [parseLabel]
  simp only
  split
  next no_span =>
    refine iff_of_false (not_succeeds_refuse _ _) ?_
    intro format
    have some_span := format.span.isSome
    rw [show Value.member? (Text.of "span") members = none from no_span] at some_span
    cases some_span
  next given found =>
    split
    next unknown =>
      refine iff_of_false (not_succeeds_refuse _ _) ?_
      intro format
      rcases (exists_named_priority_iff members).2 format.priority with ⟨p, named⟩
      rw [unknown] at named
      cases named
    next priority named =>
      have known := (exists_named_priority_iff members).1 ⟨priority, named⟩
      rw [succeeds_bind_and fun span => succeeds_bind_and fun message => succeeds_bind_and fun source =>
        iff_true_intro (succeeds_pure _), succeeds_parseSpan, succeeds_optionalText, succeeds_optionalText,
        and_true]
      constructor
      · intro checks
        rcases checks with ⟨span, message, source⟩
        exact ⟨⟨given, found, span⟩, known, message, source⟩
      · intro format
        rcases format.span with ⟨same, found_too, span⟩
        obtain rfl : given = same := Option.some.inj (found.symm.trans found_too)
        exact ⟨span, format.message, format.source⟩

theorem succeeds_parseLabel (report index : Nat) (v : Value) :
    Succeeds (parseLabel report index v) ↔ ∃ label, v = .object label ∧ LabelFormat label := by
  cases v with
  | object members => simp [succeeds_parseLabel_object]
  | null | bool | int | float | text | list =>
      refine iff_of_false (not_succeeds_refuse _ _) ?_
      intro is_label
      rcases is_label with ⟨label, same, -⟩
      cases same

theorem succeeds_parseLabels (report index : Nat) (items : List Value) :
    Succeeds (parseLabels report index items) ↔
      ∀ v ∈ items, ∃ label, v = .object label ∧ LabelFormat label := by
  induction items generalizing index with
  | nil => simp [parseLabels]
  | cons v rest ih =>
      rw [parseLabels, succeeds_bind_and fun label => succeeds_bind_and fun labels =>
        iff_true_intro (succeeds_pure _), succeeds_parseLabel, ih, and_true, List.forall_mem_cons]

/-!
### Reports
-/

/-- The labels of a report are read exactly if they are missing or a list of labels. -/
theorem exists_labels_iff (report : Nat) :
    (∃ items, labelItems place members = .ok items ∧ Succeeds (parseLabels report 0 items)) ↔
      Allows members "labels" (IsListOf fun v => ∃ label, v = .object label ∧ LabelFormat label) := by
  rw [labelItems, member?, Allows]
  cases found : Value.member? (Text.of "labels") members with
  | none => simp [parseLabels]
  | some v =>
      cases v with
      | list items => simp [IsListOf, succeeds_parseLabels]
      | null | bool | int | float | text | object => simp [IsListOf, refuse]

theorem succeeds_parseReport_object (index : Nat) :
    Succeeds (parseReport index (.object members)) ↔ ReportFormat members := by
  rw [parseReport]
  simp only
  split
  next message found =>
    split
    next unknown =>
      refine iff_of_false (not_succeeds_refuse _ _) ?_
      intro format
      rcases (exists_named_severity_iff members).2 format.severity with ⟨s, named⟩
      rw [unknown] at named
      cases named
    next severity named =>
      have known := (exists_named_severity_iff members).1 ⟨severity, named⟩
      -- What follows the list of labels succeeds if each of its checks does, whatever they hand on.
      have rest : ∀ items, Succeeds (do
          let code ← optionalText (.report index) members "code"
          let source ← optionalText (.report index) members "source"
          let labels ← parseLabels index 0 items
          let help ← texts (.report index) members "help"
          let notes ← texts (.report index) members "notes"
          return ({ message, severity, code, source, labels, help, notes } : Report)) ↔
          Allows members "code" IsTextOrNull ∧ Allows members "source" IsTextOrNull ∧
            Succeeds (parseLabels index 0 items) ∧ Allows members "help" (IsListOf IsText) ∧
            Allows members "notes" (IsListOf IsText) := by
        intro items
        rw [succeeds_bind_and fun code => succeeds_bind_and fun source => succeeds_bind_and fun labels =>
          succeeds_bind_and fun help => succeeds_bind_and fun notes => iff_true_intro (succeeds_pure _),
          succeeds_optionalText, succeeds_optionalText, succeeds_texts, succeeds_texts, and_true]
      simp only [succeeds_bind, rest]
      constructor
      · intro checks
        rcases checks with ⟨items, listed, code, source, labels, help, notes⟩
        exact ⟨⟨_, found, message, rfl⟩, known, code, source, help, notes,
          (exists_labels_iff (.report index) members index).1 ⟨items, listed, labels⟩⟩
      · intro format
        rcases (exists_labels_iff (.report index) members index).2 format.labels with ⟨items, listed, labels⟩
        exact ⟨items, listed, format.code, format.source, labels, format.help, format.notes⟩
  next no_message =>
    refine iff_of_false (not_succeeds_refuse _ _) ?_
    intro format
    rcases format.message with ⟨v, found, t, rfl⟩
    exact no_message t found

theorem succeeds_parseReport (index : Nat) (v : Value) :
    Succeeds (parseReport index v) ↔ ∃ report, v = .object report ∧ ReportFormat report := by
  cases v with
  | object members => simp [succeeds_parseReport_object]
  | null | bool | int | float | text | list =>
      refine iff_of_false (not_succeeds_refuse _ _) ?_
      intro is_report
      rcases is_report with ⟨report, same, -⟩
      cases same

theorem succeeds_parseReports (index : Nat) (items : List Value) :
    Succeeds (parseReports index items) ↔
      ∀ v ∈ items, ∃ report, v = .object report ∧ ReportFormat report := by
  induction items generalizing index with
  | nil => simp [parseReports]
  | cons v rest ih =>
      rw [parseReports, succeeds_bind_and fun report => succeeds_bind_and fun reports =>
        iff_true_intro (succeeds_pure _), succeeds_parseReport, ih, and_true, List.forall_mem_cons]

/-!
### Documents
-/

/-- A document is of the format exactly if its body is a list of reports. -/
theorem documentFormat_iff_body (doc : Value) :
    DocumentFormat doc ↔
      IsListOf (fun v => ∃ report, v = .object report ∧ ReportFormat report) (body doc) := by
  constructor
  · intro format
    cases format with
    | bare reports => exact ⟨_, rfl, reports⟩
    | @wrapped members items under reports =>
        refine ⟨items, ?_, reports⟩
        rw [body, member?, under, Option.getD_some]
  · intro is_list
    rcases is_list with ⟨items, is_list, reports⟩
    cases doc with
    | object members =>
        rw [body, member?] at is_list
        cases under : Value.member? (Text.of "diagnostics") members with
        | none =>
            rw [under, Option.getD_none] at is_list
            cases is_list
        | some v =>
            rw [under, Option.getD_some] at is_list
            subst is_list
            exact .wrapped under reports
    | list others =>
        cases is_list
        exact .bare reports
    | null | bool | int | float | text => cases is_list

theorem succeeds_parse (document : Text) (doc : Value) :
    Succeeds (parse document doc) ↔ DocumentFormat doc := by
  rw [documentFormat_iff_body, parse]
  split
  next items is_list =>
    rw [succeeds_mapError, succeeds_parseReports, is_list]
    constructor
    · intro reports
      exact ⟨items, rfl, reports⟩
    · intro listed
      rcases listed with ⟨others, same, reports⟩
      cases same
      exact reports
  next no_list =>
    refine iff_of_false (not_succeeds_error _) ?_
    intro listed
    rcases listed with ⟨items, is_list, -⟩
    exact no_list items is_list

/-- What is refused is refused under the name of the document. -/
theorem document_of_parse_eq_error {document : Text} {doc : Value} {fault : DocumentFault}
    (refused : parse document doc = .error fault) : fault.document = document := by
  rw [parse] at refused
  split at refused
  next items _ =>
    cases read : parseReports 0 items with
    | ok reports =>
        rw [read] at refused
        cases refused
    | error cause =>
        rw [read] at refused
        cases refused
        rfl
  next =>
    cases refused
    rfl

/-- The message of a fault starts with the name of the document. -/
theorem isPrefix_message (fault : DocumentFault) : fault.document ++ Text.of ": " <+: fault.message := by
  rw [DocumentFault.message]
  split
  · rw [List.append_assoc, List.append_assoc]
    exact List.prefix_append _ _
  · exact List.prefix_append _ _

/-- The parser reads exactly the documents of the format, and fails in exactly one way: every other document
    is refused with a cause, under the name of the document, with which the message starts. -/
theorem parse_accepts_format (document : Text) (doc : Value) :
    ((∃ reports, parse document doc = .ok reports) ↔ DocumentFormat doc) ∧
      ((∃ cause, parse document doc = .error ⟨document, cause⟩) ↔ ¬ DocumentFormat doc) ∧
      ∀ fault, parse document doc = .error fault →
        fault.document = document ∧ document ++ Text.of ": " <+: fault.message := by
  have accepts := succeeds_parse document doc
  refine ⟨accepts, ?_, ?_⟩
  · rw [← accepts]
    cases parsed : parse document doc with
    | ok reports => simp
    | error fault =>
        refine iff_of_true ?_ (not_succeeds_error fault)
        have named := document_of_parse_eq_error parsed
        exact ⟨fault.cause, by rw [← named]⟩
  · intro fault refused
    obtain rfl := document_of_parse_eq_error refused
    exact ⟨rfl, isPrefix_message fault⟩

end Document

end Marginalia
