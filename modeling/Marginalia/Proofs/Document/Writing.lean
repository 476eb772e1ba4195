/-
Module: Marginalia.Proofs.Document.Writing
Purpose: Reports written as documents. What it means that a value writes a report is stated member by member, in
  whatever order the members come: a default may be written out or left out, each on its own, and a missing
  text may also be null. Every list of reports on spans can be written, in full or briefly, and whatever
  writes them is read back as these very reports.
Main exports: Document.Writes, Document.SpanWritten, Document.LabelWritten, Document.ReportWritten,
  Document.Written, Report.written, Document.parse_written
-/

import Marginalia.Proofs.Document.Reading
import Marginalia.Proofs.Span.Construction
import Marginalia.Proofs.Text.Numerals

namespace Marginalia

namespace Document

/-!
### Writing
-/

/-- A member that holds what it should, or that is left out where it stands for its default. -/
def Writes (members : Members) (key : String) (isDefault : Prop) (p : Value → Prop) : Prop :=
  match member? members key with
  | some v => p v
  | none => isDefault

/-- A text that may be missing, which null stands for. -/
def textOrNull : Option Text → Value
  | some t => .text t
  | none => .null

/-- Texts as a list of values. -/
def textList (texts : List Text) : Value := .list (texts.map .text)

/-- A span is an object with one member: a range of octets by its start and length, a point by line and column,
    a stretch by its four numbers, and a search by its parts, of which those that are one may be missing. -/
inductive SpanWritten : Span → Value → Prop where
  | octets (r : OctetRange) :
      SpanWritten (.octets r) (.object [(Text.of "byte", .list [.int r.start, .int r.length])])
  | point (start : Cell) :
      SpanWritten (.position (.point start))
        (.object [(Text.of "position", .list [.int start.line, .int start.column])])
  | stretch (start stop : Cell) :
      SpanWritten (.position (.between start stop))
        (.object [(Text.of "position",
          .list [.int start.line, .int start.column, .int stop.line, .int stop.column])])
  | search (s : Search) {parts : Members}
      (known : ∀ entry ∈ parts,
        entry.1 ∈ [Text.of "line", Text.of "pattern", Text.of "after_column", Text.of "max_lines"])
      (line : member? parts "line" = some (.int s.line))
      (pattern : member? parts "pattern" = some (.text s.pattern))
      (afterColumn : Writes parts "after_column" (s.afterColumn = 1) (· = .int s.afterColumn))
      (maxLines : Writes parts "max_lines" (s.maxLines = 1) (· = .int s.maxLines)) :
      SpanWritten (.search s) (.object [(Text.of "search", .object parts)])

/-- The members of an object that writes a label. -/
structure LabelWritten (label : Label) (members : Members) : Prop where
  span : ∃ span v, label.span = .span span ∧ member? members "span" = some v ∧ SpanWritten span v
  priority : Writes members "priority" (label.priority = .primary) (· = .text label.priority.name)
  message : Writes members "message" (label.message = none) (· = textOrNull label.message)
  source : Writes members "source" (label.source = none) (· = textOrNull label.source)

/-- Objects that write labels, in order. -/
def LabelsWritten (labels : List Label) (items : List Value) : Prop :=
  List.Forall₂ (fun label v => ∃ members, v = .object members ∧ LabelWritten label members) labels items

/-- The members of an object that writes a report. -/
structure ReportWritten (report : Report) (members : Members) : Prop where
  message : member? members "message" = some (.text report.message)
  severity : Writes members "severity" (report.severity = .error) (· = .text report.severity.name)
  code : Writes members "code" (report.code = none) (· = textOrNull report.code)
  source : Writes members "source" (report.source = none) (· = textOrNull report.source)
  labels : Writes members "labels" (report.labels = []) fun v =>
    ∃ items, v = .list items ∧ LabelsWritten report.labels items
  help : Writes members "help" (report.help = []) (· = textList report.help)
  notes : Writes members "notes" (report.notes = []) (· = textList report.notes)

/-- Objects that write reports, in order. -/
def Written (reports : List Report) (items : List Value) : Prop :=
  List.Forall₂ (fun report v => ∃ members, v = .object members ∧ ReportWritten report members) reports items

/-!
### Reading what was written
-/

variable {members : Members} {key : String}

/-- What is left out is read as its default. -/
theorem getD_of_writes {isDefault : Prop} {written : Value} (default : Value) (same : isDefault → default = written)
    (writes : Writes members key isDefault (· = written)) : (member? members key).getD default = written := by
  rw [Writes] at writes
  split at writes
  next v found => rw [found, Option.getD_some, writes]
  next missing => rw [missing, Option.getD_none, same writes]

theorem optionalText_of_writes {place : DocumentPlace} {t : Option Text}
    (writes : Writes members key (t = none) (· = textOrNull t)) : optionalText place members key = .ok t := by
  rw [Writes] at writes
  rw [optionalText]
  cases found : member? members key with
  | none =>
      simp only [found] at writes
      rw [writes]
  | some v =>
      simp only [found] at writes
      rw [writes]
      cases t <;> rfl

theorem allTexts?_map_text (ts : List Text) : allTexts? (ts.map .text) = some ts := by
  induction ts with
  | nil => rfl
  | cons t rest ih => rw [List.map_cons, allTexts?, ih, Option.map_some]

theorem texts_of_writes {place : DocumentPlace} {ts : List Text}
    (writes : Writes members key (ts = []) (· = textList ts)) : texts place members key = .ok ts := by
  rw [Writes] at writes
  rw [texts]
  cases found : member? members key with
  | none =>
      simp only [found] at writes
      rw [writes]
  | some v =>
      simp only [found] at writes
      rw [writes, textList]
      simp only [allTexts?_map_text]

/-- A search is read back from its parts. -/
theorem ofMembers_of_written {s : Search} {parts : Members}
    (known : ∀ entry ∈ parts,
      entry.1 ∈ [Text.of "line", Text.of "pattern", Text.of "after_column", Text.of "max_lines"])
    (line : member? parts "line" = some (.int s.line))
    (pattern : member? parts "pattern" = some (.text s.pattern))
    (afterColumn : Writes parts "after_column" (s.afterColumn = 1) (· = .int s.afterColumn))
    (maxLines : Writes parts "max_lines" (s.maxLines = 1) (· = .int s.maxLines)) :
    Search.ofMembers SpanField.check parts = .ok s := by
  have column := getD_of_writes (.int 1) (fun one => by rw [one]; rfl) afterColumn
  have count := getD_of_writes (.int 1) (fun one => by rw [one]; rfl) maxLines
  rw [member?] at line pattern column count
  have fine := (Search.partsFault?_eq_none_iff parts).2
    ⟨known, by rw [line, Option.isSome_some], by rw [pattern, Option.isSome_some]⟩
  rw [Search.ofMembers_of_partsFault?_eq_none fine, line, pattern, column, count, Option.getD_some,
    Option.getD_some, s.ofValues_numbers]
  rfl

theorem parseSpan_of_written {place : DocumentPlace} {span : Span} {v : Value} (written : SpanWritten span v) :
    parseSpan place v = .ok span := by
  have position_ne : Text.of "position" ≠ Text.of "byte" := by decide
  have search_ne_byte : Text.of "search" ≠ Text.of "byte" := by decide
  have search_ne_position : Text.of "search" ≠ Text.of "position" := by decide
  cases written with
  | octets r =>
      simp only [parseSpan, if_true, r.ofValues_numbers]
      rfl
  | point start =>
      have built := (Position.point start).ofValues_numbers
      simp only [Position.point, Position.stopValue] at built
      simp only [parseSpan, position_ne, if_false, if_true, built]
      rfl
  | stretch start stop =>
      have built := (Position.between start stop).ofValues_numbers
      simp only [Position.between, Position.stopValue] at built
      simp only [parseSpan, position_ne, if_false, if_true, built]
      rfl
  | search s known line pattern afterColumn maxLines =>
      simp only [parseSpan, search_ne_byte, search_ne_position, if_false, if_true,
        ofMembers_of_written known line pattern afterColumn maxLines]
      rfl

theorem ofValue?_priority_name (p : Priority) : Priority.ofValue? (.text p.name) = some p := by
  cases p <;> rfl

theorem ofValue?_severity_name (s : Severity) : Severity.ofValue? (.text s.name) = some s := by
  cases s <;> rfl

theorem parseLabel_of_written (report index : Nat) {label : Label} (written : LabelWritten label members) :
    parseLabel report index (.object members) = .ok label := by
  rcases written.span with ⟨span, v, is_span, found, span_written⟩
  have priority := getD_of_writes (.text (Text.of "primary")) (fun primary => by rw [primary]; rfl)
    written.priority
  refine parseLabel_eq_ok_iff.2 ⟨members, v, label.priority, span, label.message, label.source, rfl, found,
    ?_, parseSpan_of_written span_written, optionalText_of_writes written.message,
    optionalText_of_writes written.source, ?_⟩
  · rw [priority]
    exact ofValue?_priority_name label.priority
  · obtain ⟨given, message, priority, source⟩ := label
    obtain rfl : given = .span span := is_span
    rfl

theorem parseLabels_of_written (report index : Nat) {labels : List Label} {items : List Value}
    (written : LabelsWritten labels items) : parseLabels report index items = .ok labels := by
  rw [parseLabels_eq_readFrom]
  apply readFrom_of_forall₂
  refine written.imp fun label v writes i => ?_
  rcases writes with ⟨members, rfl, label_written⟩
  exact parseLabel_of_written report i label_written

/-- The labels of a report that was written are found and read back. -/
theorem exists_labelItems_of_written {place : DocumentPlace} {labels : List Label}
    (writes : Writes members "labels" (labels = []) fun v =>
      ∃ items, v = .list items ∧ LabelsWritten labels items) :
    ∃ items, labelItems place members = .ok items ∧ LabelsWritten labels items := by
  rw [Writes] at writes
  rw [labelItems]
  cases found : member? members "labels" with
  | none =>
      simp only [found] at writes
      rw [writes]
      exact ⟨[], rfl, .nil⟩
  | some v =>
      simp only [found] at writes
      rcases writes with ⟨items, rfl, written⟩
      exact ⟨items, rfl, written⟩

theorem parseReport_of_written (index : Nat) {report : Report} (written : ReportWritten report members) :
    parseReport index (.object members) = .ok report := by
  have severity := getD_of_writes (.text (Text.of "error")) (fun error => by rw [error]; rfl)
    written.severity
  rcases exists_labelItems_of_written written.labels with ⟨items, listed, labels_written⟩
  refine parseReport_eq_ok_iff.2 ⟨members, report.message, report.severity, items, report.code, report.source,
    report.labels, report.help, report.notes, rfl, written.message, ?_, listed,
    optionalText_of_writes written.code, optionalText_of_writes written.source,
    parseLabels_of_written index 0 labels_written, texts_of_writes written.help,
    texts_of_writes written.notes, rfl⟩
  rw [severity]
  exact ofValue?_severity_name report.severity

theorem parseReports_of_written {reports : List Report} {items : List Value} (written : Written reports items) :
    parseReports 0 items = .ok reports := by
  rw [parseReports_eq_readFrom]
  apply readFrom_of_forall₂
  refine written.imp fun report v writes i => ?_
  rcases writes with ⟨members, rfl, report_written⟩
  exact parseReport_of_written i report_written

/-!
### Writing members
-/

/-- Different keys are different texts. -/
theorem textOf_injective : Function.Injective Text.of := by
  intro s t same
  exact String.toList_inj.1 (List.map_injective_iff.2 CodePoint.ofChar_injective same)

/-- A member by its name, with whether it stands for its default. -/
structure Field where
  name : String
  isDefault : Bool
  value : Value

/-- Members in order; a brief writer leaves out those that stand for their defaults. -/
def writeFields (full : Bool) (fields : List Field) : Members :=
  (fields.filter fun field => full || !field.isDefault).map fun field => (Text.of field.name, field.value)

variable {full : Bool} {fields : List Field} {field : Field}

theorem member?_cons (name : String) (v : Value) (rest : Members) :
    member? ((Text.of name, v) :: rest) key = if name = key then some v else member? rest key := by
  simp only [member?, Value.member?, List.find?_cons, textOf_injective.eq_iff]
  by_cases same : name = key <;> simp [same]

theorem member?_writeFields_of_not_mem (full : Bool) (missing : key ∉ fields.map Field.name) :
    member? (writeFields full fields) key = none := by
  induction fields with
  | nil => rfl
  | cons first rest ih =>
      rw [List.map_cons, List.mem_cons, not_or] at missing
      have behind := ih missing.2
      rw [writeFields, List.filter_cons]
      split
      · rw [List.map_cons, member?_cons, if_neg fun same => missing.1 same.symm]
        exact behind
      · exact behind

/-- Under names that differ every field is found, unless it is left out. -/
theorem member?_writeFields (full : Bool) (distinct : (fields.map Field.name).Nodup) (mem : field ∈ fields) :
    member? (writeFields full fields) field.name =
      if full || !field.isDefault then some field.value else none := by
  induction fields with
  | nil => exact absurd mem List.not_mem_nil
  | cons first rest ih =>
      rw [List.map_cons, List.nodup_cons] at distinct
      rcases List.mem_cons.1 mem with rfl | later
      · have behind := member?_writeFields_of_not_mem full distinct.1
        rw [writeFields, List.filter_cons]
        split
        · rw [List.map_cons, member?_cons, if_pos rfl]
        · exact behind
      · have behind := ih distinct.2 later
        have differs : first.name ≠ field.name := by
          intro same
          apply distinct.1
          rw [same]
          exact List.mem_map_of_mem later
        rw [← behind, writeFields, List.filter_cons]
        split
        · rw [List.map_cons, member?_cons, if_neg differs]
          rfl
        · rfl

theorem member?_of_field {name : String} {v : Value} (distinct : (fields.map Field.name).Nodup)
    (mem : ⟨name, false, v⟩ ∈ fields) : member? (writeFields full fields) name = some v := by
  have found := member?_writeFields full distinct mem
  simpa using found

/-- A field is written as it should be, whether or not its default is left out. -/
theorem writes_of_field {name : String} {isDefault : Bool} {v : Value} {default : Prop} {p : Value → Prop}
    (distinct : (fields.map Field.name).Nodup) (mem : ⟨name, isDefault, v⟩ ∈ fields)
    (means : isDefault = true → default) (holds : p v) : Writes (writeFields full fields) name default p := by
  have found := member?_writeFields full distinct mem
  simp only at found
  rw [Writes, found]
  cases kept : full || !isDefault with
  | true => exact holds
  | false => exact means (by simpa using (Bool.or_eq_false_iff.1 kept).2)

theorem exists_of_mem_writeFields {entry : Text × Value} (mem : entry ∈ writeFields full fields) :
    ∃ field ∈ fields, entry.1 = Text.of field.name := by
  rcases List.mem_map.1 mem with ⟨field, kept, rfl⟩
  exact ⟨field, (List.mem_filter.1 kept).1, rfl⟩

end Document

/-!
### Every report can be written
-/

open Document

/-- The parts of a search; the column and the number of lines are one by default. -/
def Search.fields (s : Search) : List Field :=
  [⟨"line", false, .int s.line⟩, ⟨"pattern", false, .text s.pattern⟩,
    ⟨"after_column", s.afterColumn = 1, .int s.afterColumn⟩, ⟨"max_lines", s.maxLines = 1, .int s.maxLines⟩]

/-- A span as a value, with the defaults of a search written out or left out. -/
def Span.written (full : Bool) : Span → Value
  | .octets r => .object [(Text.of "byte", .list [.int r.start, .int r.length])]
  | .position ⟨start, none⟩ => .object [(Text.of "position", .list [.int start.line, .int start.column])]
  | .position ⟨start, some stop⟩ =>
    .object [(Text.of "position", .list [.int start.line, .int start.column, .int stop.line, .int stop.column])]
  | .search s => .object [(Text.of "search", .object (writeFields full s.fields))]

/-- The place of a label as a value. What is still to be converted into a span has no written form. -/
def SpanLike.written (full : Bool) : SpanLike → Value
  | .span s => s.written full
  | _ => .null

/-- The members of a label. -/
def Label.fields (full : Bool) (l : Label) : List Field :=
  [⟨"span", false, l.span.written full⟩, ⟨"priority", l.priority = .primary, .text l.priority.name⟩,
    ⟨"message", l.message.isNone, textOrNull l.message⟩, ⟨"source", l.source.isNone, textOrNull l.source⟩]

/-- Labels as a value, with their defaults written out or left out. -/
def Document.labelList (full : Bool) (labels : List Label) : List Value :=
  labels.map fun l => .object (writeFields full (l.fields full))

/-- The members of a report. -/
def Report.fields (full : Bool) (r : Report) : List Field :=
  [⟨"message", false, .text r.message⟩, ⟨"severity", r.severity = .error, .text r.severity.name⟩,
    ⟨"code", r.code.isNone, textOrNull r.code⟩, ⟨"source", r.source.isNone, textOrNull r.source⟩,
    ⟨"labels", r.labels.isEmpty, .list (labelList full r.labels)⟩,
    ⟨"help", r.help.isEmpty, textList r.help⟩, ⟨"notes", r.notes.isEmpty, textList r.notes⟩]

/-- A report as a value, with the defaults written out or left out. -/
def Report.written (full : Bool) (r : Report) : Value := .object (writeFields full (r.fields full))

namespace Document

theorem spanWritten_written (full : Bool) (span : Span) : SpanWritten span (span.written full) := by
  rcases span with ⟨start, - | stop⟩ | r | s
  · exact .point start
  · exact .stretch start stop
  · exact .octets r
  · have distinct : (s.fields.map Field.name).Nodup := by simp [Search.fields]
    refine .search s ?known ?line ?pattern ?afterColumn ?maxLines
    case known =>
      intro entry mem
      rcases exists_of_mem_writeFields mem with ⟨field, of_search, name⟩
      simp only [Search.fields, List.mem_cons, List.not_mem_nil, or_false] at of_search
      rw [name]
      rcases of_search with rfl | rfl | rfl | rfl <;> simp
    case line => exact member?_of_field distinct (by simp [Search.fields])
    case pattern => exact member?_of_field distinct (by simp [Search.fields])
    case afterColumn => exact writes_of_field distinct (by simp [Search.fields]) of_decide_eq_true rfl
    case maxLines => exact writes_of_field distinct (by simp [Search.fields]) of_decide_eq_true rfl

theorem labelWritten_written (full : Bool) {label : Label} {span : Span} (is_span : label.span = .span span) :
    LabelWritten label (writeFields full (label.fields full)) := by
  have distinct : ((label.fields full).map Field.name).Nodup := by simp [Label.fields]
  constructor
  case span =>
    refine ⟨span, span.written full, is_span, member?_of_field distinct ?_, spanWritten_written full span⟩
    rw [Label.fields, is_span]
    exact List.mem_cons_self ..
  case priority => exact writes_of_field distinct (by simp [Label.fields]) of_decide_eq_true rfl
  case message => exact writes_of_field distinct (by simp [Label.fields]) Option.isNone_iff_eq_none.1 rfl
  case source => exact writes_of_field distinct (by simp [Label.fields]) Option.isNone_iff_eq_none.1 rfl

theorem labelsWritten_written (full : Bool) {labels : List Label}
    (spans : ∀ label ∈ labels, ∃ span, label.span = .span span) :
    LabelsWritten labels (labelList full labels) := by
  rw [LabelsWritten, labelList, List.forall₂_map_right_iff, List.forall₂_same]
  intro label mem
  rcases spans label mem with ⟨span, is_span⟩
  exact ⟨_, rfl, labelWritten_written full is_span⟩

theorem reportWritten_written (full : Bool) {report : Report}
    (spans : ∀ label ∈ report.labels, ∃ span, label.span = .span span) :
    ReportWritten report (writeFields full (report.fields full)) := by
  have distinct : ((report.fields full).map Field.name).Nodup := by simp [Report.fields]
  constructor
  case message => exact member?_of_field distinct (by simp [Report.fields])
  case severity => exact writes_of_field distinct (by simp [Report.fields]) of_decide_eq_true rfl
  case code => exact writes_of_field distinct (by simp [Report.fields]) Option.isNone_iff_eq_none.1 rfl
  case source => exact writes_of_field distinct (by simp [Report.fields]) Option.isNone_iff_eq_none.1 rfl
  case labels =>
    exact writes_of_field distinct (by simp [Report.fields]) List.isEmpty_iff.1
      ⟨_, rfl, labelsWritten_written full spans⟩
  case help => exact writes_of_field distinct (by simp [Report.fields]) List.isEmpty_iff.1 rfl
  case notes => exact writes_of_field distinct (by simp [Report.fields]) List.isEmpty_iff.1 rfl

/-- Nothing is lost in a document. Every list of reports whose labels stand on spans can be written, with all
    defaults written out and with all of them left out; and whatever writes the reports, each default spelled
    in any of its ways and members in any order, is read back as exactly these reports, bare and under
    `diagnostics`. -/
theorem parse_written (document : Text) (reports : List Report)
    (spans : ∀ report ∈ reports, ∀ label ∈ report.labels, ∃ span, label.span = .span span) :
    (∀ full, Written reports (reports.map (Report.written full))) ∧
      ∀ items, Written reports items →
        parse document (.list items) = .ok reports ∧
          parse document (.object [(Text.of "diagnostics", .list items)]) = .ok reports := by
  constructor
  · intro full
    rw [Written, List.forall₂_map_right_iff, List.forall₂_same]
    intro report mem
    exact ⟨_, rfl, reportWritten_written full (spans report mem)⟩
  · intro items written
    have read := parseReports_of_written written
    refine ⟨parse_eq_ok_iff.2 ⟨items, rfl, read⟩, parse_eq_ok_iff.2 ⟨items, ?_, read⟩⟩
    rw [body, member?_cons, if_pos rfl, Option.getD_some]

end Document

/-- A warning with a piece of advice and a label on two octets. -/
def Report.markedSample : Report where
  message := ['m']
  severity := .warning
  labels := [.primary (.span (.octets ⟨3, 2, by decide⟩)) none none]
  help := [['h']]

theorem Document.parse_written_two_spellings :
    parse ['d'] (.list [.object [
        (Text.of "message", .text ['m']), (Text.of "severity", .text (Text.of "warning")),
        (Text.of "code", .null), (Text.of "source", .null),
        (Text.of "labels", .list [.object [
          (Text.of "span", .object [(Text.of "byte", .list [.int 3, .int 2])]),
          (Text.of "priority", .text (Text.of "primary")), (Text.of "message", .null),
          (Text.of "source", .null)]]),
        (Text.of "help", .list [.text ['h']]), (Text.of "notes", .list [])]]) = .ok [.markedSample] ∧
      parse ['d'] (.object [(Text.of "diagnostics", .list [.object [
        (Text.of "message", .text ['m']), (Text.of "severity", .text (Text.of "warning")),
        (Text.of "labels", .list [.object [
          (Text.of "span", .object [(Text.of "byte", .list [.int 3, .int 2])])]]),
        (Text.of "help", .list [.text ['h']])]])]) = .ok [.markedSample] := by
  have spans : ∀ report ∈ [Report.markedSample], ∀ label ∈ report.labels, ∃ span, label.span = .span span := by
    intro report mem label attached
    rw [List.mem_singleton.1 mem] at attached
    rw [List.mem_singleton.1 attached]
    exact ⟨_, rfl⟩
  rcases parse_written ['d'] [.markedSample] spans with ⟨writable, readable⟩
  exact ⟨(readable _ (writable true)).1, (readable _ (writable false)).2⟩

end Marginalia
