/-
Module: Marginalia.Document.Reports
Purpose: Reports from a document. The document is a list of report objects, or an object that holds one
  under `diagnostics`. Only `message` is required of a report and only `span` of a label; a span is an
  object with one member, `byte`, `position` or `search`. Unknown members of reports and labels are ignored.
  The first thing that does not fit is refused, and the fault says where it stands.
Main exports: Document.parse, DocumentFault, DocumentPlace, DocumentProblem
-/

import Marginalia.Report

namespace Marginalia

/-- A place in a document: a report, or one of its labels, or that label's span. -/
inductive DocumentPlace where
  | report (index : Nat)
  | label (report index : Nat)
  | span (report label : Nat)
deriving DecidableEq, Repr

/-- An element of a list as messages give it. -/
def indexed (name : Text) (index : Nat) : Text := name ++ Text.of "[" ++ Text.ofNat index ++ Text.of "]"

/-- A label of a report as messages give it. -/
def labelPlace (outer index : Nat) : Text :=
  indexed "diagnostics" outer ++ Text.of "." ++ indexed "labels" index

/-- A place as messages give it. -/
def DocumentPlace.text : DocumentPlace → Text
  | .report index => indexed "diagnostics" index
  | .label outer index => labelPlace outer index
  | .span outer index => labelPlace outer index ++ Text.of ".span"

/-- What does not fit at a place. -/
inductive DocumentProblem where
  | notAnObject
  | noMessage
  | unknownSeverity (given : Value)
  | labelsNotAList
  | notAText (key : Text)
  | notTexts (key : Text)
  | noSpan
  | unknownPriority (given : Value)
  | notOneKind
  | invalidSpan (kind : Text) (fault : SearchFault)
  | malformedSpan (kind : Text) (given : Value)

/-- The wording of a problem. -/
def DocumentProblem.message : DocumentProblem → Text
  | .notAnObject => "expected an object"
  | .noMessage => "missing string field 'message'"
  | .unknownSeverity given => Text.of "unknown severity " ++ given.display
  | .labelsNotAList => "'labels' must be a list"
  | .notAText key => Text.of "'" ++ key ++ Text.of "' must be a string"
  | .notTexts key => Text.of "'" ++ key ++ Text.of "' must be a list of strings"
  | .noSpan => "expected an object with a 'span'"
  | .unknownPriority given => Text.of "unknown priority " ++ given.display
  | .notOneKind => "expected exactly one of 'byte', 'position' or 'search'"
  | .invalidSpan kind fault =>
    Text.of "invalid " ++ kind ++ Text.of " span: " ++ fault.message
  | .malformedSpan kind given =>
    Text.of "malformed " ++ kind.quoted ++ Text.of " span: " ++ given.display

/-- The advice that goes with a problem. -/
def DocumentProblem.hint? : DocumentProblem → Option Text
  | .unknownSeverity _ => some "use one of: error, warning, info, hint"
  | .unknownPriority _ => some "use primary or secondary"
  | _ => none

/-- Why a document gives no reports: its text is no JSON, it is no list, or something in it does not fit. -/
inductive DocumentCause where
  | invalidText (message : Text) (line column : Nat)
  | notAList
  | problem (place : DocumentPlace) (problem : DocumentProblem)

/-- A cause together with the name of the document. -/
structure DocumentFault where
  document : Text
  cause : DocumentCause

/-- The wording of a cause. -/
def DocumentCause.message : DocumentCause → Text
  | .invalidText message line column =>
    Text.of "invalid JSON at line " ++ Text.ofNat line ++ Text.of " column " ++ Text.ofNat column ++
      Text.of ": " ++ message
  | .notAList => "expected a list of diagnostics"
  | .problem place found => place.text ++ Text.of ": " ++ found.message

/-- The advice that goes with a cause. -/
def DocumentCause.hint? : DocumentCause → Option Text
  | .invalidText .. => none
  | .notAList => some "wrap reports in [...] or \x7b\"diagnostics\": [...]\x7d"
  | .problem _ found => found.hint?

/-- The wording of a fault: the document, the cause, and the advice on a line of its own. -/
def DocumentFault.message (f : DocumentFault) : Text :=
  let base := f.document ++ Text.of ": " ++ f.cause.message
  match f.cause.hint? with
  | some hint => base ++ Text.of "\nhint: " ++ hint
  | none => base

namespace Document

/-- The members of an object. -/
abbrev Members := List (Text × Value)

/-- Refuse what stands at a place. -/
def refuse {α : Type} (place : DocumentPlace) (problem : DocumentProblem) : Except DocumentCause α :=
  .error (.problem place problem)

/-- The member under a key. -/
def member? (members : Members) (key : String) : Option Value := Value.member? (Text.of key) members

/-- A text that may be missing or null. -/
def optionalText (place : DocumentPlace) (members : Members) (key : String) :
    Except DocumentCause (Option Text) :=
  match member? members key with
  | none | some .null => .ok none
  | some (.text t) => .ok (some t)
  | some _ => refuse place (.notAText (Text.of key))

/-- The texts of a list that holds nothing else. -/
def allTexts? : List Value → Option (List Text)
  | [] => some []
  | .text t :: rest => (allTexts? rest).map (t :: ·)
  | _ :: _ => none

/-- A list of texts that may be missing. -/
def texts (place : DocumentPlace) (members : Members) (key : String) : Except DocumentCause (List Text) :=
  match member? members key with
  | none => .ok []
  | some (.list items) =>
    match allTexts? items with
    | some texts => .ok texts
    | none => refuse place (.notTexts (Text.of key))
  | some _ => refuse place (.notTexts (Text.of key))

/-- The outcome of a span's construction, with a fault put in its place. -/
def settleSpan (place : DocumentPlace) (kind : Text) {α : Type} (wrap : α → Span)
    (outcome : Except SearchFault α) : Except DocumentCause Span :=
  match outcome with
  | .ok a => .ok (wrap a)
  | .error fault => refuse place (.invalidSpan kind fault)

/-- The span that an object with one member stands for. Its numbers are only checked: a document that was read holds
    no integer that is too long to be written. -/
def parseSpan (place : DocumentPlace) (v : Value) : Except DocumentCause Span :=
  match v with
  | .object [(kind, given)] =>
    let malformed := refuse place (.malformedSpan kind given)
    if kind = Text.of "byte" then
      match given with
      | .list [start, length] =>
        settleSpan place kind .octets ((OctetRange.ofValues SpanField.check start length).mapError .span)
      | _ => malformed
    else if kind = Text.of "position" then
      match given with
      | .list [line, column] =>
        settleSpan place kind .position ((Position.ofValues SpanField.check line column .null .null).mapError .span)
      | .list [line, column, endLine, endColumn] =>
        settleSpan place kind .position
          ((Position.ofValues SpanField.check line column endLine endColumn).mapError .span)
      | _ => malformed
    else if kind = Text.of "search" then
      match given with
      | .object members => settleSpan place kind .search (Search.ofMembers SpanField.check members)
      | _ => malformed
    else malformed
  | _ => refuse place .notOneKind

/-- The label that an object stands for. -/
def parseLabel (report index : Nat) (v : Value) : Except DocumentCause Label := do
  let place := DocumentPlace.label report index
  match v with
  | .object members =>
    match member? members "span" with
    | none => refuse place .noSpan
    | some given =>
      let named := (member? members "priority").getD (.text "primary")
      match Priority.ofValue? named with
      | none => refuse place (.unknownPriority named)
      | some priority =>
        let span ← parseSpan (.span report index) given
        let message ← optionalText place members "message"
        let source ← optionalText place members "source"
        return .make (.span span) message priority source
  | _ => refuse place .noSpan

/-- The labels of a report, numbered from an index on. -/
def parseLabels (report index : Nat) : List Value → Except DocumentCause (List Label)
  | [] => .ok []
  | v :: rest => do
    let label ← parseLabel report index v
    let labels ← parseLabels report (index + 1) rest
    return label :: labels

/-- The labels that a report holds; they may be missing. -/
def labelItems (place : DocumentPlace) (members : Members) : Except DocumentCause (List Value) :=
  match member? members "labels" with
  | none => .ok []
  | some (.list items) => .ok items
  | some _ => refuse place .labelsNotAList

/-- The report that an object stands for. -/
def parseReport (index : Nat) (v : Value) : Except DocumentCause Report := do
  let place := DocumentPlace.report index
  match v with
  | .object members =>
    match member? members "message" with
    | some (.text message) =>
      let named := (member? members "severity").getD (.text "error")
      match Severity.ofValue? named with
      | none => refuse place (.unknownSeverity named)
      | some severity =>
        let items ← labelItems place members
        let code ← optionalText place members "code"
        let source ← optionalText place members "source"
        let labels ← parseLabels index 0 items
        let help ← texts place members "help"
        let notes ← texts place members "notes"
        return { message, severity, code, source, labels, help, notes }
    | _ => refuse place .noMessage
  | _ => refuse place .notAnObject

/-- Reports, numbered from an index on. -/
def parseReports (index : Nat) : List Value → Except DocumentCause (List Report)
  | [] => .ok []
  | v :: rest => do
    let report ← parseReport index v
    let reports ← parseReports (index + 1) rest
    return report :: reports

/-- The list of reports that a document holds: the one under `diagnostics`, or the document itself. -/
def body (doc : Value) : Value :=
  match doc with
  | .object members => (member? members "diagnostics").getD doc
  | _ => doc

/-- The reports of a document of a given name. -/
def parse (document : Text) (doc : Value) : Except DocumentFault (List Report) :=
  match body doc with
  | .list items => (parseReports 0 items).mapError (⟨document, ·⟩)
  | _ => .error ⟨document, .notAList⟩

end Document

end Marginalia
