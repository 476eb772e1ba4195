/-
Module: Marginalia.Report
Purpose: What is wrong, how badly, and where. A `Diagnostic` is anything that can be drawn: its severity may
  still be a mere value, checked when it is used. A `Report` is a diagnostic whose severity is one of the
  four; it is built up step by step, every step giving a new report and leaving the old one alone.
Main exports: Severity, SeverityLike, SeverityFault, Diagnostic, Report, Report.build, Report.ofDiagnostic,
  Report.withCode, Report.withSource, Report.withLabel, Report.withLabels, Report.withHelp, Report.withNote
-/

import Marginalia.Label

namespace Marginalia

/-- How bad something is. -/
inductive Severity where
  | error
  | warning
  | info
  | hint
deriving DecidableEq, Repr

/-- The name of a severity, in documents and in headers. -/
def Severity.name : Severity → Text
  | .error => "error"
  | .warning => "warning"
  | .info => "info"
  | .hint => "hint"

/-- The severity that a value names. -/
def Severity.ofValue? (v : Value) : Option Severity :=
  match v with
  | .text t => [Severity.error, .warning, .info, .hint].find? fun s => s.name = t
  | _ => none

/-- A severity as it was given: known, or a value that should name one. -/
inductive SeverityLike where
  | known (s : Severity)
  | given (v : Value)

/-- A value that names no severity. -/
structure SeverityFault where
  given : Value

/-- The wording of the fault. -/
def SeverityFault.message (f : SeverityFault) : Text :=
  f.given.display ++ Text.of " is not a valid Severity"

/-- The severity that is meant, or the fault of the value. -/
def SeverityLike.toSeverity : SeverityLike → Except SeverityFault Severity
  | .known s => .ok s
  | .given v =>
    match Severity.ofValue? v with
    | some s => .ok s
    | none => .error ⟨v⟩

/-- Anything that can be drawn. -/
structure Diagnostic where
  message : Text
  severity : SeverityLike
  code : Option Text
  source : Option Text
  labels : List Label
  help : List Text
  notes : List Text

/-- A diagnostic whose severity is known. -/
structure Report where
  message : Text
  severity : Severity
  code : Option Text := none
  source : Option Text := none
  labels : List Label := []
  help : List Text := []
  notes : List Text := []

namespace Report

/-- A report as something to draw. -/
def toDiagnostic (r : Report) : Diagnostic :=
  ⟨r.message, .known r.severity, r.code, r.source, r.labels, r.help, r.notes⟩

/-- A diagnostic with its severity checked. -/
def ofDiagnostic (d : Diagnostic) : Except SeverityFault Report := do
  let severity ← d.severity.toSeverity
  return ⟨d.message, severity, d.code, d.source, d.labels, d.help, d.notes⟩

/-- A bare report of some severity. -/
def build (severity : SeverityLike) (message : Text) : Except SeverityFault Report := do
  let severity ← severity.toSeverity
  return { message, severity }

/-- A bare error. -/
def error (message : Text) : Report := { message, severity := .error }

/-- A bare warning. -/
def warning (message : Text) : Report := { message, severity := .warning }

/-- A bare piece of information. -/
def info (message : Text) : Report := { message, severity := .info }

/-- A bare hint. -/
def hint (message : Text) : Report := { message, severity := .hint }

/-- The report under another code. -/
def withCode (r : Report) (code : Text) : Report := { r with code := some code }

/-- The report about another source. -/
def withSource (r : Report) (source : Text) : Report := { r with source := some source }

/-- The report with one more label. -/
def withLabel (r : Report) (label : Label) : Report := { r with labels := r.labels ++ [label] }

/-- The report with more labels, in order. -/
def withLabels (r : Report) (labels : List Label) : Report := { r with labels := r.labels ++ labels }

/-- The report with one more piece of advice. -/
def withHelp (r : Report) (message : Text) : Report := { r with help := r.help ++ [message] }

/-- The report with one more note. -/
def withNote (r : Report) (message : Text) : Report := { r with notes := r.notes ++ [message] }

/-- Equality of two lists of labels. -/
def equalLabels : List Label → List Label → Bool
  | [], [] => true
  | a :: rest, b :: others => a.equals b && equalLabels rest others
  | _, _ => false

/-- Equality part by part. -/
def equals (a b : Report) : Bool :=
  a.message = b.message && a.severity = b.severity && a.code = b.code && a.source = b.source &&
    equalLabels a.labels b.labels && a.help = b.help && a.notes = b.notes

end Report

end Marginalia
