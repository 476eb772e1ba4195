/-
Module: Marginalia.Compact
Purpose: A diagnostic in one line: its code in brackets, its message, and the place of its first label in
  parentheses. No source is read, so a search is shown by the place where it begins and a range of octets by
  its first offset.
Main exports: Diagnostic.compact, Diagnostic.compactAll
-/

import Marginalia.Render.Rows

namespace Marginalia.Diagnostic

/-- The place of a span as the one-line form shows it. -/
def compactPlace (source : Option Text) (span : Span) : Text :=
  let atCell (cell : Cell) : Text := Render.locationText source cell.line cell.column
  match span with
  | .position p => atCell p.start
  | .search s => atCell s.fallback.start
  | .octets r =>
    let offset := Text.of "byte " ++ Text.ofNat r.start
    match source with
    | some (c :: rest) => (c :: rest) ++ Text.of ":" ++ offset
    | _ => offset

/-- The one-line form. -/
def compact (d : Diagnostic) : Except SpanFault Text := do
  let codePart : Text :=
    match d.code with
    | some (c :: rest) => Text.of "[" ++ (c :: rest) ++ Text.of "] "
    | _ => []
  match d.labels with
  | [] => return codePart ++ d.message
  | label :: _ =>
    let span ← label.toSpan
    return codePart ++ d.message ++ Text.of " (" ++ compactPlace d.source span ++ Text.of ")"

/-- One-line forms in order; the first fault ends it. -/
def compactEach : List Diagnostic → Except SpanFault (List Text)
  | [] => .ok []
  | d :: rest => do
    let text ← d.compact
    let others ← compactEach rest
    return text :: others

/-- One-line forms, one below the other. -/
def compactAll (ds : List Diagnostic) : Except SpanFault Text := do
  let texts ← compactEach ds
  return [CodePoint.newline].intercalate texts

end Marginalia.Diagnostic
