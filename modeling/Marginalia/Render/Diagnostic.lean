/-
Module: Marginalia.Render.Diagnostic
Purpose: Diagnostics drawn in full. One diagnostic gives a header, a banner with its place, the source
  around its labels, notes and help, each only if there is something to show. Several diagnostics are drawn
  one after the other with a blank line between them, and a count of errors and warnings at the end. Drawing
  fails only on options that cannot be, on a label without a span, on an unknown severity, and on line numbers
  and rows beyond all measure.
Main exports: Diagnostic.sections, Diagnostic.render, Diagnostic.renderAll
-/

import Marginalia.Render.Block

namespace Marginalia

open Render

/-- Notes or pieces of advice, one row each; none if there are none. -/
def Render.trailer? (p : Palette) (width : Nat) (color kind : Text) (items : List Text) : Option Text :=
  match items with
  | [] => none
  | items => some ([CodePoint.newline].intercalate (items.map (trailerRow p width color kind)))

/-- Rows, one below the other. -/
def Render.stack (rows : List Text) : Text := [CodePoint.newline].intercalate rows

namespace Diagnostic

/-- The parts of a drawn diagnostic. -/
structure Sections where
  header : Text
  banner : Option Text
  context : Option (List Text)
  notes : Option Text
  help : Option Text
deriving DecidableEq

/-- The parts that are there, one below the other. -/
def Sections.text (s : Sections) : Text :=
  stack ([some s.header, s.banner, s.context.map stack, s.notes, s.help].filterMap id)

/-- The parts of a diagnostic under given options. The source is found first, then the labels are placed,
    then the gutter is measured, the severity is checked, and last whether the rows of the labels fit. -/
def sections (d : Diagnostic) (sources : Lookup) (options : RenderOptions) :
    Checked RenderFault Sections := do
  let p := Palette.ofColors options.colors
  let source ← Checked.ofLogged (sources.find d.source)
  let placed ← placeLabels source d.labels
  let width ← Checked.ofExcept .numeral (gutterWidth options.contextLines placed)
  let severity ← Checked.ofExcept .severity d.severity.toSeverity
  Checked.ofExcept .size (checkPointers source placed)
  let context ← Checked.ofExcept .line (contextRows? p source options.contextLines width placed)
  return {
    header := headerRow p severity d.code d.message
    banner := bannerRow? p source width placed
    context
    notes := trailer? p width p.note "note" d.notes
    help := trailer? p width p.help "help" d.help }

/-- The options that are in force: the given ones, or the defaults, with what overrides them. -/
def merged (options : Option RenderOptions) (colors : Option Bool) (contextLines : Option Int) :
    Except OptionsFault RenderOptions :=
  (options.getD {}).override colors contextLines

/-- A diagnostic, drawn. -/
def render (d : Diagnostic) (sources : Lookup) (options : Option RenderOptions) (colors : Option Bool)
    (contextLines : Option Int) : Checked RenderFault Text := do
  let options ← Checked.ofExcept .options (merged options colors contextLines)
  let sections ← d.sections sources options
  return sections.text

/-- Diagnostics drawn under one set of options, in order; the first fault ends it. -/
def renderEach (sources : Lookup) (options : RenderOptions) :
    List Diagnostic → Checked RenderFault (List Text)
  | [] => pure []
  | d :: rest => do
    let text ← d.render sources (some options) none none
    let others ← renderEach sources options rest
    return text :: others

/-- The severities of diagnostics, in order. -/
def severities : List Diagnostic → Except SeverityFault (List Severity)
  | [] => .ok []
  | d :: rest => do
    let severity ← d.severity.toSeverity
    let others ← severities rest
    return severity :: others

/-- Diagnostics, drawn one after the other, with a count at the end. No diagnostics give the empty text. -/
def renderAll (ds : List Diagnostic) (sources : Lookup) (options : Option RenderOptions)
    (colors : Option Bool) (contextLines : Option Int) : Checked RenderFault Text :=
  match ds with
  | [] => pure []
  | ds => do
    let options ← Checked.ofExcept .options (merged options colors contextLines)
    let texts ← renderEach sources options ds
    let severities ← Checked.ofExcept .severity (severities ds)
    let summary := summaryRow (Palette.ofColors options.colors) severities
    return [CodePoint.newline, CodePoint.newline].intercalate (texts ++ summary.toList)

end Diagnostic

end Marginalia
