/-
Module: Marginalia.Render.Block
Purpose: The part of a rendering that shows the source. Labels are first placed: every span is resolved to
  cells, except that an octet range stays what it is when there is no source to look it up in. From the
  placed labels follow the width of the gutter and the window of lines to show. Inside the window every line
  is drawn once and the labels that start on it follow it in the order in which they were attached.
Main exports: Place, PlacedLabel, RenderFault, placeLabel, placeLabels, gutterWidth, bannerRow?,
  contextRows?
-/

import Marginalia.Lookup
import Marginalia.Options
import Marginalia.Render.Rows
import Marginalia.Span.Resolve

namespace Marginalia.Render

/-- Why a diagnostic cannot be drawn. The last case is a breach of the source's own contract. -/
inductive RenderFault where
  | options (fault : OptionsFault)
  | span (fault : SpanFault)
  | numeral (fault : Numeral.WriteFault)
  | severity (fault : SeverityFault)
  | size (fault : SizeFault)
  | line (fault : LineFault)

/-- The wording of a fault. -/
def RenderFault.message : RenderFault → Text
  | .options fault => fault.message
  | .span fault => fault.message
  | .numeral fault => fault.message
  | .severity fault => fault.message
  | .size fault => fault.message
  | .line fault => fault.message

/-- Where a label ends up: on cells, or on octets of an unknown content. -/
inductive Place where
  | cells (p : Position)
  | octets (r : OctetRange)
deriving DecidableEq

/-- The cells of a place, if they are known. -/
def Place.position? : Place → Option Position
  | .cells p => some p
  | .octets _ => none

/-- A label together with its place. -/
structure PlacedLabel where
  label : Label
  place : Place

/-- A label that is placed on cells. -/
structure PositionedLabel where
  label : Label
  position : Position

/-- The line on which a positioned label is drawn. -/
def PositionedLabel.line (l : PositionedLabel) : Nat := l.position.start.line

/-- Place one label. -/
def placeLabel (source : Option Source) (label : Label) : Checked RenderFault PlacedLabel := do
  let span ← Checked.ofExcept .span label.toSpan
  match span, source with
  | .octets r, none => return ⟨label, .octets r⟩
  | span, source =>
    let position ← ExceptT.adapt .line (span.resolve source)
    return ⟨label, .cells position⟩

/-- Place labels in order; the first one without a span is the fault. -/
def placeLabels (source : Option Source) : List Label → Checked RenderFault (List PlacedLabel)
  | [] => pure []
  | label :: rest => do
    let placed ← placeLabel source label
    let others ← placeLabels source rest
    return placed :: others

/-- The highest line number that could be shown: the last line of a label's context, or one. -/
def highestLine (contextLines : Nat) (placed : List PlacedLabel) : Nat :=
  placed.foldl (fun highest l =>
    match l.place with
    | .cells p => max highest (p.start.line + contextLines)
    | .octets _ => highest) 1

/-- The width of the gutter: the number of digits of the highest line number, which must not be too long. -/
def gutterWidth (contextLines : Nat) (placed : List PlacedLabel) : Except Numeral.WriteFault Nat := do
  let numeral ← Numeral.write (highestLine contextLines placed)
  return numeral.length

/-- The row that names the place of the first label; none if there is no label. Octets without a content
    count as the first cell. -/
def bannerRow? (p : Palette) (source : Option Source) (width : Nat) (placed : List PlacedLabel) :
    Option Text :=
  match placed with
  | [] => none
  | first :: _ =>
    let cell := (first.place.position?.map (·.start)).getD Cell.first
    some (bannerRow p width (locationText (source.map (·.name)) cell.line cell.column))

/-- The labels that are on cells, in order of their lines; labels of one line keep their order. -/
def sortedLabels (placed : List PlacedLabel) : List PositionedLabel :=
  (placed.filterMap fun l => l.place.position?.map fun p => (⟨l.label, p⟩ : PositionedLabel)).mergeSort
    fun a b => a.line ≤ b.line

/-- Whether the labels on lines of a source can be drawn, in the order in which they are. -/
def checkPointers (source : Option Source) (placed : List PlacedLabel) : Except SizeFault Unit :=
  match source.bind Source.lineCount with
  | none => .ok ()
  | some count =>
    ((sortedLabels placed).filter fun l => l.line ≤ count).forM fun l => checkPointer l.position

/-- The rows of one source line: the line itself and then its labels. -/
def lineRows (p : Palette) (width : Nat) (sorted : List PositionedLabel) (number : Nat) (text : Text) :
    List Text :=
  match sorted.filter fun l => l.line = number with
  | [] => [contextRow p width number text]
  | onLine => labelledRow p width number text :: onLine.flatMap fun l => pointerRows p width l.label l.position

/-- The rows that show the source; none if there is no source, no label on cells, or no line in the window.
    The window reaches from some lines above the first label to as many below the last. -/
def contextRows? (p : Palette) (source : Option Source) (contextLines width : Nat)
    (placed : List PlacedLabel) : Except LineFault (Option (List Text)) :=
  let sorted := sortedLabels placed
  match source, sorted.head?, sorted.getLast? with
  | some source, some first, some last => do
    let lines ← source.lineRange (max 1 (first.line - contextLines) : Nat) (last.line + contextLines : Nat)
    match lines.flatMap fun entry => lineRows p width sorted entry.1 entry.2 with
    | [] => return none
    | rows => return some (separatorRow p width :: rows ++ [separatorRow p width, closingRow p width])
  | _, _, _ => .ok none

end Marginalia.Render
