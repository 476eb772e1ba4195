/-
Module: Marginalia.Render.Rows
Purpose: The single rows of a rendering. All framed rows share one gutter: the line number or as many
  blanks, a blank, and a frame glyph. A source line that does not fit is cut and ends in an ellipsis. A label
  takes two rows below its line, an underline with a tee in its middle and a corner below the tee with the
  message behind it.
Main exports: headerRow, bannerRow, contextRow, labelledRow, pointerRows, separatorRow, closingRow,
  trailerRow, underline, truncate, locationText, summaryRow, SizeFault, checkPointer
-/

import Marginalia.Render.Palette

namespace Marginalia.Render

/-!
### Glyphs and measures
-/

/-- The frame beside source lines. -/
def vertical : CodePoint := '│'

/-- The dash of frames and underlines. -/
def horizontal : CodePoint := '─'

/-- The corner that opens the frame. -/
def topLeft : CodePoint := '╭'

/-- The corner that closes the frame, and the one of a pointer. -/
def bottomLeft : CodePoint := '╰'

/-- The frame beside pointers. -/
def dot : CodePoint := '•'

/-- The middle of an underline. -/
def tee : CodePoint := '┬'

/-- The end of a line that was cut. -/
def ellipsis : CodePoint := '…'

/-- The columns that a row with a source line should keep to. -/
def rowWidth : Int := 80

/-- The columns that a source line is given at least. -/
def leastContentWidth : Int := 20

/-- The columns left for a source line behind `taken` columns. -/
def contentBudget (taken : Int) : Nat := (max (rowWidth - taken) leastContentWidth).toNat

/-- A source line as it is shown behind `taken` columns: whole, or cut so that it fits with an ellipsis. -/
def truncate (text : Text) (taken : Int) : Text :=
  let budget := contentBudget taken
  if budget < text.length then text.take (budget - 1) ++ [ellipsis] else text

/-- An underline of some width, at least one, and the index of its tee. -/
def underline (width : Nat) : Text × Nat :=
  if width ≤ 1 then ([tee], 0)
  else
    let center := (width - 1) / 2
    (List.replicate center horizontal ++ tee :: List.replicate (width - center - 1) horizontal, center)

/-- A row would be longer than an index can count, or than any memory can hold. -/
inductive SizeFault where
  | beyondIndex
  | beyondMemory
deriving DecidableEq, Repr

/-- The wording of the fault. There is none for a memory that is used up. -/
def SizeFault.message : SizeFault → Text
  | .beyondIndex => "cannot fit 'int' into an index-sized integer"
  | .beyondMemory => []

/-- The first number that no index can count up to, two to the power of 63. -/
def indexLimit : Nat := 9223372036854775808

/-- The length from which on a row is taken not to fit into memory, two to the power of 32. -/
def memoryLimit : Nat := 4294967296

/-- Whether some glyphs can stand in a row. -/
def checkSize (count : Nat) : Except SizeFault Unit :=
  if indexLimit ≤ count then .error .beyondIndex
  else if memoryLimit ≤ count then .error .beyondMemory
  else .ok ()

/-- How many dashes an underline has before its tee and behind it. -/
def underlineArms (width : Nat) : List Nat :=
  let center := (width - 1) / 2
  [center, width - center - 1]

/-- An underline that can stand in a row. -/
def checkedUnderline (width : Nat) : Except SizeFault (Text × Nat) := do
  (underlineArms width).forM checkSize
  return underline width

/-- Where something is: the source's name, or the word for a line when it has none, then line and column. -/
def locationText (name : Option Text) (line column : Int) : Text :=
  let place := Text.of ":" ++ Text.ofInt column
  match name with
  | none => Text.of "line " ++ Text.ofInt line ++ place
  | some name => name ++ Text.of ":" ++ Text.ofInt line ++ place

/-!
### Rows
-/

/-- Severity, code and message. An empty code is left out. -/
def headerRow (p : Palette) (severity : Severity) (code : Option Text) (message : Text) : Text :=
  let codePart : Text :=
    match code with
    | some (c :: rest) => Text.of "[" ++ (c :: rest) ++ Text.of "]"
    | _ => []
  p.severity severity ++ p.styled p.bold (severity.name ++ codePart) ++ Text.of ": " ++ p.emphasize message

/-- The row that opens the frame and names the place. -/
def bannerRow (p : Palette) (width : Nat) (location : Text) : Text :=
  Text.blanks width ++ [CodePoint.blank] ++ p.styled p.dim [topLeft, horizontal, '['] ++ location ++
    p.styled p.dim [']']

/-- The row above and below the source lines. -/
def separatorRow (p : Palette) (width : Nat) : Text :=
  Text.blanks width ++ [CodePoint.blank] ++ p.styled p.dim [vertical]

/-- The row that closes the frame. -/
def closingRow (p : Palette) (width : Nat) : Text :=
  Text.blanks width ++ [CodePoint.blank] ++ p.styled p.dim (bottomLeft :: List.replicate 5 horizontal)

/-- The columns in front of a source line. -/
def takenWidth (width : Nat) : Int := width + 3

/-- A source line without labels. -/
def contextRow (p : Palette) (width number : Nat) (text : Text) : Text :=
  p.styled p.dim (Text.padLeft width (Text.ofNat number) ++ [CodePoint.blank, vertical]) ++
    [CodePoint.blank] ++ truncate text (takenWidth width)

/-- A source line with labels below it. -/
def labelledRow (p : Palette) (width number : Nat) (text : Text) : Text :=
  p.styled p.dim (Text.padLeft width (Text.ofNat number)) ++ [CodePoint.blank] ++
    p.styled p.dim [vertical] ++ [CodePoint.blank] ++ truncate text (takenWidth width)

/-- The front of a pointer's rows. -/
def pointerGutter (p : Palette) (width : Nat) : Text :=
  Text.blanks width ++ [CodePoint.blank] ++ p.styled p.dim [dot] ++ [CodePoint.blank]

/-- How many columns a pointer marks: up to the column of the stop, if that lies further on, and else one. -/
def markedWidth (position : Position) : Nat :=
  match position.stop with
  | some stop => max 1 (stop.column - position.start.column)
  | none => 1

/-- Whether the rows of a label can be drawn: its underline first, then what stands in front of its rows. -/
def checkPointer (position : Position) : Except SizeFault Unit := do
  let indent := position.start.column - 1
  let marked := markedWidth position
  (underlineArms marked ++ [indent, indent + (marked - 1) / 2]).forM checkSize

/-- The two rows of a label: the underline, and the message behind a corner. -/
def pointerRows (p : Palette) (width : Nat) (label : Label) (position : Position) : List Text :=
  let indent := position.start.column - 1
  let (line, center) := underline (markedWidth position)
  let color := p.priority label.priority
  let message := [bottomLeft, horizontal, horizontal, CodePoint.blank] ++ label.message.getD []
  [pointerGutter p width ++ Text.blanks indent ++ p.styled color line,
    pointerGutter p width ++ Text.blanks (indent + center) ++ p.styled color message]

/-- A note or a piece of advice below the frame. -/
def trailerRow (p : Palette) (width : Nat) (color kind item : Text) : Text :=
  Text.blanks (width + 3) ++ p.styled color kind ++ Text.of ": " ++ p.emphasize item

/-- A number of things; one of them is in the singular. -/
def counted (n : Nat) (noun : Text) : Text :=
  Text.ofNat n ++ [CodePoint.blank] ++ noun ++ (if n = 1 then [] else Text.of "s")

/-- How many errors and warnings there were; none if there were neither. -/
def summaryRow (p : Palette) (severities : List Severity) : Option Text :=
  let errors := severities.count .error
  let warnings := severities.count .warning
  let parts := (if errors = 0 then [] else [counted errors "error"]) ++
    (if warnings = 0 then [] else [counted warnings "warning"])
  if parts = [] then none
  else some (p.styled p.bold ((Text.of ", ").intercalate parts ++ Text.of " emitted"))

end Marginalia.Render
