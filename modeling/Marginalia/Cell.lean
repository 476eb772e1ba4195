/-
Module: Marginalia.Cell
Purpose: Places in a text as people name them: a line and a column, both counted from one, the column in
  code points. A cell may stand on a character or just past the last one of its line. `Cell.after` is the
  cell that one reaches by reading a text from its start.
Main exports: Cell, Cell.first, Cell.past, Cell.after
-/

import Marginalia.Text.Basic

namespace Marginalia

/-- A line and a column, both positive. -/
structure Cell where
  line : Nat
  column : Nat
  line_pos : 1 ≤ line := by omega
  column_pos : 1 ≤ column := by omega
deriving DecidableEq

namespace Cell

/-- The cell where every text starts. -/
def first : Cell := ⟨1, 1, by omega, by omega⟩

/-- The first cell of the next line. -/
def nextLine (cell : Cell) : Cell := ⟨cell.line + 1, 1, by omega, by omega⟩

/-- The next cell of the same line. -/
def nextColumn (cell : Cell) : Cell :=
  ⟨cell.line, cell.column + 1, cell.line_pos, by have := cell.column_pos; omega⟩

/-- The cell behind a code point: a line feed goes to the next line, all else one column on. -/
def past (cell : Cell) (c : CodePoint) : Cell :=
  if c = CodePoint.newline then cell.nextLine else cell.nextColumn

/-- The cell behind a text that is read from the first cell on. -/
def after (t : Text) : Cell := t.foldl past first

end Cell

end Marginalia
