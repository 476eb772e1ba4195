/-
Module: Marginalia.Proofs.Source.Cells
Purpose: The cells of a text. Cells are ordered as they are read, by line and then by column, and reading on
  always leads to a later cell; so a prefix of a text is known by the cell behind it. The cells that a text
  has, one for each of its characters and one behind each line, are exactly the cells behind its prefixes,
  and `Text.upTo` gives the prefix of a cell: the lines above, each with its line feed, and the front of the
  line itself.
Main exports: Cell.lt_iff, Cell.after_terminated_append, Cell.after_lt_after, Text.HasCell, Text.upTo,
  hasCell_after, upTo_after, after_upTo, upTo_isPrefix
-/

import Mathlib.Data.Prod.Lex
import Marginalia.Cell
import Marginalia.Proofs.Text.Lines

namespace Marginalia

open CodePoint (newline)

/-!
### The order of reading
-/

namespace Cell

theorem ext_coordinates {a b : Cell} (line : a.line = b.line) (column : a.column = b.column) : a = b := by
  cases a
  cases b
  simp_all

/-- Cells are ordered by line, and on one line by column. -/
instance : LinearOrder Cell :=
  LinearOrder.lift' (fun cell => toLex (cell.line, cell.column)) fun a b same => by
    have both := Prod.mk.inj (toLex_inj.1 same)
    exact ext_coordinates both.1 both.2

theorem lt_iff {a b : Cell} : a < b ↔ a.line < b.line ∨ a.line = b.line ∧ a.column < b.column :=
  Prod.Lex.toLex_lt_toLex

/-- A code point leads to a later cell. -/
theorem lt_past (cell : Cell) (c : CodePoint) : cell < cell.past c := by
  rw [lt_iff]
  unfold past
  split
  · left
    exact Nat.lt_succ_self _
  · right
    exact ⟨rfl, Nat.lt_succ_self _⟩

theorem le_foldl_past (cell : Cell) (t : Text) : cell ≤ t.foldl past cell := by
  induction t generalizing cell with
  | nil => exact le_rfl
  | cons c t ih => exact (lt_past cell c).le.trans (ih (cell.past c))

theorem lt_foldl_past (cell : Cell) {t : Text} (some_text : t ≠ []) : cell < t.foldl past cell := by
  cases t with
  | nil => exact absurd rfl some_text
  | cons c t => exact (lt_past cell c).trans_le (le_foldl_past (cell.past c) t)

theorem after_append (t u : Text) : after (t ++ u) = u.foldl past (after t) :=
  List.foldl_append

theorem after_le_after {p q : Text} (longer : p <+: q) : after p ≤ after q := by
  rcases longer with ⟨rest, rfl⟩
  rw [after_append]
  exact le_foldl_past _ rest

/-- A longer prefix leads to a later cell. -/
theorem after_lt_after {p q : Text} (longer : p <+: q) (differ : p ≠ q) : after p < after q := by
  rcases longer with ⟨rest, rfl⟩
  rw [after_append]
  exact lt_foldl_past _ (by simpa using differ)

/-- Text without a line feed is passed column by column. -/
theorem foldl_past_of_newline_not_mem (cell : Cell) {t : Text} (free : newline ∉ t) :
    t.foldl past cell = ⟨cell.line, cell.column + t.length, cell.line_pos,
      Nat.le_add_right_of_le cell.column_pos⟩ := by
  induction t generalizing cell with
  | nil => rfl
  | cons c t ih =>
      have other : c ≠ newline := fun same => free (by simp [same])
      rw [List.foldl_cons, ih _ fun mem => free (List.mem_cons_of_mem _ mem)]
      apply ext_coordinates
      · simp [past, other, nextColumn]
      · simp only [past, other, nextColumn, if_false, List.length_cons]
        omega

/-- Terminated lines lead from the start of a line to the start of the line that follows them. -/
theorem foldl_past_terminated {above : List Text} (free : ∀ line ∈ above, newline ∉ line) (n : Nat) :
    (Text.terminated above).foldl past ⟨n + 1, 1, Nat.le_add_left 1 n, le_rfl⟩ =
      ⟨n + above.length + 1, 1, Nat.le_add_left 1 _, le_rfl⟩ := by
  induction above generalizing n with
  | nil => rfl
  | cons line rest ih =>
      have behind := ih (fun l mem => free l (List.mem_cons_of_mem _ mem)) (n + 1)
      rw [Text.terminated_cons, List.foldl_append,
        foldl_past_of_newline_not_mem _ (free line (List.mem_cons_self ..)), List.foldl_cons]
      simp only [past, nextLine, if_true]
      rw [behind]
      apply ext_coordinates
      · simp only [List.length_cons]
        omega
      · rfl

/-- Behind terminated lines and a part of the next one: the line is the next one, the column the one behind
    that part. -/
theorem after_terminated_append {above : List Text} (free : ∀ line ∈ above, newline ∉ line) {last : Text}
    (last_free : newline ∉ last) :
    after (Text.terminated above ++ last) =
      ⟨above.length + 1, last.length + 1, Nat.le_add_left 1 _, Nat.le_add_left 1 _⟩ := by
  rw [after_append, after, first, foldl_past_terminated free 0, foldl_past_of_newline_not_mem _ last_free]
  apply ext_coordinates
  · simp
  · simp only
    omega

end Cell

/-!
### The cells of a text
-/

namespace Text

/-- A text has a cell for each character of each of its lines and one behind each line. -/
def HasCell (t : Text) (cell : Cell) : Prop :=
  ∃ line, t.lines[cell.line - 1]? = some line ∧ cell.column ≤ line.length + 1

/-- The part of a text in front of a cell: the lines above, each with its line feed, and the line itself as
    far as the cell. -/
def upTo (t : Text) (cell : Cell) : Text :=
  terminated (t.lines.take (cell.line - 1)) ++ (t.lines.getD (cell.line - 1) []).take (cell.column - 1)

variable {t p : Text} {cell : Cell}

theorem newline_not_mem_of_mem_take {n : Nat} {line : Text} (mem : line ∈ t.lines.take n) :
    newline ∉ line :=
  newline_not_mem_of_mem_lines (List.mem_of_mem_take mem)

/-- The cell behind the part in front of a cell is that cell. -/
theorem after_upTo (has : t.HasCell cell) : Cell.after (t.upTo cell) = cell := by
  rcases has with ⟨line, found, fits⟩
  have line_pos := cell.line_pos
  have column_pos := cell.column_pos
  have above : cell.line - 1 < t.lines.length := (List.getElem?_eq_some_iff.1 found).1
  have free : newline ∉ line.take (cell.column - 1) := fun mem =>
    newline_not_mem_of_mem_lines (List.mem_of_getElem? found) (List.mem_of_mem_take mem)
  rw [upTo, List.getD_eq_getElem?_getD, found, Option.getD_some,
    Cell.after_terminated_append (fun _ mem => newline_not_mem_of_mem_take mem) free]
  apply Cell.ext_coordinates
  · simp only [List.length_take]
    omega
  · simp only [List.length_take]
    omega

/-- The part in front of a cell is a part of the text. -/
theorem upTo_isPrefix (has : t.HasCell cell) : t.upTo cell <+: t := by
  rcases has with ⟨line, found, fits⟩
  rcases exists_eq_terminated_append found with ⟨rest, whole⟩
  rw [upTo, List.getD_eq_getElem?_getD, found, Option.getD_some]
  have longer := (List.prefix_append_right_inj (terminated (t.lines.take (cell.line - 1)))).2
    ((List.take_prefix (cell.column - 1) line).trans (List.prefix_append line rest))
  rwa [← whole] at longer

/-- The lines of a text above the place where a prefix of it ends, and the line of that place. -/
theorem exists_split_of_isPrefix (start : p <+: t) :
    ∃ above front behind, p = terminated above ++ front ∧ (∀ line ∈ above, newline ∉ line) ∧
      newline ∉ front ∧ t.lines.take above.length = above ∧
      t.lines[above.length]? = some (front ++ behind) := by
  rcases start with ⟨rest, rfl⟩
  rcases exists_terminated_append p with ⟨above, front, rfl, free, front_free⟩
  rcases List.exists_cons_of_ne_nil (lines_ne_nil rest) with ⟨first, others, split⟩
  have grown : lines (terminated above ++ front ++ rest) = above ++ (front ++ first) :: others := by
    rw [List.append_assoc, lines_terminated_append free, lines_append_of_newline_not_mem front_free, split]
    rfl
  refine ⟨above, front, first, rfl, free, front_free, ?_, ?_⟩
  · rw [grown, List.take_left]
  · rw [grown, List.getElem?_append_right le_rfl]
    simp

/-- The cell behind a prefix of a text is a cell of the text. -/
theorem hasCell_after (start : p <+: t) : t.HasCell (Cell.after p) := by
  rcases exists_split_of_isPrefix start with ⟨above, front, behind, rfl, free, front_free, -, found⟩
  rw [Cell.after_terminated_append free front_free]
  exact ⟨front ++ behind, found, by simp⟩

/-- A prefix of a text is the part in front of the cell behind it. -/
theorem upTo_after (start : p <+: t) : t.upTo (Cell.after p) = p := by
  rcases exists_split_of_isPrefix start with ⟨above, front, behind, rfl, free, front_free, taken, found⟩
  rw [Cell.after_terminated_append free front_free]
  simp only [upTo, Nat.add_sub_cancel, taken, List.getD_eq_getElem?_getD, found, Option.getD_some,
    List.take_left]

/-- A cell of a text is on one of its lines. -/
theorem HasCell.line_le (has : t.HasCell cell) : cell.line ≤ t.lines.length := by
  rcases has with ⟨line, found, -⟩
  have inside := (List.getElem?_eq_some_iff.1 found).1
  omega

end Text

end Marginalia
