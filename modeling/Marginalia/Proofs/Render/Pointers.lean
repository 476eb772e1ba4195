/-
Module: Marginalia.Proofs.Render.Pointers
Purpose: How the two rows of a pointer line up. The underline has as many glyphs as columns are marked, one of them
  a tee in the middle and all others dashes, and starts at the first of these columns; in the row below it stands a
  corner in the column of the tee, with the message behind it. Both rows are made by separate expressions, from the
  same indentation and the same middle. Where a label is drawn, its two rows stand one below the other among the rows
  of its line.
Main exports: getElem?_underline, snd_underline, PointerGeometry, pointerGeometry, mem_glyphColumns_underlineRow_iff,
  pointerRows_isInfix_lineRows, pointerRows_line_up
-/

import Marginalia.Proofs.Render.Underline

namespace Marginalia

open Render

namespace Render

/-!
### The underline
-/

theorem tee_ne_horizontal : tee ≠ horizontal := by decide

/-- The middle glyph of an underline, or the left one of the two in the middle, is the tee, and all others are
    dashes. -/
theorem getElem?_underline {marked i : Nat} (inside : i < marked) :
    (underline marked).1[i]? = some (if i = (marked - 1) / 2 then tee else horizontal) := by
  rw [underline]
  split
  next narrow =>
    obtain rfl : i = 0 := by omega
    rw [if_pos (by omega)]
    rfl
  next wide =>
    simp only
    rcases Nat.lt_trichotomy i ((marked - 1) / 2) with before | at_middle | behind
    · rw [List.getElem?_append_left (by rwa [List.length_replicate]), List.getElem?_replicate_of_lt before,
        if_neg before.ne]
    · rw [List.getElem?_append_right (by rw [List.length_replicate, at_middle]), List.length_replicate, at_middle,
        Nat.sub_self, List.getElem?_cons_zero, if_pos rfl]
    · obtain ⟨more, rfl⟩ := Nat.exists_eq_add_of_lt behind
      rw [List.getElem?_append_right (by rw [List.length_replicate]; omega), List.length_replicate,
        if_neg behind.ne', show (marked - 1) / 2 + more + 1 - (marked - 1) / 2 = more + 1 by omega,
        List.getElem?_cons_succ, List.getElem?_replicate_of_lt (by omega)]

/-- The index that comes with an underline is the one of its tee. -/
theorem snd_underline (marked : Nat) : (underline marked).2 = (marked - 1) / 2 := by
  rw [underline]
  split
  next narrow =>
    simp only
    omega
  next => rfl

theorem count_tee_underline (marked : Nat) : (underline marked).1.count tee = 1 := by
  rw [underline]
  split
  next => rfl
  next => simp [List.count_replicate, tee_ne_horizontal.symm]

/-!
### The two rows
-/

/-- How the rows of a pointer line up behind a gutter of some width. The underline starts in some column and has as
    many glyphs as columns are marked, one tee in their middle and dashes otherwise; below the tee stands the corner
    with the message, and nothing but blanks in front of it. -/
structure PointerGeometry (width start marked : Nat) (message : Text) (under below : Text) : Prop where
  gutter : (plainGutter width).length = width + 3
  underline : ∃ glyphs, under = plainGutter width ++ Text.blanks (start - 1) ++ glyphs ∧ glyphs.length = marked ∧
    glyphs.count tee = 1 ∧ ∀ i < marked, glyphs[i]? = some (if i = (marked - 1) / 2 then tee else horizontal)
  middle : ∀ i, under[i]? = some tee ↔ i = width + 3 + (start - 1) + (marked - 1) / 2
  corner : below[width + 3 + (start - 1) + (marked - 1) / 2]? = some bottomLeft
  message : ∃ indent, below = plainGutter width ++ Text.blanks indent ++
    [bottomLeft, horizontal, horizontal, CodePoint.blank] ++ message

/-- Behind its front a row has a tee only where its underline has it. -/
theorem getElem?_underlineRow_eq_tee_iff {width : Nat} {position : Position} {i : Nat} :
    (underlineRow width position)[i]? = some tee ↔
      i = width + 3 + (position.start.column - 1) + (markedWidth position - 1) / 2 := by
  have some_marked := one_le_markedWidth position
  have front := length_pointerFront width (position.start.column - 1)
  rw [underlineRow]
  rcases Nat.lt_or_ge i (width + 3 + (position.start.column - 1)) with in_front | behind
  · rw [List.getElem?_append_left (by rwa [front])]
    refine iff_of_false ?_ (by omega)
    intro is_tee
    exact (ne_glyph_of_mem_pointerFront tee (List.mem_of_getElem? is_tee)).2 rfl
  · obtain ⟨j, rfl⟩ := Nat.exists_eq_add_of_le behind
    rw [List.getElem?_append_right (by rw [front]; exact behind), front, Nat.add_sub_cancel_left]
    rcases Nat.lt_or_ge j (markedWidth position) with inside | outside
    · rw [getElem?_underline inside, Option.some.injEq, Nat.add_left_cancel_iff]
      split
      next at_middle => exact iff_of_true rfl at_middle
      next elsewhere => exact iff_of_false tee_ne_horizontal.symm elsewhere
    · rw [List.getElem?_eq_none (by rwa [length_underline some_marked])]
      exact iff_of_false (by simp) (by omega)

/-- The rows of a label on a position line up. -/
theorem pointerGeometry (width : Nat) (label : Label) (position : Position) :
    PointerGeometry width position.start.column (markedWidth position) (label.message.getD [])
      (underlineRow width position) (messageRow width label position) := by
  have front := length_pointerFront width (position.start.column - 1 + (markedWidth position - 1) / 2)
  refine ⟨?_, ⟨_, rfl, length_underline (one_le_markedWidth position), count_tee_underline _,
    fun i inside => getElem?_underline inside⟩, fun i => getElem?_underlineRow_eq_tee_iff, ?_, ⟨_, rfl⟩⟩
  · rw [← List.append_nil (plainGutter width)]
    exact length_pointerFront width 0
  · rw [messageRow, snd_underline, List.append_assoc, List.getElem?_append_right (by rw [front]; omega), front,
      Nat.add_assoc, Nat.sub_self]
    rfl

/-- The glyphs of an underline stand in the columns from the first one on, as many as are marked. -/
theorem mem_glyphColumns_underlineRow_iff {width : Nat} {position : Position} {i : Nat} :
    i ∈ glyphColumns (underlineRow width position) ↔
      ∃ column, position.start.column ≤ column ∧ column < position.start.column + markedWidth position ∧
        i = width + 2 + column := by
  have column_pos := position.start.column_pos
  rw [glyphColumns_underlineRow, List.mem_range'_1]
  constructor
  · rintro ⟨from_first, to_last⟩
    exact ⟨i - (width + 2), by omega, by omega, by omega⟩
  · rintro ⟨column, from_first, to_last, rfl⟩
    omega

/-- On one line a position marks the columns of its range, and the first one if there are none. -/
theorem markedWidth_of_singleLineRange? {position : Position} {line first stop : Nat}
    (on_line : position.singleLineRange? = some (line, first, stop)) :
    position.start.column = first ∧ markedWidth position = max 1 (stop - first) := by
  rw [Position.singleLineRange?] at on_line
  rw [markedWidth]
  split at on_line
  next no_stop =>
    cases on_line
    rw [no_stop, Nat.add_sub_cancel_left]
    exact ⟨rfl, rfl⟩
  next cell at_stop =>
    split at on_line
    next =>
      cases on_line
      rw [at_stop]
      exact ⟨rfl, rfl⟩
    next => cases on_line

/-!
### The rows of a label among those of its line
-/

theorem isInfix_flatMap_of_mem {α β : Type} {l : List α} {a : α} (mem : a ∈ l) (f : α → List β) :
    f a <:+: l.flatMap f := by
  rw [List.flatMap_def]
  exact List.infix_of_mem_flatten (List.mem_map_of_mem mem)

/-- The rows of a label stand one below the other among the rows of its line. -/
theorem pointerRows_isInfix_lineRows (p : Palette) (width : Nat) (text : Text) {labels : List PositionedLabel}
    {l : PositionedLabel} (mem : l ∈ labels) :
    pointerRows p width l.label l.position <:+: lineRows p width labels l.line text := by
  have on_line : l ∈ labels.filter fun other => other.line = l.line :=
    List.mem_filter.2 ⟨mem, decide_eq_true rfl⟩
  rw [lineRows]
  split
  next no_labels =>
    rw [no_labels] at on_line
    exact absurd on_line List.not_mem_nil
  next =>
    apply List.infix_cons
    exact isInfix_flatMap_of_mem on_line fun other => pointerRows p width other.label other.position

/-- The two rows of a pointer line up. Drawn without colours, a label on a position takes two rows in every gutter:
    the underline marks as many columns as there are from the first one up to the column of the stop, at least one,
    and for a point one; its tee stands in the middle of them, to the left if there are two middles, and the corner
    in front of the message stands in the column of the tee. A position on one line marks exactly the columns of
    its range, and its first one if the range is empty or runs backwards. Wherever labels are drawn below the line
    on which they start, each of them has its two rows there, one below the other. -/
theorem pointerRows_line_up (width : Nat) (label : Label) (position : Position) :
    ∃ under below, pointerRows .plain width label position = [under, below] ∧
      PointerGeometry width position.start.column
        (position.stop.elim 1 fun stop => max 1 (stop.column - position.start.column)) (label.message.getD [])
        under below ∧
      (∀ line first stop, position.singleLineRange? = some (line, first, stop) → ∀ i, i ∈ glyphColumns under ↔
        ∃ column, first ≤ column ∧ column ≤ max first (stop - 1) ∧ i = width + 2 + column) ∧
      ∀ (labels : List PositionedLabel) (text : Text), ⟨label, position⟩ ∈ labels →
        [under, below] <:+: lineRows .plain width labels position.start.line text := by
  refine ⟨_, _, pointerRows_plain width label position, ?_, ?_, ?_⟩
  · have marked : (position.stop.elim 1 fun stop => max 1 (stop.column - position.start.column)) =
        markedWidth position := by
      rw [markedWidth]
      cases position.stop <;> rfl
    rw [marked]
    exact pointerGeometry width label position
  · intro line first stop on_line i
    rcases markedWidth_of_singleLineRange? on_line with ⟨rfl, marked⟩
    have column_pos := position.start.column_pos
    rw [mem_glyphColumns_underlineRow_iff, marked]
    apply exists_congr
    intro column
    rw [and_congr_right_iff]
    intro from_first
    apply and_congr_left
    intro _
    omega
  · intro labels text mem
    rw [← pointerRows_plain]
    exact pointerRows_isInfix_lineRows .plain width text mem

/-- A label with a message on the columns three to six of a second line. -/
def evenSample : PositionedLabel :=
  ⟨.primary (.tuple [.int 2, .int 3, .int 2, .int 7]) (some ['x']) none,
    .between (.after ['\n', 'a', 'b']) (.after ['\n', 'a', 'b', 'c', 'd', 'e', 'f'])⟩

/-- Of four columns the tee marks the second one, and the corner stands below it. -/
theorem pointerRows_line_up_even :
    ∃ under below, pointerRows .plain 1 evenSample.label evenSample.position = [under, below] ∧
      under = Text.of "  •   ─┬──" ∧ below = Text.of "  •    ╰── x" ∧
      (∀ i, i ∈ glyphColumns under ↔ ∃ column, 3 ≤ column ∧ column ≤ 6 ∧ i = 3 + column) ∧
      [under, below] <:+: lineRows .plain 1 [evenSample] 2 ['a'] := by
  obtain ⟨under, below, rows, -, columns, drawn⟩ :=
    pointerRows_line_up 1 evenSample.label evenSample.position
  have evaluated : pointerRows .plain 1 evenSample.label evenSample.position =
      [Text.of "  •   ─┬──", Text.of "  •    ╰── x"] := by decide
  cases evaluated.symm.trans rows
  exact ⟨_, _, rows, rfl, rfl, columns 2 3 7 rfl, drawn [evenSample] ['a'] (List.mem_singleton_self _)⟩

end Render

end Marginalia
