/-
Module: Marginalia.Proofs.Render.Limits
Purpose: What is small is drawn. No cell of a text lies further down or to the right than the text is long, so a
  span of small numbers resolves to a position of small numbers in every short source, and in every other
  case to one of its own numbers. Numerals of such numbers are short and rows up to such columns fit into
  memory, so that no limit stands in the way of drawing.
Main exports: Text.HasCell.line_le_length, Text.HasCell.column_le_length, Position.Within, Span.Within,
  Span.Within.resolve, Render.withinLimits_of_within
-/

import Marginalia.Proofs.Render.Degradation
import Marginalia.Proofs.Render.Reach

namespace Marginalia

open Render

/-!
### The size of a text
-/

namespace Text

variable {t : Text} {cell : Cell}

theorem HasCell.line_le_length (has : t.HasCell cell) : cell.line ≤ t.length + 1 := by
  have within := (upTo_isPrefix has).length_le
  have line := Cell.line_after (t.upTo cell)
  rw [after_upTo has] at line
  have feeds := List.count_le_length (l := t.upTo cell) (a := CodePoint.newline)
  omega

theorem HasCell.column_le_length (has : t.HasCell cell) : cell.column ≤ t.length + 1 := by
  have within := (upTo_isPrefix has).length_le
  have column := Cell.column_after (t.upTo cell)
  rw [after_upTo has] at column
  have last_line := (List.rtakeWhile_suffix (fun c => decide (c ≠ CodePoint.newline)) (t.upTo cell)).length_le
  omega

end Text

/-!
### Small spans
-/

/-- A position whose numbers are at most a limit. -/
structure Position.Within (limit : Nat) (p : Position) : Prop where
  line : p.start.line ≤ limit
  column : p.start.column ≤ limit
  stop : ∀ stop ∈ p.stop, stop.column ≤ limit

/-- A span of which every number that may be drawn is at most a limit. -/
def Span.Within (limit : Nat) : Span → Prop
  | .position p => p.Within limit
  | .octets _ => True
  | .search s => s.line ≤ limit ∧ s.afterColumn ≤ limit

variable {limit : Nat} {source : Option Source} {position : Position}

theorem Position.Within.point {cell : Cell} (line : cell.line ≤ limit) (column : cell.column ≤ limit) :
    (Position.point cell).Within limit :=
  ⟨line, column, fun _ none_there => nomatch none_there⟩

theorem Position.Within.between {start stop : Cell} (line : start.line ≤ limit) (column : start.column ≤ limit)
    (stop_column : stop.column ≤ limit) : (Position.between start stop).Within limit :=
  ⟨line, column, fun _ same => Option.some.inj same ▸ stop_column⟩

/-- Two cells of a text that is shorter than a limit make a position within it. -/
theorem Text.HasCell.within_between {content : Text} {start stop : Cell} (short : content.length < limit)
    (has_start : content.HasCell start) (has_stop : content.HasCell stop) :
    (Position.between start stop).Within limit :=
  .between (has_start.line_le_length.trans short) (has_start.column_le_length.trans short)
    (has_stop.column_le_length.trans short)

theorem OctetRange.within_resolve (r : OctetRange) (some_cell : 1 ≤ limit)
    (short : ∀ content ∈ source.bind Source.content, content.length < limit) :
    (r.resolve source).value.Within limit := by
  have first : (Position.point Cell.first).Within limit := .point some_cell some_cell
  rcases source with - | ⟨name, - | content⟩
  · exact first
  · rw [r.resolve_of_content_eq_none rfl]
    exact first
  · have short := short content rfl
    rw [resolve]
    split
    next => exact first
    next start at_start =>
      have has_start := (Source.hasCell_of_cellAt? name at_start).2
      split
      next =>
        exact Position.Within.point (has_start.line_le_length.trans short) (has_start.column_le_length.trans short)
      next stop at_stop => exact has_start.within_between short (Source.hasCell_of_cellAt? name at_stop).2

theorem Search.within_resolve {s : Search} (line : s.line ≤ limit) (column : s.afterColumn ≤ limit)
    (short : ∀ content ∈ source.bind Source.content, content.length < limit)
    (resolved : (s.resolve source).outcome = .ok position) : position.Within limit := by
  have fallback : s.fallback.Within limit := Position.Within.point line column
  rcases source with - | ⟨name, - | content⟩
  · rw [s.outcome_resolve_of_content_eq_none rfl, Except.ok.injEq] at resolved
    exact resolved ▸ fallback
  · rw [s.outcome_resolve_of_content_eq_none rfl, Except.ok.injEq] at resolved
    exact resolved ▸ fallback
  · rcases s.outcome_resolve (.ofText name content) with ⟨cell, least, -⟩ | ⟨-, missed⟩
    · rcases Search.exists_between least.1 with ⟨start, stop, found, has_start, has_stop, -⟩
      obtain rfl : Position.between start stop = position := Except.ok.inj (found.symm.trans resolved)
      exact has_start.within_between (short content rfl) has_stop
    · obtain rfl : s.fallback = position := Except.ok.inj (missed.symm.trans resolved)
      exact fallback

/-- A small span resolves to a small position, whether its source is short, has no content or is missing. -/
theorem Span.Within.resolve {span : Span} (small : span.Within limit) (some_cell : 1 ≤ limit)
    (short : ∀ content ∈ source.bind Source.content, content.length < limit)
    (resolved : (span.resolve source).outcome = .ok position) : position.Within limit := by
  cases span with
  | position p =>
      obtain rfl : p = position := Except.ok.inj resolved
      exact small
  | octets r =>
      obtain rfl : (r.resolve source).value = position := Except.ok.inj resolved
      exact r.within_resolve some_cell short
  | search s => exact Search.within_resolve small.1 small.2 short resolved

/-!
### Within the limits of drawing
-/

namespace Render

theorem writable_of_le {n : Nat} (le : n ≤ memoryLimit) : Numeral.Writable n :=
  Numeral.writable_of_ten_digits (le.trans_lt (by decide))

theorem smallEnough_of_within {contextLines : Nat} (within : position.Within limit)
    (fits : 2 * limit + contextLines ≤ memoryLimit) : SmallEnough source contextLines position := by
  have line := within.line
  have column := within.column
  refine ⟨writable_of_le (by omega), writable_of_le (by omega), ?_⟩
  intro count _ _
  have marked : markedWidth position ≤ max 1 limit := by
    rw [markedWidth]
    split
    next stop known =>
      have stop_column := within.stop stop known
      omega
    next => exact Nat.le_max_left ..
  have column_pos := position.start.column_pos
  omega

/-- A label that is placed on cells stands for a span that resolves to them. -/
theorem exists_span_of_placed {label : Label}
    (placed : (placeLabel source label).outcome = .ok ⟨label, .cells position⟩) :
    ∃ span, label.toSpan = .ok span ∧ (span.resolve source).outcome = .ok position := by
  cases source with
  | some source =>
      rcases placeLabel_eq_ok_iff.1 placed with ⟨⟨_, _⟩, ⟨rfl, span, is_span, resolved⟩, same⟩
      obtain rfl := Place.cells.inj (PlacedLabel.mk.inj same).2
      exact ⟨span, is_span, resolved⟩
  | none =>
      simp only [placeLabel, Checked.outcome_bind, Checked.outcome_ofExcept, bind_eq_ok_iff,
        mapError_eq_ok_iff] at placed
      rcases placed with ⟨span, is_span, placed⟩
      refine ⟨span, is_span, ?_⟩
      cases span with
      | position p =>
          obtain rfl := Place.cells.inj (PlacedLabel.mk.inj (Except.ok.inj placed)).2
          rfl
      | octets r => cases placed
      | search s =>
          obtain rfl := Place.cells.inj (PlacedLabel.mk.inj (Except.ok.inj placed)).2
          rfl

/-- Labels on small spans are within the limits of drawing if the source, where there is one, is short. -/
theorem withinLimits_of_within {contextLines : Nat} {labels : List Label}
    (small : ∀ label ∈ labels, ∀ span, label.toSpan = .ok span → span.Within limit) (some_cell : 1 ≤ limit)
    (short : ∀ content ∈ source.bind Source.content, content.length < limit)
    (fits : 2 * limit + contextLines ≤ memoryLimit) : WithinLimits source contextLines labels := by
  intro label mem position placed
  rcases exists_span_of_placed placed with ⟨span, is_span, resolved⟩
  exact smallEnough_of_within ((small label mem span is_span).resolve some_cell short resolved) fits

end Render

end Marginalia
