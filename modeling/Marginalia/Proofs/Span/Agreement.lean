/-
Module: Marginalia.Proofs.Span.Agreement
Purpose: Searches and ranges of octets agree. A search works on the code points of single lines, a range on the
  octets of the whole content. Where the pattern of a search stands, the content in front of its cell goes on with the
  pattern, and both are prefixes with a cell behind them; so the octets in front of the match and those of the pattern
  make a range which ends inside the content and resolves to the position that the search has found.
Main exports: Text.upTo_append_isPrefix, Text.after_upTo_append, Search.octetsAt, Search.resolve_octetsAt,
  Search.resolve_agrees_with_octets
-/

import Mathlib.Data.List.Infix
import Marginalia.Proofs.Span.Construction
import Marginalia.Proofs.Span.Searching
import Marginalia.Proofs.Span.Stretches

namespace Marginalia

open CodePoint (newline)

namespace Text

variable {t part : Text} {cell : Cell}

theorem length_encode_pos (some_text : t ≠ []) : 1 ≤ t.encode.length := by
  rcases List.exists_cons_of_ne_nil some_text with ⟨c, rest, rfl⟩
  have width := c.width_pos
  rw [encode_cons, List.length_append, CodePoint.length_encode]
  exact width.trans_le (Nat.le_add_right ..)

/-- Where a part of a line stands, the text in front of its cell goes on with it. -/
theorem upTo_append_isPrefix {line : Text} (at_line : t.lines[cell.line - 1]? = some line)
    (stands : part <+: line.drop (cell.column - 1)) : t.upTo cell ++ part <+: t := by
  rcases exists_eq_terminated_append at_line with ⟨rest, whole⟩
  have on_line : line.take (cell.column - 1) ++ part <+: line := by
    have longer := (List.prefix_append_right_inj (line.take (cell.column - 1))).2 stands
    rwa [List.take_append_drop] at longer
  have through := (List.prefix_append_right_inj (terminated (t.lines.take (cell.line - 1)))).2
    (on_line.trans (List.prefix_append line rest))
  rw [← whole, ← List.append_assoc] at through
  rwa [upTo, List.getD_eq_getElem?_getD, at_line, Option.getD_some]

/-- Behind a part without a line feed the line is the same, and the column is as much further as the part is long. -/
theorem after_upTo_append (has : t.HasCell cell) (free : newline ∉ part) :
    Cell.after (t.upTo cell ++ part) = ⟨cell.line, cell.column + part.length, cell.line_pos,
      Nat.le_add_right_of_le cell.column_pos⟩ := by
  rw [Cell.after_append, after_upTo has, Cell.foldl_past_of_newline_not_mem cell free]

end Text

namespace Search

variable {s : Search} {name content : Text} {cell : Cell}

/-- Where a pattern stands there is a cell, the content in front of it goes on with the pattern, and the pattern has
    no line feed. -/
theorem StandsAt.upTo_append_isPrefix (stands : s.StandsAt (.ofText name content) cell) :
    content.HasCell cell ∧ content.upTo cell ++ s.pattern <+: content ∧ newline ∉ s.pattern := by
  rcases stands with ⟨line, found, stands⟩
  rw [Source.line_eq _ cell.line_pos, Except.ok.injEq] at found
  have at_line : content.lines[cell.line - 1]? = some line := found
  have on_line : s.pattern <+: line.drop (cell.column - 1) := by
    rw [← stands]
    exact List.take_prefix s.pattern.length _
  -- A pattern is not empty, so its line reaches behind the cell.
  have reaches : line.drop (cell.column - 1) ≠ [] := by
    intro none_left
    rw [none_left, List.prefix_nil] at on_line
    exact s.pattern_ne on_line
  have fits : cell.column - 1 < line.length := by
    rw [ne_eq, List.drop_eq_nil_iff] at reaches
    exact Nat.not_le.1 reaches
  refine ⟨⟨line, at_line, Nat.le_succ_of_le (Nat.le_of_pred_lt fits)⟩,
    Text.upTo_append_isPrefix at_line on_line, ?_⟩
  intro mem
  apply Text.newline_not_mem_of_mem_lines (List.mem_of_getElem? at_line)
  exact List.mem_of_mem_drop (on_line.subset mem)

/-- The octets of a match at a cell: behind those of the content in front of the cell, as many as the pattern has. -/
def octetsAt (s : Search) (content : Text) (cell : Cell) : OctetRange where
  start := (content.upTo cell).encode.length
  length := s.pattern.encode.length
  length_pos := Text.length_encode_pos s.pattern_ne

theorem stop_octetsAt (s : Search) (content : Text) (cell : Cell) :
    (content.upTo cell ++ s.pattern).encode.length = (s.octetsAt content cell).stop := by
  rw [Text.encode_append, List.length_append]
  rfl

/-- The octets of a match lie inside the content. -/
theorem stop_octetsAt_le (stands : s.StandsAt (.ofText name content) cell) :
    (s.octetsAt content cell).stop ≤ content.encode.length := by
  rcases stands.upTo_append_isPrefix with ⟨-, within, -⟩
  rw [← stop_octetsAt]
  exact (within.flatMap CodePoint.encode).length_le

/-- The octets of a match resolve to the position of the match. -/
theorem resolve_octetsAt (stands : s.StandsAt (.ofText name content) cell) :
    ((s.octetsAt content cell).resolve (some (.ofText name content))).value = s.foundAt cell := by
  rcases stands.upTo_append_isPrefix with ⟨has, within, free⟩
  rw [OctetRange.resolve_of_boundaries _ name ((List.prefix_append _ _).trans within) within rfl
    (s.stop_octetsAt content cell), Text.after_upTo has, Text.after_upTo_append has free, foundAt]

/-- A search that matches and the octets of its match agree. What the search resolves to, unless it is a point, is a
    stretch of one line as long as the pattern. The number of octets of the content in front of it, that is of the
    lines above, each with its line feed, and of what the line has in front of the column, and the number of octets
    of the pattern are accepted as a range; this range ends inside the content and resolves to the same position. -/
theorem resolve_agrees_with_octets (s : Search) (name content : Text) (position : Position)
    (resolved : ((Span.search s).resolve (some (.ofText name content))).outcome = .ok position)
    (matched : position.isPoint = false) :
    position.stop = some ⟨position.start.line, position.start.column + s.pattern.length, position.start.line_pos,
        Nat.le_add_right_of_le position.start.column_pos⟩ ∧
      ∃ r length, OctetRange.ofValues SpanField.check (.int (content.upTo position.start).encode.length)
          (.int s.pattern.encode.length) = .ok r ∧
        r.start = (content.upTo position.start).encode.length ∧ r.length = s.pattern.encode.length ∧
        (Source.ofText name content).octetLength = some length ∧ r.stop ≤ length ∧
        ((Span.octets r).resolve (some (.ofText name content))).outcome = .ok position := by
  rcases s.outcome_resolve (.ofText name content) with ⟨cell, least, found⟩ | ⟨-, fell_back⟩
  · obtain rfl : s.foundAt cell = position := Except.ok.inj (found.symm.trans resolved)
    refine ⟨rfl, s.octetsAt content cell, content.encode.length, (s.octetsAt content cell).ofValues_numbers, rfl, rfl,
      rfl, stop_octetsAt_le least.1.stands, congrArg Except.ok (resolve_octetsAt least.1.stands)⟩
  · obtain rfl : s.fallback = position := Except.ok.inj (fell_back.symm.trans resolved)
    cases matched

/-- A search for two letters, the first of two octets, on the second line. -/
def repeatedSample : Search where
  line := 1
  pattern := ['é', 'z']
  afterColumn := 2
  maxLines := 1000
  line_pos := Cell.first.line_pos
  pattern_ne := by decide
  afterColumn_pos := Cell.first.nextColumn.column_pos
  maxLines_pos := by decide

/-- Two lines, on each of which the letters stand. -/
def repeatedContent : Text := ['é', 'z', '\n', '日', 'é', 'z']

/-- The search starts behind the first occurrence and finds the one on the second line, which stands at seven octets
    behind the start of the content and takes three. -/
theorem resolve_agrees_with_octets_second_line :
    ∃ position r, ((Span.search repeatedSample).resolve (some (.ofText [] repeatedContent))).outcome = .ok position ∧
      position = .between ⟨2, 2, by decide, by decide⟩ ⟨2, 4, by decide, by decide⟩ ∧ r.start = 7 ∧ r.length = 3 ∧
      ((Span.octets r).resolve (some (.ofText [] repeatedContent))).outcome = .ok position := by
  have resolved : ((Span.search repeatedSample).resolve (some (.ofText [] repeatedContent))).outcome =
      .ok (.between ⟨2, 2, by decide, by decide⟩ ⟨2, 4, by decide, by decide⟩) := by rfl
  obtain ⟨-, r, length, -, start, octets, -, -, also⟩ :=
    repeatedSample.resolve_agrees_with_octets [] repeatedContent _ resolved rfl
  exact ⟨_, r, resolved, rfl, start, octets, also⟩

end Search

end Marginalia
