/-
Module: Marginalia.Proofs.Span.Selection
Purpose: What a span selects. A position covers a text if the text stands on the position's line, from its
  first column up to the column of its stop. A search that finds its pattern resolves to a position that
  covers the pattern, and a range of octets between two boundaries, without a line feed, to one that covers
  the text which these octets encode.
Main exports: Position.Covers, OctetRange.slice, Span.SelectsOnLine, Span.IsSelected,
  Span.IsSelected.unique, Span.SelectsOnLine.exists_covers
-/

import Marginalia.Proofs.Span.Resolution

namespace Marginalia

/-- A position covers a text that stands on its line, from its first column up to its stop. -/
def Position.Covers (source : Source) (position : Position) (selected : Text) : Prop :=
  ∃ stop text, position.stop = some stop ∧ source.line position.start.line = .ok (some text) ∧
    selected <+: text.drop (position.start.column - 1) ∧
    stop.column = position.start.column + selected.length

/-- The octets that a range names. -/
def OctetRange.slice (r : OctetRange) (octets : Octets) : Octets := (octets.drop r.start).take r.length

/-- A span selects text on one line: a search that finds its pattern does, and so do octets inside the
    content, between two boundaries and without a line feed. -/
inductive Span.SelectsOnLine (source : Source) (content : Text) : Span → Prop where
  | search (s : Search) (position : Position)
      (found : s.scan source s.line s.line_pos (s.afterColumn - 1) s.maxLines = .ok (some position)) :
      SelectsOnLine source content (.search s)
  | octets (r : OctetRange) (inside : r.stop ≤ content.encode.length) (starts : content.IsBoundary r.start)
      (stops : content.IsBoundary r.stop) (one_line : (0x0A : UInt8) ∉ r.slice content.encode) :
      SelectsOnLine source content (.octets r)

/-- The selected text: the pattern of a search, or what the octets of a range encode. -/
def Span.IsSelected (content selected : Text) : Span → Prop
  | .position _ => False
  | .octets r => selected.encode = r.slice content.encode
  | .search s => selected = s.pattern

/-- A span selects no second text, since octets encode one text at most. -/
theorem Span.IsSelected.unique {span : Span} {content a b : Text} (ha : span.IsSelected content a)
    (hb : span.IsSelected content b) : a = b := by
  cases span with
  | position p => exact absurd ha id
  | octets r => exact Text.encode_injective (Eq.trans ha (Eq.symm hb))
  | search s => exact Eq.trans ha (Eq.symm hb)

/-- A search that finds something resolves to a position that covers its pattern. -/
theorem Search.exists_covers {s : Search} {source : Source} {position : Position}
    (found : s.scan source s.line s.line_pos (s.afterColumn - 1) s.maxLines = .ok (some position)) :
    (s.resolve (some source)).outcome = .ok position ∧ position.Covers source s.pattern := by
  refine ⟨s.resolve_of_scan source found, ?_⟩
  rcases s.exists_found_of_scan source _ _ _ _ found with ⟨line, line_pos, index, text, rfl, at_line, stands⟩
  refine ⟨⟨line, index + 1 + s.pattern.length, line_pos, by omega⟩, text, rfl, ?_, stands, rfl⟩
  rw [← at_line]
  exact source.line_eq line_pos

/-- Behind a text without a line feed the line is the same, and text stands where it was read. -/
theorem covers_between_after {source : Source} {content front selected : Text}
    (known : source.content = some content) (starts : front ++ selected <+: content)
    (free : CodePoint.newline ∉ selected) :
    (Position.between (Cell.after front) (Cell.after (front ++ selected))).Covers source selected := by
  rcases starts with ⟨rest, rfl⟩
  rcases Text.exists_terminated_append front with ⟨above, last, rfl, above_free, last_free⟩
  -- The line on which the text stands goes on as the rest does.
  rcases List.exists_cons_of_ne_nil (Text.lines_ne_nil rest) with ⟨first, others, split⟩
  have on_line_free : CodePoint.newline ∉ last ++ selected := by
    rw [List.mem_append]
    rintro (mem | mem)
    · exact last_free mem
    · exact free mem
  have lines : (Text.terminated above ++ last ++ selected ++ rest).lines =
      above ++ (last ++ selected ++ first) :: others := by
    rw [List.append_assoc (Text.terminated above), List.append_assoc (Text.terminated above),
      Text.lines_terminated_append above_free, Text.lines_append_of_newline_not_mem on_line_free, split]
    rfl
  have start := Cell.after_terminated_append above_free last_free
  have stop := Cell.after_terminated_append above_free on_line_free
  rw [← List.append_assoc] at stop
  refine ⟨_, last ++ selected ++ first, rfl, ?_, ?_, ?_⟩
  · rw [Position.between, start, source.line_eq (Nat.le_add_left 1 _), Source.lines, known]
    simp only [Option.map_some, Option.bind_some, lines, Nat.add_sub_cancel]
    rw [List.getElem?_append_right le_rfl, Nat.sub_self, List.getElem?_cons_zero]
  · simp only [Position.between, start, Nat.add_sub_cancel, List.append_assoc, List.drop_left]
    exact List.prefix_append selected first
  · simp only [Position.between, start, stop, List.length_append]
    omega

/-- The octets of a range between the ends of two prefixes encode what the longer prefix has more. -/
theorem OctetRange.encode_eq_slice {r : OctetRange} {content front selected : Text}
    (starts : front ++ selected <+: content) (start : front.encode.length = r.start)
    (stop : (Text.encode (front ++ selected)).length = r.stop) : selected.encode = r.slice content.encode := by
  rcases starts with ⟨rest, rfl⟩
  rw [Text.encode_append, List.length_append, OctetRange.stop, start] at stop
  have length := Nat.add_left_cancel stop
  rw [OctetRange.slice, Text.encode_append, Text.encode_append, List.append_assoc, ← start, List.drop_left,
    ← length, List.take_left]

/-- A range of octets between two boundaries, without a line feed, resolves to a position that covers the
    text which the octets encode. -/
theorem OctetRange.exists_covers {r : OctetRange} {source : Source} {content : Text}
    (known : source.content = some content) (starts : content.IsBoundary r.start)
    (stops : content.IsBoundary r.stop) (one_line : (0x0A : UInt8) ∉ r.slice content.encode) :
    ∃ position selected, (r.resolve (some source)).value = position ∧
      selected.encode = r.slice content.encode ∧ position.Covers source selected := by
  rcases starts with ⟨front, front_starts, start⟩
  rcases stops with ⟨upTo, upTo_starts, stop⟩
  have ordered : front.encode.length ≤ upTo.encode.length := by
    rw [start, stop]
    exact Nat.le_add_right r.start r.length
  rcases Source.isPrefix_of_length_encode_le front_starts upTo_starts ordered with ⟨selected, rfl⟩
  have encodes := encode_eq_slice upTo_starts start stop
  rcases source with ⟨name, content⟩
  cases known
  refine ⟨_, selected, r.resolve_of_boundaries name front_starts upTo_starts start stop, encodes, ?_⟩
  apply covers_between_after rfl upTo_starts
  intro mem
  rw [← encodes] at one_line
  exact one_line (Text.newline_octet_mem_encode mem)

/-- A span that selects text on one line resolves to a position that covers the selected text, and there is
    some. -/
theorem Span.SelectsOnLine.exists_covers {span : Span} {source : Source} {content : Text}
    (selects : span.SelectsOnLine source content) (known : source.content = some content) :
    ∃ position selected, (span.resolve (some source)).outcome = .ok position ∧
      span.IsSelected content selected ∧ selected ≠ [] ∧ position.Covers source selected := by
  cases selects with
  | search s position found =>
      rcases Search.exists_covers found with ⟨resolved, covers⟩
      exact ⟨position, s.pattern, resolved, rfl, s.pattern_ne, covers⟩
  | octets r inside starts stops one_line =>
      obtain ⟨position, selected, resolved, encodes, covers⟩ :=
        OctetRange.exists_covers known starts stops one_line
      refine ⟨position, selected, congrArg Except.ok resolved, encodes, ?_, covers⟩
      rintro rfl
      -- No text would be no octets, but a range has some, and they lie inside.
      have none_left := congrArg List.length encodes
      have some_octets := r.length_pos
      rw [OctetRange.stop] at inside
      simp only [Text.encode_nil, List.length_nil, OctetRange.slice, List.length_take, List.length_drop]
        at none_left
      omega

end Marginalia
