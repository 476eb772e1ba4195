/-
Module: Marginalia.Proofs.Span.Stretches
Purpose: The text that a range of octets names. From one cell of a text up to another one reads the lines between
  them, joined by line feeds, the last line up to the second cell and the first one from the first cell on. Between
  the cells behind two prefixes stands what the longer prefix has more than the shorter one. A range that ends
  inside the content resolves to the cells behind the longest prefixes that its two ends have room for, so what it
  selects lies between these prefixes, and between two boundaries it is the text that the named octets encode.
Main exports: Text.linesUpTo, Text.between, Text.between_eq_drop, Text.between_after,
  OctetRange.resolve_of_stop_le, OctetRange.resolve_selects_octets
-/

import Marginalia.Proofs.Source.Offsets
import Marginalia.Proofs.Span.Selection

namespace Marginalia

open CodePoint (newline)

/-- A later cell does not stand on an earlier line. -/
theorem Cell.line_le_of_le {a b : Cell} (le : a ≤ b) : a.line ≤ b.line := by
  by_contra above
  exact absurd (Cell.lt_iff.2 (.inl (Nat.not_le.1 above))) (not_lt.2 le)

namespace Text

/-!
### Text between two cells
-/

/-- The lines of a text as far as a cell: those above it, and its own line up to it. -/
def linesUpTo (t : Text) (cell : Cell) : List Text :=
  t.lines.take (cell.line - 1) ++ [(t.lines.getD (cell.line - 1) []).take (cell.column - 1)]

/-- The text from one cell up to another: the lines as far as the second one, from the line of the first one on,
    joined by line feeds, without what the first of these lines has in front of the first cell. -/
def between (t : Text) (start stop : Cell) : Text :=
  ([newline].intercalate ((t.linesUpTo stop).drop (start.line - 1))).drop (start.column - 1)

variable {t p q : Text} {start stop cell : Cell}

/-- The lines as far as a cell, joined, are the part of the text in front of the cell. -/
theorem intercalate_linesUpTo (t : Text) (cell : Cell) : [newline].intercalate (t.linesUpTo cell) = t.upTo cell := by
  rw [linesUpTo, upTo, ← terminated_append_intercalate _ (List.cons_ne_nil _ []), List.intercalate_singleton]

theorem length_linesUpTo (on_line : cell.line ≤ t.lines.length) : (t.linesUpTo cell).length = cell.line := by
  have line_pos := cell.line_pos
  rw [linesUpTo, List.length_append, List.length_take, List.length_singleton]
  omega

/-- Above the line of a cell the lines are whole. -/
theorem take_linesUpTo {n : Nat} (on_line : cell.line ≤ t.lines.length) (above : n ≤ cell.line - 1) :
    (t.linesUpTo cell).take n = t.lines.take n := by
  rw [linesUpTo, List.take_append_of_le_length, List.take_take, Nat.min_eq_left above]
  rw [List.length_take]
  omega

/-- Between two cells stands what is left of the part in front of the second one when the part in front of the
    first one is dropped. -/
theorem between_eq_drop (has : t.HasCell start) (below : start.line ≤ stop.line)
    (on_line : stop.line ≤ t.lines.length) : t.between start stop = (t.upTo stop).drop (t.upTo start).length := by
  rcases has with ⟨line, found, fits⟩
  have line_pos := start.line_pos
  have some_read : (t.linesUpTo stop).drop (start.line - 1) ≠ [] := by
    rw [ne_eq, List.drop_eq_nil_iff, length_linesUpTo on_line]
    omega
  -- The part in front of the second cell goes through the lines above the first one.
  have whole : t.upTo stop = terminated (t.lines.take (start.line - 1)) ++
      [newline].intercalate ((t.linesUpTo stop).drop (start.line - 1)) := by
    rw [terminated_append_intercalate _ some_read, ← take_linesUpTo on_line (Nat.sub_le_sub_right below 1),
      List.take_append_drop, intercalate_linesUpTo]
  have front : (t.upTo start).length =
      (terminated (t.lines.take (start.line - 1))).length + (start.column - 1) := by
    rw [upTo, List.getD_eq_getElem?_getD, found, Option.getD_some, List.length_append, List.length_take,
      Nat.min_eq_left (Nat.sub_le_of_le_add fits)]
  rw [whole, front, ← List.drop_drop, List.drop_left, between]

/-- Between the cells behind two prefixes stands what the longer one has more. -/
theorem between_after (longer : p <+: q) (starts : q <+: t) :
    t.between (Cell.after p) (Cell.after q) = q.drop p.length := by
  rw [between_eq_drop (hasCell_after (longer.trans starts)) (Cell.line_le_of_le (Cell.after_le_after longer))
    (hasCell_after starts).line_le, upTo_after starts, upTo_after (longer.trans starts)]

end Text

namespace OctetRange

/-!
### Ranges inside the content
-/

theorem start_le_stop (r : OctetRange) : r.start ≤ r.stop := Nat.le_add_right r.start r.length

variable (r : OctetRange) (name : Text) {content : Text}

/-- A range that ends inside the content goes from the cell behind the longest prefix that its start has room for
    to the cell behind the longest one that its stop has room for. -/
theorem resolve_of_stop_le (inside : r.stop ≤ content.encode.length) :
    (r.resolve (some (.ofText name content))).value =
      .between (Cell.after (content.prefixWithin r.start)) (Cell.after (content.prefixWithin r.stop)) := by
  simp only [resolve, Source.cellAt?_of_le name (r.start_le_stop.trans inside), Source.cellAt?_of_le name inside]
  rfl

/-- The cells of the two ends, and what stands between them: the code points behind the prefix of the start and
    inside the prefix of the stop. -/
theorem between_of_stop_le (r : OctetRange) (content : Text) :
    content.between (Cell.after (content.prefixWithin r.start)) (Cell.after (content.prefixWithin r.stop)) =
      (content.take (content.prefixWithin r.stop).length).drop (content.prefixWithin r.start).length := by
  rw [Text.between_after (Text.prefixWithin_mono r.start_le_stop content)
    (Text.prefixWithin_isPrefix r.stop content),
    ← List.prefix_iff_eq_take.1 (Text.prefixWithin_isPrefix r.stop content)]

/-- A line feed that stands between the two ends of a range is one of its octets. -/
theorem newline_octet_mem_slice {front : Text} (starts : front ++ [newline] <+: content)
    (behind : r.start ≤ front.encode.length) (inside : front.encode.length < r.stop) :
    (0x0A : UInt8) ∈ r.slice content.encode := by
  rcases starts with ⟨rest, rfl⟩
  have stands : (Text.encode (front ++ [newline] ++ rest))[front.encode.length]? = some 0x0A := by
    rw [List.append_assoc, Text.encode_append, List.getElem?_append_right le_rfl, Nat.sub_self]
    rfl
  have place : r.start + (front.encode.length - r.start) = front.encode.length := Nat.add_sub_cancel' behind
  have within : front.encode.length - r.start < r.length := by
    rw [stop] at inside
    omega
  refine List.mem_of_getElem? (i := front.encode.length - r.start) ?_
  rw [slice, List.getElem?_take_of_lt within, List.getElem?_drop, place, stands]

/-- A range without a line feed has both ends on one line, also where they lie inside characters. -/
theorem line_after_prefixWithin (one_line : (0x0A : UInt8) ∉ r.slice content.encode) :
    (Cell.after (content.prefixWithin r.stop)).line = (Cell.after (content.prefixWithin r.start)).line := by
  rcases Text.prefixWithin_mono r.start_le_stop content with ⟨selected, split⟩
  have free : newline ∉ selected := by
    intro mem
    rcases List.append_of_mem mem with ⟨before, after, rfl⟩
    have to_stop : content.prefixWithin r.start ++ before ++ [newline] <+: content.prefixWithin r.stop := by
      rw [← split]
      exact ⟨after, by simp⟩
    have to_content := to_stop.trans (Text.prefixWithin_isPrefix r.stop content)
    have longer : (content.prefixWithin r.start ++ before ++ [newline]).encode.length =
        (content.prefixWithin r.start ++ before).encode.length + 1 := by
      rw [Text.encode_append, List.length_append]
      rfl
    refine one_line (r.newline_octet_mem_slice to_content ?_ ?_)
    · -- Else the start would have had room for the line feed.
      by_contra before_start
      have room := Text.isPrefix_prefixWithin to_content (longer.trans_le (Nat.not_le.1 before_start))
      have short := room.length_le
      simp only [List.length_append, List.length_singleton] at short
      omega
    · have fits := Text.length_encode_prefixWithin_le r.stop content
      rcases to_stop with ⟨rest, whole⟩
      rw [← whole, Text.encode_append, List.length_append, longer] at fits
      omega
  rw [← split, Cell.after_append, Cell.foldl_past_of_newline_not_mem _ free]

/-- Between two boundaries the stretch holds the text that the octets of the range encode. -/
theorem encode_between_of_boundaries (starts : content.IsBoundary r.start) (stops : content.IsBoundary r.stop) :
    (content.between (Cell.after (content.prefixWithin r.start))
      (Cell.after (content.prefixWithin r.stop))).encode = r.slice content.encode := by
  rcases starts with ⟨front, front_starts, start⟩
  rcases stops with ⟨upTo, upTo_starts, stop⟩
  have longer : front <+: upTo := by
    apply Source.isPrefix_of_length_encode_le front_starts upTo_starts
    rw [start, stop]
    exact r.start_le_stop
  rw [← start, ← stop, Text.prefixWithin_length_encode front_starts, Text.prefixWithin_length_encode upTo_starts,
    Text.between_after longer upTo_starts]
  rcases longer with ⟨selected, rfl⟩
  rw [List.drop_left]
  exact encode_eq_slice upTo_starts start stop

/-- A range that ends behind the content keeps its start only. -/
theorem exists_resolve_of_lt_stop (inside : r.start ≤ content.encode.length)
    (past : content.encode.length < r.stop) :
    ∃ cell, (Source.ofText name content).cellAt? r.start = some cell ∧
      (r.resolve (some (.ofText name content))).value = .point cell := by
  have at_start := Source.cellAt?_of_le name inside
  have no_stop : (Source.ofText name content).cellAt? r.stop = none :=
    (Source.cellAt?_eq_none_iff name content r.stop).2 (.inr (Int.ofNat_lt.2 past))
  refine ⟨_, at_start, ?_⟩
  simp only [resolve, at_start, no_stop]
  rfl

/-- A range that starts behind the content names no cell of it. -/
theorem resolve_of_lt_start (outside : content.encode.length < r.start) :
    (r.resolve (some (.ofText name content))).value = .point Cell.first := by
  have no_start : (Source.ofText name content).cellAt? r.start = none :=
    (Source.cellAt?_eq_none_iff name content r.start).2 (.inr (Int.ofNat_lt.2 outside))
  simp only [resolve, no_start]
  rfl

theorem resolve_of_content_eq_none {source : Option Source} (unknown : source.bind Source.content = none) :
    (r.resolve source).value = .point Cell.first := by
  cases source with
  | none => rfl
  | some source =>
      have no_content : source.content = none := unknown
      have no_start : source.cellAt? r.start = none := by
        rw [Source.cellAt?, Source.octets, no_content, Option.map_none]
      simp only [resolve, no_start]
      rfl

/-- A range of octets selects the text that its octets name. If it ends inside the content, it resolves to a stretch
    between two cells of the content, the first not behind the second. From the one up to the other the content reads
    as the code points between the longest prefixes that the two ends of the range have room for, and if both ends are
    boundaries, this text is encoded by exactly the octets of the range. A range that starts inside and ends outside
    resolves to the point at its start, and one that starts outside to the first cell; so does every range without a
    content or without a source. In each of these cases there is a position. -/
theorem resolve_selects_octets (r : OctetRange) (name content : Text) :
    (∀ length, (Source.ofText name content).octetLength = some length → r.stop ≤ length →
      ∃ start stop k₁ k₂,
        ((Span.octets r).resolve (some (.ofText name content))).outcome = .ok (.between start stop) ∧
        (Source.ofText name content).HasCell start ∧ (Source.ofText name content).HasCell stop ∧ start ≤ stop ∧
        IsGreatest {k | k ≤ content.length ∧ (Text.encode (content.take k)).length ≤ r.start} k₁ ∧
        IsGreatest {k | k ≤ content.length ∧ (Text.encode (content.take k)).length ≤ r.stop} k₂ ∧
        content.between start stop = (content.take k₂).drop k₁ ∧
        (content.IsBoundary r.start → content.IsBoundary r.stop →
          (content.between start stop).encode = r.slice content.encode)) ∧
    (∀ length, (Source.ofText name content).octetLength = some length → r.start ≤ length → length < r.stop →
      ∃ cell, (Source.ofText name content).cellAt? r.start = some cell ∧
        ((Span.octets r).resolve (some (.ofText name content))).outcome = .ok (.point cell)) ∧
    (∀ length, (Source.ofText name content).octetLength = some length → length < r.start →
      ((Span.octets r).resolve (some (.ofText name content))).outcome = .ok (.point Cell.first)) ∧
    ∀ source : Option Source, source.bind Source.content = none →
      ((Span.octets r).resolve source).outcome = .ok (.point Cell.first) := by
  refine ⟨?_, ?_, ?_, ?_⟩
  · intro length known inside
    obtain rfl : content.encode.length = length := Option.some.inj known
    have starts := Text.prefixWithin_isPrefix r.start content
    have stops := Text.prefixWithin_isPrefix r.stop content
    refine ⟨_, _, _, _, congrArg Except.ok (r.resolve_of_stop_le name inside),
      (Source.hasCell_ofText name content).2 (Text.hasCell_after starts),
      (Source.hasCell_ofText name content).2 (Text.hasCell_after stops), ?_,
      content.isGreatest_length_prefixWithin r.start, content.isGreatest_length_prefixWithin r.stop,
      r.between_of_stop_le content, r.encode_between_of_boundaries⟩
    exact Cell.after_le_after (Text.prefixWithin_mono r.start_le_stop content)
  · intro length known inside past
    obtain rfl : content.encode.length = length := Option.some.inj known
    rcases r.exists_resolve_of_lt_stop name inside past with ⟨cell, at_start, resolved⟩
    exact ⟨cell, at_start, congrArg Except.ok resolved⟩
  · intro length known outside
    obtain rfl : content.encode.length = length := Option.some.inj known
    exact congrArg Except.ok (r.resolve_of_lt_start name outside)
  · intro source unknown
    exact congrArg Except.ok (r.resolve_of_content_eq_none unknown)

/-- A letter of two octets, a line feed, a letter of three octets and one of a single octet. -/
def lettersSample : Text := ['é', newline, '日', 'z']

/-- From the end of the first line into the second one a range selects the line feed and the letter behind it, whose
    octets are the four that it names. -/
theorem resolve_selects_octets_across_lines :
    ∃ r : OctetRange, r.start = 2 ∧ r.length = 4 ∧
      ∃ start stop, ((Span.octets r).resolve (some (.ofText [] lettersSample))).outcome = .ok (.between start stop) ∧
        start.line = 1 ∧ start.column = 2 ∧ stop.line = 2 ∧ stop.column = 2 ∧
        lettersSample.between start stop = (lettersSample.take 3).drop 1 ∧
        (lettersSample.between start stop).encode = r.slice lettersSample.encode := by
  have evaluated : (resolve ⟨2, 4, by decide⟩ (some (.ofText [] lettersSample))).value =
      .between ⟨1, 2, by decide, by decide⟩ ⟨2, 2, by decide, by decide⟩ := by decide +kernel
  have starts : lettersSample.IsBoundary 2 := ⟨['é'], ⟨_, rfl⟩, by decide⟩
  have stops : lettersSample.IsBoundary 6 := ⟨['é', newline, '日'], ⟨_, rfl⟩, by decide⟩
  obtain ⟨selects, -⟩ := resolve_selects_octets ⟨2, 4, by decide⟩ [] lettersSample
  rcases selects 7 rfl (by decide) with ⟨start, stop, k₁, k₂, resolved, -, -, -, greatest₁, greatest₂, text, encodes⟩
  cases evaluated.symm.trans (Except.ok.inj resolved)
  obtain rfl : 1 = k₁ := (lettersSample.isGreatest_length_prefixWithin 2).unique greatest₁
  obtain rfl : 3 = k₂ := (lettersSample.isGreatest_length_prefixWithin 6).unique greatest₂
  exact ⟨_, rfl, rfl, _, _, resolved, rfl, rfl, rfl, rfl, text, encodes starts stops⟩

end OctetRange

end Marginalia
