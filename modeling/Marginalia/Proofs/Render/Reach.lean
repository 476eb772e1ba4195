/-
Module: Marginalia.Proofs.Render.Reach
Purpose: How far an underline reaches. A range of octets inside the content and a search with a match resolve to two
  cells of the content, a search to two of one line. The underline stands below the line of the first cell and is as
  long as the columns of the two cells tell, whichever line the second one is on. So it keeps to its line, one column
  behind the last character included, if the second cell is on the same line or not too far to the right; and it runs
  on behind the line otherwise, as far as the second cell stands on its own line. Colours do not change this.
Main exports: Span.Selects, Span.Selects.exists_between, getLast?_glyphColumns_underlineRow,
  Diagnostic.exists_lineRows_of_label, Diagnostic.underline_reach
-/

import Marginalia.Proofs.Render.Coloring
import Marginalia.Proofs.Render.Pointers
import Marginalia.Proofs.Span.Agreement

namespace Marginalia

open Render

/-- A span selects a part of a content, on one line or across several: a range of octets that ends inside it does,
    and so does a search that has a match. -/
inductive Span.Selects (source : Source) (content : Text) : Span → Prop where
  | octets (r : OctetRange) (inside : r.stop ≤ content.encode.length) : Selects source content (.octets r)
  | search (s : Search) (cell : Cell) (matched : s.MatchesAt source cell) : Selects source content (.search s)

/-- A search with a match resolves to two cells of one line. -/
theorem Search.exists_between {s : Search} {name content : Text} {cell : Cell}
    (matched : s.MatchesAt (.ofText name content) cell) :
    ∃ start stop, (s.resolve (some (.ofText name content))).outcome = .ok (.between start stop) ∧
      content.HasCell start ∧ content.HasCell stop ∧ start ≤ stop ∧ stop.line = start.line := by
  rcases s.outcome_resolve (.ofText name content) with ⟨first, least, found⟩ | ⟨no_match, -⟩
  · obtain ⟨has, within, free⟩ := least.1.stands.upTo_append_isPrefix
    have stop := Text.after_upTo_append has free
    refine ⟨first, _, found, has, ?_, ?_, rfl⟩
    · rw [← stop]
      exact Text.hasCell_after within
    · rw [← stop, Cell.after_append, Text.after_upTo has]
      exact Cell.le_foldl_past first s.pattern
  · exact absurd matched (no_match cell)

/-- A span that selects a part of a content resolves to two cells of it, the first not behind the second; those of a
    search and of a range without a line feed are on one line. -/
theorem Span.Selects.exists_between {span : Span} {name content : Text}
    (selects : span.Selects (.ofText name content) content) :
    ∃ start stop, (span.resolve (some (.ofText name content))).outcome = .ok (.between start stop) ∧
      content.HasCell start ∧ content.HasCell stop ∧ start ≤ stop ∧
      (∀ s, span = .search s → stop.line = start.line) ∧
      ∀ r, span = .octets r → (0x0A : UInt8) ∉ r.slice content.encode → stop.line = start.line := by
  cases selects with
  | octets r inside =>
      refine ⟨_, _, congrArg Except.ok (r.resolve_of_stop_le name inside),
        Text.hasCell_after (Text.prefixWithin_isPrefix r.start content),
        Text.hasCell_after (Text.prefixWithin_isPrefix r.stop content), ?_, ?_, ?_⟩
      · exact Cell.after_le_after (Text.prefixWithin_mono r.start_le_stop content)
      · intro s is_search
        cases is_search
      · intro range is_range one_line
        cases is_range
        exact r.line_after_prefixWithin one_line
  | search s cell matched =>
      rcases Search.exists_between matched with ⟨start, stop, resolved, has_start, has_stop, ordered, same_line⟩
      exact ⟨start, stop, resolved, has_start, has_stop, ordered, fun _ _ => same_line, fun _ _ _ => same_line⟩

namespace Render

/-!
### The last column of an underline
-/

/-- The last glyph of an underline stands in the last column that is marked. -/
theorem getLast?_glyphColumns_underlineRow (width : Nat) (start stop : Cell) :
    (glyphColumns (underlineRow width (.between start stop))).getLast? =
      some (width + 2 + max start.column (stop.column - 1)) := by
  have column_pos := start.column_pos
  have marked : markedWidth (.between start stop) = max 1 (stop.column - start.column) := rfl
  have some_marked : max 1 (stop.column - start.column) ≠ 0 := by omega
  rw [glyphColumns_underlineRow, marked, List.getLast?_range', if_neg some_marked, Option.some.injEq]
  simp only [Position.between]
  omega

/-- Taking its renditions out of a coloured underline leaves the plain one. -/
theorem withoutRenditions_of_pointerRows {p : Palette} (styles : p.OfStyles) {width : Nat} {label : Label}
    {position : Position} {under below : Text} (rows : pointerRows p width label position = [under, below]) :
    under.withoutRenditions = underlineRow width position := by
  have both := withoutRenditions_pointerRows styles width label position
  rw [rows, List.map_cons, List.cons.injEq] at both
  rw [both.1, underlineRow, plainGutter]
  simp only [List.append_assoc, List.cons_append, List.nil_append]

/-- How far the columns of two cells reach on the line of the first one. -/
theorem reach_le_iff {content text stop_text : Text} {start stop : Cell}
    (at_start : content.lines[start.line - 1]? = some text) (at_stop : content.lines[stop.line - 1]? = some stop_text)
    (start_fits : start.column ≤ text.length + 1) (stop_fits : stop.column ≤ stop_text.length + 1) :
    (max start.column (stop.column - 1) ≤ text.length + 1 ↔
        stop.line = start.line ∨ stop.column ≤ text.length + 2) ∧
      max start.column (stop.column - 1) ≤ max (text.length + 1) stop_text.length := by
  refine ⟨⟨fun within => .inr (by omega), ?_⟩, by omega⟩
  rintro (same_line | short)
  · rw [same_line, at_start, Option.some.injEq] at at_stop
    rw [← at_stop] at stop_fits
    omega
  · omega

end Render

namespace Diagnostic

variable {d : Diagnostic} {sources : Lookup} {options : RenderOptions} {source : Source}
  {sections : Diagnostic.Sections} {label : Label} {span : Span} {position : Position} {text : Text}

/-- Where a label starts on a line that exists, the rows of this line are drawn, and those of the label are among
    them. -/
theorem exists_lineRows_of_label (found : (sources.find d.source).value = some source)
    (drawn : (d.sections sources options).outcome = .ok sections) (attached : label ∈ d.labels)
    (is_span : label.toSpan = .ok span) (resolved : (span.resolve (some source)).outcome = .ok position)
    (at_line : source.line position.start.line = .ok (some text)) :
    ∃ width labels rows, sections.context = some rows ∧
      lineRows (.ofColors options.colors) width labels position.start.line text <:+: rows ∧
      pointerRows (.ofColors options.colors) width label position <:+:
        lineRows (.ofColors options.colors) width labels position.start.line text := by
  rcases sections_eq_ok_iff.1 drawn with ⟨placed, width, severity, context, outcome, -, -, -, block, rfl⟩
  rw [found] at outcome block
  rcases placeLabels_eq_ok_iff.1 outcome with ⟨labels, at_labels, rfl⟩
  rw [contextRows?_eq, Except.ok.injEq] at block
  obtain ⟨groups, grouped, group, group_mem, in_group⟩ := exists_group_of_line options.contextLines
    (mem_of_resolved at_labels attached is_span resolved) at_line
  have in_block : group ∈ (sourceGroups source options.contextLines labels).getD [] := by
    rw [grouped]
    exact group_mem
  obtain ⟨number, rfl⟩ : position.start.line = group.number ∧ group.text = text :=
    line_eq_of_mem_labels in_block in_group at_line
  refine ⟨width, group.labels, drawGroups (.ofColors options.colors) width groups, ?_, ?_,
    pointerRows_isInfix_lineRows _ width group.text in_group⟩
  · rw [← block, grouped, Option.map_some]
  · rw [number, drawGroups]
    apply (isInfix_flatMap_of_mem group_mem fun other =>
      lineRows (.ofColors options.colors) width other.labels other.number other.text).trans
    exact (List.infix_cons (List.infix_refl _)).trans (List.prefix_append _ _).isInfix

/-- How far an underline reaches. In a drawn diagnostic every label whose span selects a part of the content goes from
    one cell of the content to another one; its rows stand below the line of the first cell, and with renditions taken
    out the last glyph of its underline is in the column of the first cell or in the one in front of the second cell,
    whichever is further to the right. This is at most one column behind the end of the line exactly if both cells are
    on this line, as they are for every search and for every range that names no line feed, or if the second cell, on a
    line further down, is at most two columns behind the end of the first line. Otherwise the underline runs on behind
    its line, but no further than the line of the second cell reaches. -/
theorem underline_reach (d : Diagnostic) (sources : Lookup) (options : RenderOptions) (source : Source)
    {content : Text} {sections : Diagnostic.Sections} (found : (sources.find d.source).value = some source)
    (known : source.content = some content) (drawn : (d.sections sources options).outcome = .ok sections)
    {label : Label} (attached : label ∈ d.labels) (span : Span) (is_span : label.toSpan = .ok span)
    (selects : span.Selects source content) :
    ∃ start stop text stop_text last,
      (span.resolve (some source)).outcome = .ok (.between start stop) ∧
      source.line start.line = .ok (some text) ∧ source.line stop.line = .ok (some stop_text) ∧
      (∃ width labels rows under below, sections.context = some rows ∧
        lineRows (.ofColors options.colors) width labels start.line text <:+: rows ∧
        [under, below] <:+: lineRows (.ofColors options.colors) width labels start.line text ∧
        pointerRows (.ofColors options.colors) width label (.between start stop) = [under, below] ∧
        (glyphColumns under.withoutRenditions).getLast? = some (width + 2 + last)) ∧
      last = max start.column (stop.column - 1) ∧
      (last ≤ text.length + 1 ↔ stop.line = start.line ∨ stop.column ≤ text.length + 2) ∧
      (∀ s, span = .search s → stop.line = start.line) ∧
      (∀ r, span = .octets r → (0x0A : UInt8) ∉ r.slice content.encode → stop.line = start.line) ∧
      last ≤ max (text.length + 1) stop_text.length := by
  rcases source with ⟨name, content⟩
  cases known
  rcases selects.exists_between with ⟨start, stop, resolved, has_start, has_stop, -, of_search, of_octets⟩
  rcases has_start with ⟨text, at_start, start_fits⟩
  rcases has_stop with ⟨stop_text, at_stop, stop_fits⟩
  rcases reach_le_iff at_start at_stop start_fits stop_fits with ⟨within, bounded⟩
  have start_line : (Source.ofText name content).line start.line = .ok (some text) := by
    rw [Source.line_eq _ start.line_pos]
    exact congrArg Except.ok at_start
  have stop_line : (Source.ofText name content).line stop.line = .ok (some stop_text) := by
    rw [Source.line_eq _ stop.line_pos]
    exact congrArg Except.ok at_stop
  obtain ⟨width, labels, rows, block, on_line, of_label⟩ :=
    exists_lineRows_of_label found drawn attached is_span resolved start_line
  obtain ⟨under, below, two⟩ : ∃ under below,
      pointerRows (.ofColors options.colors) width label (.between start stop) = [under, below] := ⟨_, _, rfl⟩
  refine ⟨start, stop, text, stop_text, _, resolved, start_line, stop_line,
    ⟨width, labels, rows, under, below, block, on_line, ?_, two, ?_⟩, rfl, within, of_search, of_octets, bounded⟩
  · rw [← two]
    exact of_label
  · rw [withoutRenditions_of_pointerRows (Palette.ofStyles_ofColors _) two]
    exact getLast?_glyphColumns_underlineRow width start stop

/-- An empty line, and a line of two letters. -/
def crossingSource : Source := .ofText ['s'] ['\n', 'a', 'b']

/-- A label on the three octets, from the empty line into the next one. -/
def crossingLabel : Label := .primary (.tuple [.int 0, .int 3]) none none

/-- A diagnostic with this label only. -/
def crossingSample : Diagnostic where
  message := ['m']
  severity := .known .error
  code := none
  source := some ['s']
  labels := [crossingLabel]
  help := []
  notes := []

/-- From the start of the empty line to the end of the other one. -/
def crossingPosition : Position := .between .first (.after ['\n', 'a', 'b'])

theorem resolve_crossing :
    ((Span.octets ⟨0, 3, by decide⟩).resolve (some crossingSource)).outcome = .ok crossingPosition :=
  congrArg Except.ok (by decide +kernel)

/-- The diagnostic is drawn, in a block that shows the empty line and the label. -/
theorem exists_sections_crossing : ∃ sections,
    (crossingSample.sections (.single crossingSource) ⟨false, 0⟩).outcome = .ok sections ∧
      sections.context =
        some (["  │", "1 │ ", "  • ┬─", "  • ╰── ", "  │", "  ╰─────"].map Text.of) := by
  have placed := placeLabels_eq_ok_iff.2
    ⟨[⟨crossingLabel, crossingPosition⟩], .cons ⟨rfl, _, rfl, resolve_crossing⟩ .nil, rfl⟩
  have measured : gutterWidth 0 ([⟨crossingLabel, crossingPosition⟩].map PositionedLabel.placed) = .ok 1 := by rfl
  have fits : checkPointers (some crossingSource)
      ([⟨crossingLabel, crossingPosition⟩].map PositionedLabel.placed) = .ok () := by
    simp only [checkPointers, sortedLabels_map_placed, List.mergeSort_singleton]
    rfl
  refine ⟨_, sections_eq_ok_iff.2 ⟨_, 1, .error, _, placed, measured, rfl, fits,
    contextRows?_plain crossingSource 0 1 _, rfl⟩, ?_⟩
  decide +kernel

/-- The octets lie inside the content, and the underline of their label, which is drawn below the empty line, covers
    two columns: one more than there are up to the one behind the end of this line. -/
theorem underline_past_line :
    ∃ r sections under below,
      (crossingSample.sections (.single crossingSource) ⟨false, 0⟩).outcome = .ok sections ∧
      crossingSample.labels = [crossingLabel] ∧ crossingLabel.toSpan = .ok (.octets r) ∧
      crossingSource.octetLength = some r.stop ∧
      ((Span.octets r).resolve (some crossingSource)).outcome = .ok crossingPosition ∧
      crossingSource.line crossingPosition.start.line = .ok (some []) ∧
      sections.context = some [Text.of "  │", Text.of "1 │ ", under, below, Text.of "  │", Text.of "  ╰─────"] ∧
      pointerRows .plain 1 crossingLabel crossingPosition = [under, below] ∧
      (glyphColumns under).getLast? = some (1 + 2 + 2) ∧ ¬ 2 ≤ ([] : Text).length + 1 := by
  rcases exists_sections_crossing with ⟨sections, drawn, block⟩
  refine ⟨_, sections, Text.of "  • ┬─", Text.of "  • ╰── ", drawn, rfl, rfl, rfl, resolve_crossing, rfl, block,
    ?_, ?_, ?_⟩
  · decide
  · decide
  · decide

/-- The second line is longer, and the underline of the label ends below where the label does. -/
theorem underline_reach_crossing :
    ∃ stop text stop_text last, crossingPosition.stop = some stop ∧
      crossingSource.line 1 = .ok (some text) ∧ crossingSource.line stop.line = .ok (some stop_text) ∧
      ¬ last ≤ text.length + 1 ∧ last = stop_text.length := by
  rcases exists_sections_crossing with ⟨sections, drawn, -⟩
  obtain ⟨start, stop, text, stop_text, last, resolved, start_line, stop_line, -, column, within, -⟩ :=
    underline_reach crossingSample (.single crossingSource) ⟨false, 0⟩ crossingSource rfl rfl drawn
      (List.mem_singleton_self _) (.octets ⟨0, 3, by decide⟩) rfl (.octets _ (by decide))
  cases resolve_crossing.symm.trans resolved
  obtain rfl : ([] : Text) = text := Option.some.inj (Except.ok.inj start_line)
  obtain rfl : (['a', 'b'] : Text) = stop_text := Option.some.inj (Except.ok.inj stop_line)
  refine ⟨_, _, _, last, rfl, start_line, stop_line, ?_, column⟩
  rw [within]
  decide

end Diagnostic

end Marginalia
