/-
Module: Marginalia.Proofs.Render.Underline
Purpose: What the underline of a label stands under. The numbered row of a line and the underline of a label
  share one gutter, wide enough for every number that is drawn, so that a column of the line is the same
  column in both rows; a line that is cut keeps its characters up to the cut. The glyphs of an underline
  therefore stand under the text that the label's position covers, under all of it and under nothing else.
Main exports: shownUnchanged, glyphColumns, getElem?_numberedRow, glyphColumns_underlineRow,
  numberedRow_at_glyphColumns, Diagnostic.underline_marks_selected
-/

import Marginalia.Proofs.Render.Gutter
import Marginalia.Proofs.Span.Selection

namespace Marginalia

open Render

namespace Render

/-- How many characters of a line are shown as they are: all, or those in front of the ellipsis. -/
def shownUnchanged (text : Text) (taken : Int) : Nat :=
  if contentBudget taken < text.length then contentBudget taken - 1 else text.length

/-- The columns of a row that hold a dash or a tee. -/
def glyphColumns (row : Text) : List Nat :=
  (List.range row.length).filter fun i => row[i]? = some horizontal ∨ row[i]? = some tee

/-!
### Columns of a row
-/

/-- Up to the cut a line is shown as it is. -/
theorem getElem?_truncate {text : Text} {taken : Int} {i : Nat} (shown : i < shownUnchanged text taken) :
    (truncate text taken)[i]? = text[i]? := by
  simp only [shownUnchanged, truncate] at *
  split
  next cut =>
    rw [if_pos cut] at shown
    rw [List.getElem?_append_left (by simp only [List.length_take]; omega), List.getElem?_take_of_lt shown]
  next => rfl

/-- Behind the gutter a numbered row shows its line. -/
theorem getElem?_numberedRow {width number : Nat} {text : Text} {i : Nat}
    (fits : (Text.ofNat number).length ≤ width) (shown : i < shownUnchanged text (takenWidth width)) :
    (numberedRow width number text)[width + 3 + i]? = text[i]? := by
  have front := length_numberedFront fits
  rw [numberedRow, List.getElem?_append_right (by omega), front, Nat.add_sub_cancel_left,
    getElem?_truncate shown]

/-- Where a row goes on with glyphs only behind a front without any, these are all its glyphs. -/
theorem glyphColumns_append {front glyphs : Text} (free : ∀ c ∈ front, c ≠ horizontal ∧ c ≠ tee)
    (all : ∀ c ∈ glyphs, c = horizontal ∨ c = tee) :
    glyphColumns (front ++ glyphs) = List.range' front.length glyphs.length := by
  have before : (List.range' 0 front.length).filter (fun i =>
      (front ++ glyphs)[i]? = some horizontal ∨ (front ++ glyphs)[i]? = some tee) = [] := by
    rw [List.filter_eq_nil_iff]
    intro i mem
    have inside : i < front.length := by
      have bound := (List.mem_range'_1.1 mem).2
      omega
    have other := free _ (List.getElem_mem inside)
    rw [List.getElem?_append_left inside, List.getElem?_eq_getElem inside]
    simp [other]
  have behind : (List.range' front.length glyphs.length).filter (fun i =>
      (front ++ glyphs)[i]? = some horizontal ∨ (front ++ glyphs)[i]? = some tee) =
        List.range' front.length glyphs.length := by
    rw [List.filter_eq_self]
    intro i mem
    rcases List.mem_range'_1.1 mem with ⟨from_front, upTo⟩
    have inside : i - front.length < glyphs.length := by omega
    have glyph := all _ (List.getElem_mem inside)
    rw [List.getElem?_append_right from_front, List.getElem?_eq_getElem inside]
    simpa using glyph
  rw [glyphColumns, List.length_append, List.range_eq_range', ← List.range'_append_1, List.filter_append,
    Nat.zero_add, before, behind, List.nil_append]

theorem underline_glyphs (width : Nat) : ∀ c ∈ (underline width).1, c = horizontal ∨ c = tee := by
  intro c mem
  rw [underline] at mem
  split at mem
  · exact .inr (List.mem_singleton.1 mem)
  · rcases List.mem_append.1 mem with dash | rest
    · exact .inl (List.eq_of_mem_replicate dash)
    · rcases List.mem_cons.1 rest with same | dash
      · exact .inr same
      · exact .inl (List.eq_of_mem_replicate dash)

theorem length_underline {width : Nat} (positive : 1 ≤ width) : (underline width).1.length = width := by
  rw [underline]
  split
  · simp only [List.length_singleton]
    omega
  · simp only [List.length_append, List.length_replicate, List.length_cons]
    omega

theorem length_pointerFront (width indent : Nat) :
    (plainGutter width ++ Text.blanks indent).length = width + 3 + indent := by
  simp only [plainGutter, Text.blanks, List.length_append, List.length_replicate, List.length_cons, List.length_nil]

/-- In front of the glyphs of a pointer there are blanks and the dot of the gutter. -/
theorem ne_glyph_of_mem_pointerFront {width indent : Nat} :
    ∀ c ∈ plainGutter width ++ Text.blanks indent, c ≠ horizontal ∧ c ≠ tee := by
  intro c mem
  simp only [plainGutter, Text.blanks, List.mem_append, List.mem_replicate, List.mem_cons, List.not_mem_nil,
    or_false] at mem
  rcases mem with ((⟨-, rfl⟩ | rfl | rfl | rfl) | ⟨-, rfl⟩) <;> decide

theorem one_le_markedWidth (position : Position) : 1 ≤ markedWidth position := by
  rw [markedWidth]
  split
  · exact Nat.le_max_left ..
  · exact le_rfl

/-- The underline of a position stands in the columns that the position marks. -/
theorem glyphColumns_underlineRow (width : Nat) (position : Position) :
    glyphColumns (underlineRow width position) =
      List.range' (width + 3 + (position.start.column - 1)) (markedWidth position) := by
  rw [underlineRow, glyphColumns_append ne_glyph_of_mem_pointerFront (underline_glyphs _),
    length_underline (one_le_markedWidth position), length_pointerFront]

theorem markedWidth_of_covers {source : Source} {position : Position} {selected : Text}
    (covers : position.Covers source selected) (some_text : selected ≠ []) :
    markedWidth position = selected.length := by
  rcases covers with ⟨stop, -, at_stop, -, -, column⟩
  have positive := List.length_pos_iff.2 some_text
  rw [markedWidth, at_stop]
  simp only
  omega

/-- In the columns of a label's underline the numbered row holds the text that the label's position covers. -/
theorem numberedRow_at_glyphColumns {width : Nat} {source : Source} {position : Position} {stop : Cell}
    {text selected : Text} (fits : (Text.ofNat position.start.line).length ≤ width)
    (covers : position.Covers source selected) (some_text : selected ≠ [])
    (at_stop : position.stop = some stop) (at_line : source.line position.start.line = .ok (some text))
    (shown : stop.column - 1 ≤ shownUnchanged text (takenWidth width)) :
    (glyphColumns (underlineRow width position)).map
        (fun i => (numberedRow width position.start.line text)[i]?) = selected.map some := by
  rw [glyphColumns_underlineRow, markedWidth_of_covers covers some_text]
  rcases covers with ⟨same_stop, same_text, stop_eq, line_eq, ⟨rest, stands⟩, column⟩
  obtain rfl : stop = same_stop := by simpa [at_stop] using stop_eq
  obtain rfl : text = same_text := by simpa [at_line] using line_eq
  have column_pos := position.start.column_pos
  apply List.ext_getElem
  · simp
  · intro i inside _
    have in_selected : i < selected.length := by simpa using inside
    simp only [List.getElem_map, List.getElem_range', Nat.one_mul]
    rw [Nat.add_assoc (width + 3), getElem?_numberedRow fits (by omega), ← List.getElem?_drop, ← stands,
      List.getElem?_append_left in_selected, List.getElem?_eq_getElem in_selected]

end Render

/-- A search for a letter on the second line. -/
def Search.letterSample : Search where
  line := Cell.first.nextLine.line
  pattern := ['d']
  afterColumn := Cell.first.column
  maxLines := Cell.first.line
  line_pos := Cell.first.nextLine.line_pos
  pattern_ne := List.cons_ne_nil _ _
  afterColumn_pos := Cell.first.column_pos
  maxLines_pos := Cell.first.line_pos

/-- The second letter of the second line. -/
def Position.letterSample : Position :=
  .between Cell.first.nextLine.nextColumn Cell.first.nextLine.nextColumn.nextColumn

/-- A diagnostic whose only label is on what the search finds. -/
def Diagnostic.searchingSample : Diagnostic where
  message := ['m']
  severity := .known .error
  code := none
  source := some ['s']
  labels := [.primary (.span (.search .letterSample)) none none]
  help := []
  notes := []

/-- The label where it is drawn. -/
def Render.PositionedLabel.letterSample : PositionedLabel :=
  ⟨.primary (.span (.search .letterSample)) none none, .letterSample⟩

/-- The underlined text is the selected text. In a diagnostic that is drawn without colours against a content,
    every label whose span selects text on one line is drawn below the line on which its position starts,
    and unless the last selected column is cut off, the characters of the numbered row in the columns of the
    label's underline spell the one selected text, the pattern of the search or what the octets of the range
    encode. -/
theorem Diagnostic.underline_marks_selected (d : Diagnostic) (sources : Lookup) (options : RenderOptions)
    (source : Source) {content : Text} {sections : Diagnostic.Sections} (colorless : options.colors = false)
    (found : (sources.find d.source).value = some source) (known : source.content = some content)
    (drawn : (d.sections sources options).outcome = .ok sections)
    {label : Label} (attached : label ∈ d.labels) (span : Span) (is_span : label.toSpan = .ok span)
    (selects : span.SelectsOnLine source content) :
    ∃ position stop text selected width groups, ∃ group ∈ groups,
      (span.resolve (some source)).outcome = .ok position ∧ position.stop = some stop ∧
      source.line position.start.line = .ok (some text) ∧ span.IsSelected content selected ∧
      (∀ other, span.IsSelected content other → other = selected) ∧
      sections.context = some (framedRows width groups) ∧ ⟨label, position⟩ ∈ group.labels ∧
      group.number = position.start.line ∧ group.text = text ∧
      (stop.column - 1 ≤ shownUnchanged text (takenWidth width) →
        (glyphColumns (underlineRow width position)).map
          (fun i => (numberedRow width group.number group.text)[i]?) = selected.map some) := by
  rcases sections_eq_ok_iff.1 drawn with
    ⟨placed, width, severity, context, outcome, measured, -, -, rows, rfl⟩
  rw [found] at outcome rows
  rcases placeLabels_eq_ok_iff.1 outcome with ⟨labels, at_labels, rfl⟩
  rw [colorless, show Palette.ofColors false = .plain from rfl, contextRows?_plain, Except.ok.injEq] at rows
  rcases exists_left_of_mem at_labels.flip attached with ⟨⟨_, position⟩, mem, rfl, same, is_same, resolved⟩
  obtain rfl : span = same := by simpa [is_span] using is_same
  rcases selects.exists_covers known with ⟨covered, selected, resolved_too, is_selected, some_text, covers⟩
  obtain rfl : position = covered := by simpa [resolved] using resolved_too
  rcases id covers with ⟨stop, text, at_stop, at_line, -, -⟩
  obtain ⟨groups, block, group, group_mem, in_group⟩ :=
    exists_group_of_line options.contextLines mem at_line
  -- The group of the label is the one of its line, with the text of that line.
  have in_block : group ∈ (sourceGroups source options.contextLines labels).getD [] := by
    rw [block]
    exact group_mem
  rcases line_of_mem_sourceGroups in_block with ⟨group_line, group_labels⟩
  have number : position.start.line = group.number := by
    rw [group_labels] at in_group
    exact of_decide_eq_true (List.mem_filter.1 in_group).2
  have group_text : group.text = text := by
    rw [← number, at_line] at group_line
    simpa using group_line.symm
  refine ⟨position, stop, text, selected, width, groups, group, group_mem, resolved, at_stop, at_line,
    is_selected, fun other also => also.unique is_selected, ?_, in_group, number.symm, group_text,
    fun shown => ?_⟩
  · rw [← rows, block]
    rfl
  · rw [← number, group_text]
    exact numberedRow_at_glyphColumns (length_ofNat_le_gutterWidth measured mem) covers some_text at_stop
      at_line shown

theorem Diagnostic.underline_marks_selected_letter : ∃ width number text,
    (glyphColumns (underlineRow width .letterSample)).map (fun i => (numberedRow width number text)[i]?) =
      [some (CodePoint.ofChar 'd')] := by
  have measured : gutterWidth 0 [PositionedLabel.letterSample.placed] = .ok 1 := by rfl
  have fits : checkPointers (some .shortSample) ([.letterSample].map PositionedLabel.placed) = .ok () := by
    simp only [checkPointers, sortedLabels_map_placed, List.mergeSort_singleton]
    rfl
  have is_drawn : ∃ sections,
      (Diagnostic.searchingSample.sections (.single .shortSample) ⟨false, 0⟩).outcome = .ok sections :=
    ⟨_, Diagnostic.sections_eq_ok_iff.2 ⟨[PositionedLabel.letterSample.placed], 1, .error, _, rfl, measured,
      rfl, fits, contextRows?_plain .shortSample 0 1 [.letterSample], rfl⟩⟩
  rcases is_drawn with ⟨sections, drawn⟩
  obtain ⟨position, stop, text, selected, width, groups, group, -, resolved, at_stop, at_line, is_selected, -,
    -, -, -, -, underlined⟩ := Diagnostic.underline_marks_selected .searchingSample (.single .shortSample)
      ⟨false, 0⟩ .shortSample rfl rfl rfl drawn (List.mem_singleton_self _) (.search .letterSample) rfl
      (.search .letterSample .letterSample rfl)
  obtain rfl : Position.letterSample = position := Except.ok.inj resolved
  obtain rfl : Cell.first.nextLine.nextColumn.nextColumn = stop := Option.some.inj at_stop
  obtain rfl : ([CodePoint.ofChar 'c', CodePoint.ofChar 'd'] : Text) = text :=
    Option.some.inj (Except.ok.inj at_line)
  obtain rfl : selected = ['d'] := is_selected
  refine ⟨width, group.number, group.text, underlined ?_⟩
  rw [shownUnchanged, if_neg]
  · decide
  · simp only [contentBudget, rowWidth, leastContentWidth, takenWidth, List.length_cons, List.length_nil]
    omega

end Marginalia
