/-
Module: Marginalia.Proofs.Render.Gutter
Purpose: One gutter for all framed rows. The width of the gutter is measured on the labels before any window of
  lines is known: it is the number of digits of the last line up to which a label could show context. No line
  of the window lies behind that line, wherever the window is cut off, so every number that is drawn fits,
  and the frame stands in one column from the banner to the row that closes the block. What is left of a row
  behind the frame bounds how much of its line is shown.
Main exports: contextEnds, numberWidth, highestLine_eq, length_ofNat_le_gutterWidth, length_numberedFront,
  contentWidth, IsShown, LineGroup.Fits, LineGroup.fits, exists_groups_of_contextRows?,
  Diagnostic.rows_share_gutter
-/

import Marginalia.Proofs.Render.Layout

namespace Marginalia

open Render

namespace Render

/-!
### The width of the gutter
-/

/-- The lines up to which the labels on cells could show context. -/
def contextEnds (contextLines : Nat) (placed : List PlacedLabel) : List Nat :=
  (placed.filterMap fun l => l.place.position?).map fun p => p.start.line + contextLines

/-- The number of digits of the last of these lines, and one if there is none. -/
def numberWidth (contextLines : Nat) (placed : List PlacedLabel) : Nat :=
  match (contextEnds contextLines placed).max? with
  | none => 1
  | some last => (Nat.toDigits 10 last).length

variable {contextLines : Nat} {placed : List PlacedLabel}

/-- Measuring runs once over the labels and keeps the highest line. -/
theorem foldl_highest_eq (contextLines : Nat) (placed : List PlacedLabel) (least : Nat) :
    placed.foldl (fun highest l =>
      match l.place with
      | .cells p => max highest (p.start.line + contextLines)
      | .octets _ => highest) least = (contextEnds contextLines placed).foldl max least := by
  induction placed generalizing least with
  | nil => rfl
  | cons l rest ih =>
      rw [List.foldl_cons, ih]
      rcases l with ⟨label, position | octets⟩ <;> rfl

/-- The highest line number is that of the last context line, or one. -/
theorem highestLine_eq (contextLines : Nat) (placed : List PlacedLabel) :
    highestLine contextLines placed = (contextEnds contextLines placed).max?.getD 1 := by
  have measured : highestLine contextLines placed = (contextEnds contextLines placed).foldl max 1 :=
    foldl_highest_eq contextLines placed 1
  rw [measured, List.foldl_max]
  cases last : (contextEnds contextLines placed).max? with
  | none => rfl
  | some line =>
      rcases List.mem_map.1 (List.max?_eq_some_iff.1 last).1 with ⟨p, -, rfl⟩
      have line_pos := p.start.line_pos
      rw [Option.getD_some, Nat.max_eq_right]
      omega

theorem gutterWidth_eq {width : Nat} (measured : gutterWidth contextLines placed = .ok width) :
    width = (Text.ofNat (highestLine contextLines placed)).length := by
  rcases bind_eq_ok_iff.1 measured with ⟨numeral, written, length⟩
  rw [pure_eq_ok_iff] at length
  rw [Numeral.write] at written
  split at written
  next => cases written
  next =>
    cases written
    exact length.symm

/-- The gutter is as wide as the longest number that could be shown. -/
theorem numberWidth_eq {width : Nat} (measured : gutterWidth contextLines placed = .ok width) :
    numberWidth contextLines placed = width := by
  rw [gutterWidth_eq measured, highestLine_eq, numberWidth, Text.ofNat, List.length_map]
  cases (contextEnds contextLines placed).max? with
  | none => rfl
  | some last => rfl

theorem length_ofNat_mono {m n : Nat} (le : m ≤ n) : (Text.ofNat m).length ≤ (Text.ofNat n).length := by
  simp only [Text.ofNat, List.length_map]
  have some_digit : 0 < (Nat.toDigits 10 n).length := Nat.length_toDigits_pos
  rw [Nat.length_toDigits_le_iff (by decide) some_digit]
  exact le.trans_lt ((Nat.length_toDigits_le_iff (by decide) some_digit).1 le_rfl)

variable {labels : List PositionedLabel} {width : Nat}

/-- No label shows context behind the highest line. -/
theorem line_add_le_highestLine {l : PositionedLabel} (mem : l ∈ labels) :
    l.line + contextLines ≤ highestLine contextLines (labels.map PositionedLabel.placed) := by
  rw [highestLine_eq]
  apply List.le_max?_getD_of_mem
  rw [contextEnds, List.filterMap_map, List.mem_map]
  exact ⟨l.position, List.mem_filterMap.2 ⟨l, mem, rfl⟩, rfl⟩

/-- The gutter has room for the number of every line with a label. -/
theorem length_ofNat_le_gutterWidth
    (measured : gutterWidth contextLines (labels.map PositionedLabel.placed) = .ok width)
    {l : PositionedLabel} (mem : l ∈ labels) : (Text.ofNat l.line).length ≤ width := by
  rw [gutterWidth_eq measured]
  exact length_ofNat_mono ((Nat.le_add_right l.line contextLines).trans (line_add_le_highestLine mem))

/-- The gutter has room for the number of every line that is drawn. -/
theorem length_ofNat_number_le_gutterWidth {source : Source} {group : LineGroup}
    (measured : gutterWidth contextLines (labels.map PositionedLabel.placed) = .ok width)
    (drawn : group ∈ (sourceGroups source contextLines labels).getD []) :
    (Text.ofNat group.number).length ≤ width := by
  cases known : source.lines with
  | none => simp [sourceGroups, known] at drawn
  | some lines =>
      by_cases some_labels : labels = []
      · simp [sourceGroups, known, some_labels] at drawn
      rw [getD_sourceGroups known some_labels] at drawn
      rcases mem_lineGroups_iff.1 drawn with ⟨-, to_last, -⟩
      -- The window ends with the context of the lowest label, which is one of those that were measured.
      rcases (bottomLine_spec some_labels).1 with ⟨l, mem, at_bottom⟩
      rw [windowLast, ← at_bottom] at to_last
      rw [gutterWidth_eq measured]
      exact length_ofNat_mono (to_last.trans (line_add_le_highestLine mem))

/-!
### The column of the frame
-/

/-- Behind a front as wide as the gutter and a blank stands the frame. -/
theorem getElem?_frame {front : Text} (wide : front.length = width) (glyph : CodePoint) (rest : Text) :
    (front ++ CodePoint.blank :: glyph :: rest)[width + 1]? = some glyph := by
  rw [List.getElem?_append_right (by omega), wide, Nat.add_sub_cancel_left]
  rfl

theorem length_blanks (width : Nat) : (Text.blanks width).length = width := List.length_replicate

theorem length_padLeft {t : Text} (fits : t.length ≤ width) : (Text.padLeft width t).length = width := by
  rw [Text.padLeft, List.length_append, length_blanks]
  omega

theorem length_numberedFront {number : Nat} (fits : (Text.ofNat number).length ≤ width) :
    (Text.padLeft width (Text.ofNat number) ++ [CodePoint.blank, vertical, CodePoint.blank]).length = width + 3 := by
  rw [List.length_append, length_padLeft fits]
  rfl

theorem getElem?_bannerRow (width : Nat) (location : Text) :
    (bannerRow .plain width location)[width + 1]? = some topLeft := by
  have row : bannerRow .plain width location =
      Text.blanks width ++ CodePoint.blank :: topLeft :: horizontal ::
        CodePoint.ofChar '[' :: (location ++ [CodePoint.ofChar ']']) := by
    have dim : Palette.plain.dim = [] := rfl
    simp [bannerRow, dim]
  rw [row]
  exact getElem?_frame (length_blanks width) ..

theorem getElem?_separatorRow (width : Nat) : (separatorRow .plain width)[width + 1]? = some vertical := by
  have row : separatorRow .plain width = Text.blanks width ++ CodePoint.blank :: [vertical] := by
    have dim : Palette.plain.dim = [] := rfl
    simp [separatorRow, dim]
  rw [row]
  exact getElem?_frame (length_blanks width) ..

theorem getElem?_closingRow (width : Nat) : (closingRow .plain width)[width + 1]? = some bottomLeft := by
  have row : closingRow .plain width =
      Text.blanks width ++ CodePoint.blank :: bottomLeft :: List.replicate 5 horizontal := by
    have dim : Palette.plain.dim = [] := rfl
    simp [closingRow, dim]
  rw [row]
  exact getElem?_frame (length_blanks width) ..

/-- Whatever stands behind the front of a pointer's rows, the frame is a dot. -/
theorem getElem?_plainGutter_append (width : Nat) (rest : Text) :
    (plainGutter width ++ rest)[width + 1]? = some dot := by
  have row : plainGutter width ++ rest = Text.blanks width ++ CodePoint.blank :: dot :: CodePoint.blank :: rest := by
    simp [plainGutter]
  rw [row]
  exact getElem?_frame (length_blanks width) ..

theorem getElem?_underlineRow (width : Nat) (position : Position) :
    (underlineRow width position)[width + 1]? = some dot := by
  rw [underlineRow, List.append_assoc]
  exact getElem?_plainGutter_append ..

theorem getElem?_messageRow (width : Nat) (label : Label) (position : Position) :
    (messageRow width label position)[width + 1]? = some dot := by
  rw [messageRow, List.append_assoc, List.append_assoc]
  exact getElem?_plainGutter_append ..

/-!
### Numbered rows
-/

/-- The columns that a line is given behind a gutter of some width. -/
def contentWidth (width : Nat) : Nat := max (77 - width) 20

theorem contentBudget_takenWidth (width : Nat) : contentBudget (takenWidth width) = contentWidth width := by
  simp only [contentBudget, takenWidth, contentWidth, rowWidth, leastContentWidth]
  omega

/-- What is shown of a line: all of it if it has room, and else its front and an ellipsis. -/
def IsShown (width : Nat) (line shown : Text) : Prop :=
  line.length ≤ contentWidth width ∧ shown = line ∨
    contentWidth width < line.length ∧ shown = line.take (contentWidth width - 1) ++ [ellipsis]

theorem isShown_truncate (width : Nat) (line : Text) : IsShown width line (truncate line (takenWidth width)) := by
  rw [IsShown, truncate, contentBudget_takenWidth]
  split
  next long => exact .inr ⟨long, rfl⟩
  next short => exact .inl ⟨Nat.not_lt.1 short, rfl⟩

theorem IsShown.length_le {line shown : Text} (is_shown : IsShown width line shown) :
    shown.length ≤ contentWidth width := by
  rcases is_shown with ⟨short, rfl⟩ | ⟨-, rfl⟩
  · exact short
  · have some_room : 20 ≤ contentWidth width := Nat.le_max_right ..
    rw [List.length_append, List.length_take, List.length_singleton]
    omega

/-- How the rows of a group fit a gutter: the number has room in front of the frame, the frame stands in one
    column, and behind three columns more than the number has room for the line is shown as far as it fits. -/
structure LineGroup.Fits (width : Nat) (group : LineGroup) : Prop where
  number : (Text.ofNat group.number).length ≤ width
  numbered : (numberedRow width group.number group.text)[width + 1]? = some vertical
  pointers : ∀ l ∈ group.labels, (underlineRow width l.position)[width + 1]? = some dot ∧
    (messageRow width l.label l.position)[width + 1]? = some dot
  shown : ∃ front shown, numberedRow width group.number group.text = front ++ shown ∧
    front.length = width + 3 ∧ IsShown width group.text shown
  length_le : (numberedRow width group.number group.text).length ≤ max 80 (width + 23)

theorem LineGroup.fits {group : LineGroup} (number : (Text.ofNat group.number).length ≤ width) :
    group.Fits width := by
  have wide := length_padLeft number
  have row : numberedRow width group.number group.text =
      Text.padLeft width (Text.ofNat group.number) ++ CodePoint.blank :: vertical ::
        CodePoint.blank :: truncate group.text (takenWidth width) := by
    simp [numberedRow]
  have is_shown := isShown_truncate width group.text
  have length_front := length_numberedFront number
  refine ⟨number, ?_, fun l _ => ⟨getElem?_underlineRow .., getElem?_messageRow ..⟩,
    ⟨_, _, rfl, length_front, is_shown⟩, ?_⟩
  · rw [row]
    exact getElem?_frame wide ..
  · have short := is_shown.length_le
    rw [numberedRow, List.length_append, length_front]
    rw [contentWidth] at short
    omega

/-- In a block of groups that fit every row has the frame in the same column. -/
theorem exists_frame_of_mem_framedRows {groups : List LineGroup} (fit : ∀ group ∈ groups, group.Fits width)
    {row : Text} (mem : row ∈ framedRows width groups) :
    ∃ glyph ∈ [vertical, dot, bottomLeft], row[width + 1]? = some glyph := by
  rw [framedRows, List.cons_append, List.mem_cons, List.mem_append, List.mem_flatMap, List.mem_cons,
    List.mem_singleton] at mem
  rcases mem with rfl | ⟨group, in_groups, in_group⟩ | rfl | rfl
  · exact ⟨vertical, by simp, getElem?_separatorRow width⟩
  · rw [LineGroup.rows, List.mem_cons, List.mem_flatMap] at in_group
    rcases in_group with rfl | ⟨l, in_labels, of_label⟩
    · exact ⟨vertical, by simp, (fit group in_groups).numbered⟩
    · rw [List.mem_cons, List.mem_singleton] at of_label
      rcases of_label with rfl | rfl
      · exact ⟨dot, by simp, getElem?_underlineRow ..⟩
      · exact ⟨dot, by simp, getElem?_messageRow ..⟩
  · exact ⟨vertical, by simp, getElem?_separatorRow width⟩
  · exact ⟨bottomLeft, by simp, getElem?_closingRow width⟩

/-- A block that is drawn without colours consists of groups that fit its gutter. -/
theorem exists_groups_of_contextRows? {source : Source} {attached : List Label} {rows : List Text}
    (outcome : (placeLabels (some source) attached).outcome = .ok placed)
    (measured : gutterWidth contextLines placed = .ok width)
    (block : contextRows? .plain (some source) contextLines width placed = .ok (some rows)) :
    ∃ groups, rows = framedRows width groups ∧
      ∀ group ∈ groups, source.line group.number = .ok (some group.text) ∧ group.Fits width := by
  rcases placeLabels_eq_ok_iff.1 outcome with ⟨labels, -, rfl⟩
  rw [contextRows?_plain, Except.ok.injEq] at block
  rcases Option.map_eq_some_iff.1 block with ⟨groups, grouped, rfl⟩
  refine ⟨groups, rfl, fun group mem => ?_⟩
  have in_block : group ∈ (sourceGroups source contextLines labels).getD [] := by
    rw [grouped]
    exact mem
  exact ⟨(line_of_mem_sourceGroups in_block).1,
    LineGroup.fits (length_ofNat_number_le_gutterWidth measured in_block)⟩

end Render

/-- All framed rows of a diagnostic that is drawn without colours share one gutter. Its width is the number of
    digits of the last line up to which a label could show context. The frame stands behind it and a blank,
    in the banner and in every row of the block; the numbers in front of it have room, and behind it each line
    is shown as far as it fits. -/
theorem Diagnostic.rows_share_gutter (d : Diagnostic) (sources : Lookup) (options : Option RenderOptions)
    (colors : Option Bool) (contextLines : Option Int) {text : Text}
    (colorless : colors.getD (options.getD {}).colors = false)
    (drawn : (d.render sources options colors contextLines).outcome = .ok text) :
    ∃ placed sections width,
      (placeLabels (sources.find d.source).value d.labels).outcome = .ok placed ∧
      width = numberWidth (RenderOptions.contextInForce options contextLines) placed ∧
      (d.sections sources ⟨false, RenderOptions.contextInForce options contextLines⟩).outcome = .ok sections ∧
      text = sections.text ∧
      (∀ banner ∈ sections.banner, banner[width + 1]? = some topLeft) ∧
      ∀ rows ∈ sections.context, ∃ source groups, (sources.find d.source).value = some source ∧
        rows = framedRows width groups ∧
        (separatorRow .plain width)[width + 1]? = some vertical ∧
        (closingRow .plain width)[width + 1]? = some bottomLeft ∧
        (∀ row ∈ rows, ∃ glyph ∈ [vertical, dot, bottomLeft], row[width + 1]? = some glyph) ∧
        ∀ group ∈ groups, source.line group.number = .ok (some group.text) ∧ group.Fits width := by
  rcases render_eq_ok_iff.1 drawn with ⟨-, sections, parts, rfl⟩
  rw [colorless] at parts
  rcases sections_eq_ok_iff.1 parts with ⟨placed, width, severity, context, outcome, measured, -, -, block, made⟩
  refine ⟨placed, sections, width, outcome, (numberWidth_eq measured).symm, parts, rfl, ?_, ?_⟩
  · intro banner shown
    rw [made, Option.mem_def] at shown
    rcases placed with - | ⟨first, rest⟩
    · cases shown
    · rw [← Option.some.inj shown]
      exact getElem?_bannerRow ..
  · intro rows shown
    obtain rfl : context = some rows := by rw [← shown, made]
    cases found : (sources.find d.source).value with
    | none =>
        rw [found] at block
        cases block
    | some source =>
        rw [found] at outcome block
        rcases exists_groups_of_contextRows? outcome measured block with ⟨groups, rfl, fits⟩
        exact ⟨source, groups, rfl, rfl, getElem?_separatorRow width, getElem?_closingRow width,
          fun row mem => exists_frame_of_mem_framedRows (fun group in_groups => (fits group in_groups).2) mem, fits⟩

/-- A diagnostic on the second line. -/
def Diagnostic.wideSample : Diagnostic where
  message := ['m']
  severity := .known .error
  code := none
  source := some ['s']
  labels := [.primary (.span (.position (.point Cell.first.nextLine))) none none]
  help := []
  notes := []

/-- Its label where it is drawn. -/
def Render.PositionedLabel.wideSample : PositionedLabel :=
  ⟨.primary (.span (.position (.point Cell.first.nextLine))) none none, .point Cell.first.nextLine⟩

/-- The number of the last line that nine lines of context could show has two digits, and although only two lines
    exist, so has the gutter. -/
theorem Diagnostic.rows_share_gutter_two_digits : ∃ sections rows,
    (Diagnostic.wideSample.sections (.single .shortSample) ⟨false, 9⟩).outcome = .ok sections ∧
      sections.context = some rows ∧ (∀ banner ∈ sections.banner, banner[3]? = some topLeft) ∧
      ∀ row ∈ rows, ∃ glyph ∈ [vertical, dot, bottomLeft], row[3]? = some glyph := by
  have measured : gutterWidth 9 [PositionedLabel.wideSample.placed] = .ok 2 := by rfl
  have fits : checkPointers (some .shortSample) ([.wideSample].map PositionedLabel.placed) = .ok () := by
    simp only [checkPointers, sortedLabels_map_placed, List.mergeSort_singleton]
    rfl
  have is_drawn : ∃ sections,
      (Diagnostic.wideSample.sections (.single .shortSample) ⟨false, 9⟩).outcome = .ok sections ∧
        ∃ rows, sections.context = some rows :=
    ⟨_, Diagnostic.sections_eq_ok_iff.2 ⟨[PositionedLabel.wideSample.placed], 2, .error, _, rfl, measured, rfl, fits,
      contextRows?_plain .shortSample 9 2 [.wideSample], rfl⟩, _, rfl⟩
  rcases is_drawn with ⟨parts, made, rows, shown⟩
  have drawn : (Diagnostic.wideSample.render (.single .shortSample) (some ⟨false, 9⟩) none none).outcome =
      .ok parts.text :=
    Diagnostic.render_eq_ok_iff.2 ⟨(by simp), parts, made, rfl⟩
  obtain ⟨placed, sections, width, outcome, rfl, same, -, banner, block⟩ :=
    Diagnostic.rows_share_gutter .wideSample (.single .shortSample) (some ⟨false, 9⟩) none none rfl drawn
  obtain rfl : [PositionedLabel.wideSample.placed] = placed := Except.ok.inj outcome
  obtain rfl : parts = sections := Except.ok.inj (made.symm.trans same)
  rcases block rows shown with ⟨-, -, -, -, -, -, frames, -⟩
  exact ⟨parts, rows, made, shown, banner, frames⟩

end Marginalia
