/-
Module: Marginalia.Proofs.Render.Layout
Purpose: The layout of the rows that show a source. The block is described without sorting: its window
  reaches from some lines above the topmost label to as many below the lowest one, every line of the window
  is one group, and the labels of a group are those that start on its line, in the order in which they were
  attached. The drawn block is this layout for every list of labels and every window; no label that starts on
  a line of the source is lost, drawn twice or drawn below another line.
Main exports: LineGroup, lineGroups, sourceGroups, framedRows, contextRows?_eq, contextRows?_succeeds,
  sourceGroups_labels_perm, Diagnostic.context_block_layout
-/

import Mathlib.Data.List.Basic
import Marginalia.Proofs.Render.Placement

namespace Marginalia

open Render

namespace Render

/-!
### Layout
-/

/-- The line of the topmost label. -/
def topLine (labels : List PositionedLabel) : Nat := (labels.map (·.line)).min?.getD 1

/-- The line of the lowest label. -/
def bottomLine (labels : List PositionedLabel) : Nat := (labels.map (·.line)).max?.getD 1

/-- The first line of the window, some lines above the topmost label but not above the first line. -/
def windowFirst (contextLines : Nat) (labels : List PositionedLabel) : Nat :=
  max 1 (topLine labels - contextLines)

/-- The last line of the window, as many lines below the lowest label. -/
def windowLast (contextLines : Nat) (labels : List PositionedLabel) : Nat :=
  bottomLine labels + contextLines

/-- A line of the window with the labels that start on it. -/
structure LineGroup where
  number : Nat
  text : Text
  labels : List PositionedLabel

/-- The lines of the window that exist, each with the labels that start on it in order of attachment. -/
def lineGroups (lines : List Text) (contextLines : Nat) (labels : List PositionedLabel) : List LineGroup :=
  let first := windowFirst contextLines labels
  let last := min (windowLast contextLines labels) lines.length
  (List.range' first (last + 1 - first)).map fun n =>
    ⟨n, lines.getD (n - 1) [], labels.filter fun l => l.line = n⟩

/-- A source line behind its number, as it is drawn without colours. -/
def numberedRow (width number : Nat) (text : Text) : Text :=
  Text.padLeft width (Text.ofNat number) ++ [CodePoint.blank, vertical, CodePoint.blank] ++
    truncate text (takenWidth width)

/-- The front of a pointer's rows, as it is drawn without colours. -/
def plainGutter (width : Nat) : Text :=
  Text.blanks width ++ [CodePoint.blank, dot, CodePoint.blank]

/-- The row that underlines the columns of a label. -/
def underlineRow (width : Nat) (position : Position) : Text :=
  plainGutter width ++ Text.blanks (position.start.column - 1) ++ (underline (markedWidth position)).1

/-- The row that tells the message of a label. -/
def messageRow (width : Nat) (label : Label) (position : Position) : Text :=
  plainGutter width ++
    Text.blanks (position.start.column - 1 + (underline (markedWidth position)).2) ++
    [bottomLeft, horizontal, horizontal, CodePoint.blank] ++ label.message.getD []

/-- The rows of a group: the numbered line, then two rows for each of its labels. -/
def LineGroup.rows (width : Nat) (group : LineGroup) : List Text :=
  numberedRow width group.number group.text ::
    group.labels.flatMap fun l => [underlineRow width l.position, messageRow width l.label l.position]

/-- Groups between separators, and the row that closes the frame. -/
def framedRows (width : Nat) (groups : List LineGroup) : List Text :=
  separatorRow .plain width :: groups.flatMap (LineGroup.rows width) ++
    [separatorRow .plain width, closingRow .plain width]

/-- The groups that show a source: there are some if there are labels, the content is known and the window
    starts on one of its lines. -/
def sourceGroups (source : Source) (contextLines : Nat) (labels : List PositionedLabel) :
    Option (List LineGroup) :=
  match source.lines with
  | none => none
  | some lines =>
    if labels ≠ [] ∧ windowFirst contextLines labels ≤ lines.length then
      some (lineGroups lines contextLines labels)
    else none

/-!
### Sorting keeps the order of attachment
-/

/-- Sorting leaves equals in their order: what is selected among them comes out as it went in. -/
theorem filter_mergeSort {α : Type} {le : α → α → Bool} {p : α → Bool}
    (trans : ∀ a b c, le a b → le b c → le a c) (total : ∀ a b, le a b || le b a)
    (equals : ∀ a b, p a → p b → le a b) (l : List α) : (l.mergeSort le).filter p = l.filter p := by
  have sorted : (l.filter p).Pairwise fun a b => le a b := by
    rw [List.pairwise_filter]
    exact List.pairwise_of_forall fun {a b} ha hb => equals a b ha hb
  -- A sorted part of a list is still a part of it when the list is sorted, and the lengths agree.
  have inside := (List.sublist_mergeSort trans total sorted List.filter_sublist).filter p
  rw [List.filter_filter, List.filter_congr fun a _ => Bool.and_self (p a)] at inside
  exact (inside.eq_of_length ((List.mergeSort_perm l le).filter p).length_eq.symm).symm

/-- The order in which labels are sorted. -/
def byLine (a b : PositionedLabel) : Bool := a.line ≤ b.line

theorem byLine_trans (a b c : PositionedLabel) (ab : byLine a b) (bc : byLine b c) : byLine a c := by
  simp only [byLine, decide_eq_true_eq] at *
  exact ab.trans bc

theorem byLine_total (a b : PositionedLabel) : byLine a b || byLine b a := by
  simp only [byLine, Bool.or_eq_true, decide_eq_true_eq]
  exact Nat.le_total a.line b.line

theorem mem_mergeSort_byLine {labels : List PositionedLabel} {l : PositionedLabel} :
    l ∈ labels.mergeSort byLine ↔ l ∈ labels :=
  List.mem_mergeSort

theorem sortedLabels_map_placed (labels : List PositionedLabel) :
    sortedLabels (labels.map PositionedLabel.placed) = labels.mergeSort byLine := by
  rw [sortedLabels, List.filterMap_map]
  congr 1
  exact List.filterMap_some

/-!
### The edges of the window
-/

variable {labels : List PositionedLabel}

theorem topLine_spec (some_labels : labels ≠ []) :
    (∃ l ∈ labels, l.line = topLine labels) ∧ ∀ l ∈ labels, topLine labels ≤ l.line := by
  cases top : (labels.map (·.line)).min? with
  | none => simp [some_labels] at top
  | some line =>
      rcases List.min?_eq_some_iff.1 top with ⟨reached, least⟩
      rcases List.mem_map.1 reached with ⟨l, mem, same⟩
      rw [topLine, top, Option.getD_some]
      exact ⟨⟨l, mem, same⟩, fun l mem => least _ (List.mem_map_of_mem mem)⟩

theorem bottomLine_spec (some_labels : labels ≠ []) :
    (∃ l ∈ labels, l.line = bottomLine labels) ∧ ∀ l ∈ labels, l.line ≤ bottomLine labels := by
  cases bottom : (labels.map (·.line)).max? with
  | none => simp [some_labels] at bottom
  | some line =>
      rcases List.max?_eq_some_iff.1 bottom with ⟨reached, greatest⟩
      rcases List.mem_map.1 reached with ⟨l, mem, same⟩
      rw [bottomLine, bottom, Option.getD_some]
      exact ⟨⟨l, mem, same⟩, fun l mem => greatest _ (List.mem_map_of_mem mem)⟩

theorem line_eq_topLine_of_head? {first : PositionedLabel}
    (head : (labels.mergeSort byLine).head? = some first) : first.line = topLine labels := by
  rcases List.head?_eq_some_iff.1 head with ⟨rest, sorted⟩
  have order := List.pairwise_mergeSort byLine_trans byLine_total labels
  have mem : first ∈ labels := by
    rw [← mem_mergeSort_byLine, sorted]
    exact List.mem_cons_self ..
  rcases topLine_spec (List.ne_nil_of_mem mem) with ⟨⟨l, l_mem, at_top⟩, above⟩
  refine le_antisymm ?_ (above first mem)
  rw [← at_top]
  rw [sorted, List.pairwise_cons] at order
  rw [← mem_mergeSort_byLine, sorted] at l_mem
  rcases List.mem_cons.1 l_mem with rfl | later
  · exact le_rfl
  · simpa [byLine] using order.1 l later

theorem line_eq_bottomLine_of_getLast? {last : PositionedLabel}
    (at_end : (labels.mergeSort byLine).getLast? = some last) : last.line = bottomLine labels := by
  rcases List.getLast?_eq_some_iff.1 at_end with ⟨before, sorted⟩
  have order := List.pairwise_mergeSort byLine_trans byLine_total labels
  have mem : last ∈ labels := by
    rw [← mem_mergeSort_byLine, sorted]
    exact List.mem_append_right _ (List.mem_singleton_self last)
  rcases bottomLine_spec (List.ne_nil_of_mem mem) with ⟨⟨l, l_mem, at_bottom⟩, below⟩
  refine le_antisymm (below last mem) ?_
  rw [← at_bottom]
  rw [sorted, List.pairwise_append] at order
  rw [← mem_mergeSort_byLine, sorted] at l_mem
  rcases List.mem_append.1 l_mem with earlier | same
  · simpa [byLine] using order.2.2 l earlier last (List.mem_singleton_self last)
  · rw [List.mem_singleton.1 same]

theorem one_le_windowFirst (contextLines : Nat) : 1 ≤ windowFirst contextLines labels :=
  Nat.le_max_left ..

theorem windowFirst_le_windowLast (contextLines : Nat) (some_labels : labels ≠ []) :
    windowFirst contextLines labels ≤ windowLast contextLines labels := by
  rcases (topLine_spec some_labels).1 with ⟨l, mem, at_top⟩
  have at_bottom := (bottomLine_spec some_labels).2 l mem
  have line_pos : 1 ≤ l.line := l.position.start.line_pos
  simp only [windowFirst, windowLast]
  omega

/-!
### The drawn block
-/

/-- The rows of groups in some palette, between separators and closed. -/
def drawGroups (p : Palette) (width : Nat) (groups : List LineGroup) : List Text :=
  separatorRow p width ::
    groups.flatMap (fun group => lineRows p width group.labels group.number group.text) ++
    [separatorRow p width, closingRow p width]

/-- Sorting leaves the labels of one line in their order. -/
theorem filter_line_mergeSort (number : Nat) (labels : List PositionedLabel) :
    (labels.mergeSort byLine).filter (fun l => l.line = number) = labels.filter fun l => l.line = number := by
  apply filter_mergeSort byLine_trans byLine_total
  intro a b ha hb
  simp only [decide_eq_true_eq] at ha hb
  simp [byLine, ha, hb]

/-- The rows of a line depend only on the labels that start on it. -/
theorem lineRows_mergeSort (p : Palette) (width number : Nat) (text : Text) (labels : List PositionedLabel) :
    lineRows p width (labels.mergeSort byLine) number text =
      lineRows p width (labels.filter fun l => l.line = number) number text := by
  rw [lineRows, lineRows, filter_line_mergeSort, List.filter_filter]
  simp only [Bool.and_self]

theorem lineRows_ne_nil (p : Palette) (width number : Nat) (text : Text) (labels : List PositionedLabel) :
    lineRows p width labels number text ≠ [] := by
  rw [lineRows]
  split <;> simp

theorem lineGroups_eq_nil_iff (lines : List Text) (contextLines : Nat) (some_labels : labels ≠ []) :
    lineGroups lines contextLines labels = [] ↔ lines.length < windowFirst contextLines labels := by
  have ordered := windowFirst_le_windowLast contextLines some_labels
  have positive : 1 ≤ windowFirst contextLines labels := one_le_windowFirst contextLines
  simp only [lineGroups, List.map_eq_nil_iff, List.range'_eq_nil_iff]
  omega

theorem flatMap_lineRows_eq_nil_iff (p : Palette) (width : Nat) (groups : List LineGroup) :
    (groups.flatMap fun group => lineRows p width group.labels group.number group.text) = [] ↔
      groups = [] := by
  cases groups with
  | nil => simp
  | cons group rest => simp [lineRows_ne_nil]

/-- The rows of the lines in the window are the rows of their groups. -/
theorem flatMap_lineRows_window (p : Palette) (width : Nat) (lines : List Text) (contextLines : Nat)
    (labels : List PositionedLabel) :
    (((List.range' (windowFirst contextLines labels)
        (min (windowLast contextLines labels) lines.length + 1 - windowFirst contextLines labels)).map
          fun n => (n, lines.getD (n - 1) [])).flatMap fun entry =>
            lineRows p width (labels.mergeSort byLine) entry.1 entry.2) =
      (lineGroups lines contextLines labels).flatMap fun group =>
        lineRows p width group.labels group.number group.text := by
  simp only [lineGroups, List.flatMap_map, lineRows_mergeSort]

/-- In every palette the block of a source is the layout of its labels, and drawing it never breaks the
    contract of line numbers. -/
theorem contextRows?_eq (p : Palette) (source : Source) (contextLines width : Nat)
    (labels : List PositionedLabel) :
    contextRows? p (some source) contextLines width (labels.map PositionedLabel.placed) =
      .ok ((sourceGroups source contextLines labels).map (drawGroups p width)) := by
  unfold contextRows?
  simp only [sortedLabels_map_placed]
  by_cases no_labels : labels = []
  · subst no_labels
    cases known : source.lines <;> simp [sourceGroups, known]
  have some_sorted : labels.mergeSort byLine ≠ [] := by
    rw [ne_eq, ← List.length_eq_zero_iff, List.length_mergeSort, List.length_eq_zero_iff]
    exact no_labels
  rcases Option.isSome_iff_exists.1 (List.isSome_head?.2 some_sorted) with ⟨first, head⟩
  obtain ⟨last, at_end⟩ : ∃ last, (labels.mergeSort byLine).getLast? = some last :=
    ⟨_, List.getLast?_eq_some_getLast some_sorted⟩
  simp only [head, at_end, line_eq_topLine_of_head? head, line_eq_bottomLine_of_getLast? at_end]
  change (source.lineRange (windowFirst contextLines labels : Nat)
    (windowLast contextLines labels : Nat) >>= _) = _
  rw [source.lineRange_eq (one_le_windowFirst contextLines)
    (windowFirst_le_windowLast contextLines no_labels)]
  cases known : source.lines with
  | none => simp [sourceGroups, known, bind, Except.bind, pure, Except.pure]
  | some lines =>
      -- The match on the rows of the window tells whether there is a group.
      simp only [bind, Except.bind, flatMap_lineRows_window]
      have empty := flatMap_lineRows_eq_nil_iff p width (lineGroups lines contextLines labels)
      rw [lineGroups_eq_nil_iff lines contextLines no_labels] at empty
      simp only [sourceGroups, known]
      split
      next no_rows =>
        rw [if_neg fun inside => absurd (empty.1 no_rows) (Nat.not_lt.2 inside.2)]
        rfl
      next rows_ne =>
        rw [if_pos ⟨no_labels, Nat.not_lt.1 (rows_ne ∘ empty.2)⟩]
        rfl

/-- The lines around placed labels are always asked for within the contract of line numbers. -/
theorem contextRows?_succeeds (p : Palette) (contextLines width : Nat) {source : Option Source}
    {attached : List Label} {placed : List PlacedLabel}
    (outcome : (placeLabels source attached).outcome = .ok placed) :
    Succeeds (contextRows? p source contextLines width placed) := by
  cases source with
  | none => exact succeeds_ok none
  | some source =>
      rcases placeLabels_eq_ok_iff.1 outcome with ⟨drawn, -, rfl⟩
      rw [contextRows?_eq]
      exact succeeds_ok _

/-!
### The groups
-/

theorem mem_lineGroups_iff {lines : List Text} {contextLines : Nat} {group : LineGroup} :
    group ∈ lineGroups lines contextLines labels ↔
      windowFirst contextLines labels ≤ group.number ∧ group.number ≤ windowLast contextLines labels ∧
        group.number ≤ lines.length ∧ group.text = lines.getD (group.number - 1) [] ∧
        group.labels = labels.filter fun l => l.line = group.number := by
  simp only [lineGroups, List.mem_map, List.mem_range'_1]
  constructor
  · intro picked
    rcases picked with ⟨n, inside, rfl⟩
    refine ⟨inside.1, ?_, ?_, rfl, rfl⟩ <;> (simp only; omega)
  · intro ⟨from_first, to_last, exists_line, text, on_line⟩
    refine ⟨group.number, by omega, ?_⟩
    cases group
    simp_all

/-- Labels picked key by key are the labels whose keys are among those picked. -/
theorem flatMap_range'_filter_perm {α : Type} (key : α → Nat) (first count : Nat) (l : List α) :
    ((List.range' first count).flatMap fun n => l.filter fun a => key a = n).Perm
      (l.filter fun a => first ≤ key a ∧ key a < first + count) := by
  induction count generalizing first with
  | zero =>
      have none_inside : (l.filter fun a => first ≤ key a ∧ key a < first + 0) = [] := by
        rw [List.filter_eq_nil_iff]
        intro a mem
        simp only [decide_eq_true_eq]
        omega
      rw [none_inside]
      exact List.Perm.refl []
  | succ count ih =>
      rw [List.range'_succ, List.flatMap_cons]
      -- The labels of the first key and those of the later keys split the labels of all keys.
      refine ((ih (first + 1)).append_left _).trans ?_
      have split := List.filter_append_perm (fun a => decide (key a = first))
        (l.filter fun a => first ≤ key a ∧ key a < first + (count + 1))
      rw [List.filter_filter, List.filter_filter] at split
      have at_first : (l.filter fun a => decide (key a = first) &&
          decide (first ≤ key a ∧ key a < first + (count + 1))) = l.filter fun a => key a = first := by
        apply List.filter_congr
        intro a mem
        simp only [Bool.and_eq_left_iff_imp, decide_eq_true_eq]
        omega
      have later : (l.filter fun a => !decide (key a = first) &&
          decide (first ≤ key a ∧ key a < first + (count + 1))) =
            l.filter fun a => first + 1 ≤ key a ∧ key a < first + 1 + count := by
        apply List.filter_congr
        intro a mem
        rw [← decide_not, ← Bool.decide_and, decide_eq_decide]
        omega
      rwa [at_first, later] at split

/-- The groups together have the labels on lines that exist, each as often as it was attached. -/
theorem lineGroups_labels_perm (lines : List Text) (contextLines : Nat) (labels : List PositionedLabel) :
    ((lineGroups lines contextLines labels).flatMap (·.labels)).Perm
      (labels.filter fun l => l.line ≤ lines.length) := by
  simp only [lineGroups, List.flatMap_map]
  refine (flatMap_range'_filter_perm PositionedLabel.line ..).trans (List.Perm.of_eq ?_)
  apply List.filter_congr
  intro l mem
  -- Every label lies in the window, so that only the end of the text can cut it off.
  have some_labels := List.ne_nil_of_mem mem
  have above := (topLine_spec some_labels).2 l mem
  have below := (bottomLine_spec some_labels).2 l mem
  have line_pos : 1 ≤ l.line := l.position.start.line_pos
  rw [decide_eq_decide, windowFirst, windowLast]
  omega

/-!
### The block without colours
-/

@[simp] theorem styled_plain (t : Text) : Palette.plain.styled [] t = t := by
  rw [Palette.styled, List.nil_append]
  exact List.append_nil t

@[simp] theorem priority_plain (priority : Priority) : Palette.plain.priority priority = [] := by
  cases priority <;> rfl

theorem contextRow_plain (width number : Nat) (text : Text) :
    contextRow .plain width number text = numberedRow width number text := by
  have dim : Palette.plain.dim = [] := rfl
  simp [contextRow, numberedRow, dim]

theorem labelledRow_plain (width number : Nat) (text : Text) :
    labelledRow .plain width number text = numberedRow width number text := by
  have dim : Palette.plain.dim = [] := rfl
  simp [labelledRow, numberedRow, dim]

theorem pointerRows_plain (width : Nat) (label : Label) (position : Position) :
    pointerRows .plain width label position =
      [underlineRow width position, messageRow width label position] := by
  have dim : Palette.plain.dim = [] := rfl
  simp [pointerRows, underlineRow, messageRow, pointerGutter, plainGutter, dim]

theorem lineRows_plain (width : Nat) (group : LineGroup)
    (on_line : ∀ l ∈ group.labels, l.line = group.number) :
    lineRows .plain width group.labels group.number group.text = group.rows width := by
  have all_on_line : group.labels.filter (fun l => l.line = group.number) = group.labels := by
    simpa [List.filter_eq_self] using on_line
  rw [lineRows, all_on_line, LineGroup.rows]
  cases group.labels with
  | nil => simp [contextRow_plain]
  | cons first rest => simp [labelledRow_plain, pointerRows_plain]

theorem drawGroups_plain (width : Nat) (lines : List Text) (contextLines : Nat)
    (labels : List PositionedLabel) :
    drawGroups .plain width (lineGroups lines contextLines labels) =
      framedRows width (lineGroups lines contextLines labels) := by
  rw [drawGroups, framedRows, List.flatMap_congr]
  intro group mem
  rcases mem_lineGroups_iff.1 mem with ⟨-, -, -, -, on_line⟩
  apply lineRows_plain
  rw [on_line]
  simp

/-- Without colours the block of a source is the frame around its groups. -/
theorem contextRows?_plain (source : Source) (contextLines width : Nat) (labels : List PositionedLabel) :
    contextRows? .plain (some source) contextLines width (labels.map PositionedLabel.placed) =
      .ok ((sourceGroups source contextLines labels).map (framedRows width)) := by
  rw [contextRows?_eq, sourceGroups]
  cases source.lines with
  | none => rfl
  | some lines =>
      simp only
      split
      · rw [Option.map_some, Option.map_some, drawGroups_plain]
      · rfl

/-!
### What is drawn of the labels
-/

variable {source : Source} {contextLines : Nat} {lines : List Text}

/-- The groups that are drawn; where there is no block there are none. -/
theorem getD_sourceGroups (known : source.lines = some lines) (some_labels : labels ≠ []) :
    (sourceGroups source contextLines labels).getD [] = lineGroups lines contextLines labels := by
  simp only [sourceGroups, known]
  split
  next => rfl
  next outside =>
    have past_end : lines.length < windowFirst contextLines labels := by
      rw [← Nat.not_le]
      exact fun inside => outside ⟨some_labels, inside⟩
    rw [(lineGroups_eq_nil_iff lines contextLines some_labels).2 past_end]
    rfl

/-- A drawn group stands on a line of its source, and its labels on the same. -/
theorem line_of_mem_sourceGroups {group : LineGroup}
    (drawn : group ∈ (sourceGroups source contextLines labels).getD []) :
    source.line group.number = .ok (some group.text) ∧
      group.labels = labels.filter fun l => l.line = group.number := by
  cases known : source.lines with
  | none => simp [sourceGroups, known] at drawn
  | some lines =>
      by_cases some_labels : labels = []
      · simp [sourceGroups, known, some_labels] at drawn
      rw [getD_sourceGroups known some_labels] at drawn
      rcases mem_lineGroups_iff.1 drawn with ⟨from_first, -, exists_line, text, on_line⟩
      have positive : 1 ≤ group.number := (one_le_windowFirst contextLines).trans from_first
      refine ⟨?_, on_line⟩
      rw [source.line_eq positive, known, text, List.getD_eq_getElem?_getD]
      simp only [Option.bind_some, List.getElem?_eq_getElem (show group.number - 1 < lines.length by omega),
        Option.getD_some]

/-- The labels that are drawn are those on lines that exist, each as often as it was attached. -/
theorem sourceGroups_labels_perm (known : source.lines = some lines) :
    (((sourceGroups source contextLines labels).getD []).flatMap (·.labels)).Perm
      (labels.filter fun l => l.line ≤ lines.length) := by
  by_cases some_labels : labels = []
  · simp [sourceGroups, known, some_labels]
  · rw [getD_sourceGroups known some_labels]
    exact lineGroups_labels_perm lines contextLines labels

/-- A label that starts on a line of its source is drawn in one of the groups. -/
theorem exists_group_of_line (contextLines : Nat) {l : PositionedLabel} (mem : l ∈ labels) {text : Text}
    (at_line : source.line l.line = .ok (some text)) :
    ∃ groups, sourceGroups source contextLines labels = some groups ∧ ∃ group ∈ groups, l ∈ group.labels := by
  have line_pos : 1 ≤ l.line := l.position.start.line_pos
  rw [source.line_eq line_pos, Except.ok.injEq] at at_line
  rcases Option.bind_eq_some_iff.1 at_line with ⟨lines, known, at_line⟩
  have exists_line : l.line ≤ lines.length := by
    have inside := (List.getElem?_eq_some_iff.1 at_line).1
    omega
  have drawn : l ∈ ((sourceGroups source contextLines labels).getD []).flatMap (·.labels) := by
    rw [(sourceGroups_labels_perm known).mem_iff, List.mem_filter]
    exact ⟨mem, decide_eq_true exists_line⟩
  rcases List.mem_flatMap.1 drawn with ⟨group, group_mem, in_group⟩
  cases block : sourceGroups source contextLines labels with
  | none => simp [block] at group_mem
  | some groups =>
      rw [block, Option.getD_some] at group_mem
      exact ⟨groups, rfl, group, group_mem, in_group⟩

/-- The group that a label is drawn in is the one of its line, with the text of that line. -/
theorem line_eq_of_mem_labels {group : LineGroup} {l : PositionedLabel} {text : Text}
    (drawn : group ∈ (sourceGroups source contextLines labels).getD []) (in_group : l ∈ group.labels)
    (at_line : source.line l.line = .ok (some text)) : l.line = group.number ∧ group.text = text := by
  rcases line_of_mem_sourceGroups drawn with ⟨group_line, group_labels⟩
  have number : l.line = group.number := by
    rw [group_labels] at in_group
    exact of_decide_eq_true (List.mem_filter.1 in_group).2
  rw [← number, at_line] at group_line
  exact ⟨number, (Option.some.inj (Except.ok.inj group_line)).symm⟩

/-- A label on octets is placed on a line of its source. -/
theorem PlacedAt.line_le {label : Label} {drawn : PositionedLabel} (placed : PlacedAt source label drawn)
    (known : source.lines = some lines) {r : OctetRange} (octets : label.toSpan = .ok (.octets r)) :
    drawn.line ≤ lines.length := by
  rcases placed with ⟨-, span, is_span, resolved⟩
  obtain rfl : Span.octets r = span := by simpa [octets] using is_span
  rcases source with ⟨name, content⟩
  rcases Option.map_eq_some_iff.1 known with ⟨content, rfl, rfl⟩
  have position : (r.resolve (some (.ofText name content))).value = drawn.position := Except.ok.inj resolved
  rw [PositionedLabel.line, ← position]
  exact r.line_le_of_resolve name

end Render

/-- Two lines of two letters and a third, empty one. -/
def Source.shortSample : Source :=
  .ofText ['s'] ['a', 'b', CodePoint.newline, 'c', 'd', CodePoint.newline]

/-- Labels out of order: octets of the second line, a cell past the end of the text, and two columns of the
    first line. -/
def Diagnostic.unsortedSample : Diagnostic where
  message := ['m']
  severity := .known .error
  code := none
  source := some ['s']
  labels := [
    .primary (.tuple [.int 3, .int 2]) none none,
    .secondary (.span (.position (.point Cell.first.nextLine.nextLine.nextLine))) none none,
    .secondary (.tuple [.int 1, .int 1, .int 1, .int 3]) none none]
  help := []
  notes := []

/-- The block of a diagnostic without colours. Its labels are placed on the positions of their spans, and at
    every width of the gutter the block is the frame around the groups of these positions. Whenever the
    diagnostic is drawn, at the width that the gutter has, this is the block it shows; and it is drawn unless
    the gutter, the severity or the size of a row forbids it. No label that starts on a line of the source is
    lost, drawn twice or drawn below another line, and every label on octets starts on one. -/
theorem Diagnostic.context_block_layout (d : Diagnostic) (sources : Lookup) (options : RenderOptions)
    (source : Source) (colorless : options.colors = false)
    (found : (sources.find d.source).value = some source)
    (spans : ∀ label ∈ d.labels, ∃ span, label.toSpan = .ok span) :
    ∃ labels : List PositionedLabel, List.Forall₂ (PlacedAt source) d.labels labels ∧
      (placeLabels (some source) d.labels).outcome = .ok (labels.map PositionedLabel.placed) ∧
      (∀ width, contextRows? .plain (some source) options.contextLines width
          (labels.map PositionedLabel.placed) =
        .ok ((sourceGroups source options.contextLines labels).map (framedRows width))) ∧
      (∀ sections, (d.sections sources options).outcome = .ok sections →
        ∃ width, gutterWidth options.contextLines (labels.map PositionedLabel.placed) = .ok width ∧
          sections.context = (sourceGroups source options.contextLines labels).map (framedRows width)) ∧
      (Succeeds (d.sections sources options).outcome ↔
        Succeeds (gutterWidth options.contextLines (labels.map PositionedLabel.placed)) ∧
          Succeeds d.severity.toSeverity ∧
          Succeeds (checkPointers (some source) (labels.map PositionedLabel.placed))) ∧
      (∀ group ∈ (sourceGroups source options.contextLines labels).getD [],
        source.line group.number = .ok (some group.text) ∧ ∀ l ∈ group.labels, l.line = group.number) ∧
      ∀ lines, source.lines = some lines →
        (((sourceGroups source options.contextLines labels).getD []).flatMap (·.labels)).Perm
          (labels.filter fun l => l.line ≤ lines.length) ∧
        ∀ l ∈ labels, (∃ r, l.label.toSpan = .ok (.octets r)) → l.line ≤ lines.length := by
  rcases exists_placed source spans with ⟨labels, placed⟩
  have outcome := placeLabels_eq_ok_iff.2 ⟨labels, placed, rfl⟩
  have plain : Palette.ofColors options.colors = .plain := by rw [colorless]; rfl
  have block := fun width => contextRows?_plain source options.contextLines width labels
  refine ⟨labels, placed, outcome, fun width => block width, ?_, ?_, ?_, ?_⟩
  · intro sections drawn
    rcases sections_eq_ok_iff.1 drawn with ⟨others, width, severity, context, same, measured, -, -, rows, rfl⟩
    rw [found, outcome, Except.ok.injEq] at same
    subst same
    rw [found, plain, block, Except.ok.injEq] at rows
    exact ⟨width, measured, rows.symm⟩
  · simp only [Succeeds, sections_eq_ok_iff, found, plain, outcome]
    constructor
    · intro drawn
      rcases drawn with ⟨sections, others, width, severity, context, same, measured, known, fits, -, -⟩
      rw [Except.ok.injEq] at same
      subst same
      exact ⟨⟨width, measured⟩, ⟨severity, known⟩, ⟨(), fits⟩⟩
    · intro checks
      rcases checks with ⟨⟨width, measured⟩, ⟨severity, known⟩, ⟨⟨⟩, fits⟩⟩
      exact ⟨_, _, width, severity, _, rfl, measured, known, fits, block width, rfl⟩
  · intro group drawn
    rcases line_of_mem_sourceGroups drawn with ⟨line, on_line⟩
    refine ⟨line, fun l mem => ?_⟩
    rw [on_line] at mem
    simpa using (List.mem_filter.1 mem).2
  · intro lines known
    refine ⟨sourceGroups_labels_perm known, ?_⟩
    rintro l mem ⟨r, octets⟩
    rcases exists_left_of_mem placed mem with ⟨label, -, at_label⟩
    rw [at_label.1] at octets
    exact at_label.line_le known octets

theorem Diagnostic.context_block_layout_unsorted :
    ∃ labels : List PositionedLabel,
      List.Forall₂ (PlacedAt .shortSample) Diagnostic.unsortedSample.labels labels ∧
      labels.map PositionedLabel.line = [2, 4, 1] ∧
      contextRows? .plain (some .shortSample) 1 1 (labels.map PositionedLabel.placed) = .ok (some
        (["  │", "1 │ ab", "  • ┬─", "  • ╰── ", "2 │ cd", "  • ┬─", "  • ╰── ", "3 │ ", "  │",
          "  ╰─────"].map Text.of)) := by
  obtain ⟨labels, placed, -, rows, -⟩ := Diagnostic.context_block_layout .unsortedSample
    (.single .shortSample) ⟨false, 1⟩ .shortSample rfl rfl (by
      intro label mem
      simp only [Diagnostic.unsortedSample, List.mem_cons, List.not_mem_nil, or_false] at mem
      rcases mem with rfl | rfl | rfl
      · exact ⟨_, rfl⟩
      · exact ⟨_, rfl⟩
      · exact ⟨_, rfl⟩)
  have expected : List.Forall₂ (PlacedAt .shortSample) Diagnostic.unsortedSample.labels [
      ⟨_, .between Cell.first.nextLine Cell.first.nextLine.nextColumn.nextColumn⟩,
      ⟨_, .point Cell.first.nextLine.nextLine.nextLine⟩,
      ⟨_, .between Cell.first Cell.first.nextColumn.nextColumn⟩] :=
    .cons ⟨rfl, _, rfl, congrArg Except.ok (by decide +kernel)⟩
      (.cons ⟨rfl, _, rfl, rfl⟩ (.cons ⟨rfl, _, rfl, rfl⟩ .nil))
  obtain rfl := placed_unique placed expected
  refine ⟨_, placed, rfl, (rows 1).trans (congrArg Except.ok ?_)⟩
  decide +kernel

end Marginalia
