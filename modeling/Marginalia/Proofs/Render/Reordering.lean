/-
Module: Marginalia.Proofs.Render.Reordering
Purpose: What the order of labels decides. The block is drawn from the labels sorted by line, and sorting leaves
  the labels of one line as they were attached: two orders that agree on every line give one sorted list, and with
  it one window, one gutter and the same rows. Only the banner looks at the label that was attached first, and of
  it only at the cell where its span starts.
Main exports: rearranged, KeepsOrder, SameUnderKeys, KeepsOrder.sameUnderKeys, eq_of_pairwise_of_sameUnderKeys,
  Label.start?, Render.SameLayout, Diagnostic.rearranged_labels_agree
-/

import Mathlib.Data.Fintype.Perm
import Mathlib.Data.List.FinRange
import Marginalia.Proofs.Render.Location

namespace Marginalia

open Render

/-!
### Lists in another order
-/

section

variable {α β κ : Type}

/-- The members of a list in another order: at place `i` stands what stood at place `order i`. -/
def rearranged (items : List α) (order : Equiv.Perm (Fin items.length)) : List α :=
  List.ofFn fun i => items.get (order i)

/-- Whether an order leaves those members in their order that have the same key. -/
def KeepsOrder (key : α → κ) (items : List α) (order : Equiv.Perm (Fin items.length)) : Prop :=
  ∀ i j, i < j → key (items.get (order i)) = key (items.get (order j)) → order i < order j

variable [DecidableEq κ]

/-- Two lists with the same members, in which those under one key come in the same order. -/
structure SameUnderKeys (key : α → κ) (items others : List α) : Prop where
  perm : items.Perm others
  under : ∀ k, (items.filter fun a => key a = k) = others.filter fun a => key a = k

variable {key : α → κ} {items others : List α}

theorem rearranged_eq_map (items : List α) (order : Equiv.Perm (Fin items.length)) :
    rearranged items order = ((List.finRange items.length).map order).map items.get := by
  rw [rearranged, List.ofFn_eq_map, List.map_map]
  rfl

theorem KeepsOrder.sameUnderKeys {order : Equiv.Perm (Fin items.length)} (keeps : KeepsOrder key items order) :
    SameUnderKeys key (rearranged items order) items := by
  have places : ((List.finRange items.length).map order).Perm (List.finRange items.length) :=
    order.map_finRange_perm
  refine ⟨?_, fun k => ?_⟩
  · rw [rearranged_eq_map]
    exact (places.map items.get).trans (.of_eq (List.map_get_finRange items))
  · -- The places of the members under one key go up in both lists, and they are the same places.
    have same_places : (((List.finRange items.length).map order).filter fun i => key (items.get i) = k) =
        (List.finRange items.length).filter fun i => key (items.get i) = k := by
      refine @List.Perm.eq_of_pairwise _ (· ≤ ·) _ _ (fun a b _ _ ab ba => le_antisymm ab ba) ?_ ?_
        (places.filter _)
      · rw [List.pairwise_filter, List.pairwise_map]
        refine (List.pairwise_lt_finRange _).imp fun {i j} lt ki kj => ?_
        simp only [decide_eq_true_eq] at ki kj
        exact (keeps i j lt (ki.trans kj.symm)).le
      · exact ((List.pairwise_lt_finRange _).imp fun lt => lt.le).filter _
    calc (rearranged items order).filter (fun a => key a = k)
        = (((List.finRange items.length).map order).filter fun i => key (items.get i) = k).map items.get := by
          rw [rearranged_eq_map]
          exact List.filter_map
      _ = ((List.finRange items.length).map items.get).filter fun a => key a = k := by
          rw [same_places, List.filter_map]
          rfl
      _ = items.filter fun a => key a = k := by rw [List.map_get_finRange]

/-- What is made of some members keeps their order where it keeps their keys. -/
theorem SameUnderKeys.filterMap {f : α → Option β} {of : β → κ} (same : SameUnderKeys key items others)
    (agree : ∀ a ∈ items, ∀ b, f a = some b → of b = key a) :
    SameUnderKeys of (items.filterMap f) (others.filterMap f) := by
  have under : ∀ list : List α, (∀ a ∈ list, ∀ b, f a = some b → of b = key a) → ∀ k,
      ((list.filterMap f).filter fun b => of b = k) = (list.filter fun a => key a = k).filterMap f := by
    intro list agree k
    rw [List.filter_filterMap, List.filterMap_filter]
    refine List.filterMap_congr fun a mem => ?_
    cases made : f a with
    | none => simp
    | some b => simp [Option.filter_some, agree a mem b made]
  refine ⟨same.perm.filterMap f, fun k => ?_⟩
  rw [under items agree, under others (fun a mem => agree a (same.perm.mem_iff.2 mem)), same.under]

/-- Lists in order of their keys are equal if they agree under every key. -/
theorem eq_of_pairwise_of_filter {key : α → Nat} (sorted : items.Pairwise fun a b => key a ≤ key b)
    (also_sorted : others.Pairwise fun a b => key a ≤ key b)
    (under : ∀ k, (items.filter fun a => key a = k) = others.filter fun a => key a = k) : items = others := by
  induction items generalizing others with
  | nil =>
      rcases others with - | ⟨b, others⟩
      · rfl
      · simpa using under (key b)
  | cons a items ih =>
      rcases others with - | ⟨b, others⟩
      · simpa using under (key a)
      rw [List.pairwise_cons] at sorted also_sorted
      have b_first : key b ≤ key a := by
        have mem : a ∈ b :: others := by
          refine List.mem_of_mem_filter (p := fun c => key c = key a) ?_
          rw [← under (key a)]
          simp
        rcases List.mem_cons.1 mem with rfl | later
        · exact le_rfl
        · exact also_sorted.1 a later
      have a_first : key a ≤ key b := by
        have mem : b ∈ a :: items := by
          refine List.mem_of_mem_filter (p := fun c => key c = key b) ?_
          rw [under (key b)]
          simp
        rcases List.mem_cons.1 mem with rfl | later
        · exact le_rfl
        · exact sorted.1 b later
      have same_key : key b = key a := le_antisymm b_first a_first
      obtain rfl : a = b := by
        have heads := under (key a)
        rw [List.filter_cons_of_pos (by simp), List.filter_cons_of_pos (by simpa using same_key)] at heads
        exact (List.cons.inj heads).1
      rw [ih sorted.2 also_sorted.2]
      intro k
      have here := under k
      rw [List.filter_cons, List.filter_cons] at here
      split at here
      · exact (List.cons.inj here).2
      · exact here

end

/-!
### Labels in another order
-/

/-- The cell where the span of a label starts in a source. A label without a span starts nowhere. -/
def Label.start? (source : Option Source) (label : Label) : Option Cell :=
  (label.toSpan.toOption.bind fun span => (span.resolve source).outcome.toOption).map (·.start)

namespace Render

/-- The cell at which a placed label is shown; octets of an unknown content are shown at the first cell. -/
def PlacedLabel.start (l : PlacedLabel) : Cell := (l.place.position?.map (·.start)).getD Cell.first

/-- A placed label as one to be drawn; octets of an unknown content are not drawn. -/
def PlacedLabel.positioned? (l : PlacedLabel) : Option PositionedLabel :=
  l.place.position?.map fun p => ⟨l.label, p⟩

variable {source : Option Source} {labels others : List Label} {place : Label → PlacedLabel}

theorem start?_of_placeLabel {label : Label} {l : PlacedLabel}
    (at_label : (placeLabel source label).outcome = .ok l) : label.start? source = some l.start := by
  rcases succeeds_toSpan_of_placed at_label with ⟨span, is_span⟩
  rcases start_of_placeLabel is_span at_label with ⟨position, resolved, start⟩
  rw [PlacedLabel.start, start, Label.start?, is_span, Except.toOption, Option.bind_some, resolved]
  rfl

/-- Labels that stand for spans have places, each of them its own. -/
theorem exists_places (source : Option Source) :
    ∃ place : Label → PlacedLabel, ∀ label, Succeeds label.toSpan →
      (placeLabel source label).outcome = .ok (place label) := by
  have each : ∀ label, ∃ l, Succeeds label.toSpan → (placeLabel source label).outcome = .ok l := by
    intro label
    by_cases spans : Succeeds label.toSpan
    · rcases spans with ⟨span, is_span⟩
      rcases exists_place source is_span with ⟨place, at_label⟩
      exact ⟨_, fun _ => at_label⟩
    · exact ⟨⟨label, .cells (.point Cell.first)⟩, fun succeeds => absurd succeeds spans⟩
  choose place at_label using each
  exact ⟨place, at_label⟩

theorem placeLabels_eq_map (at_labels : ∀ label ∈ labels, (placeLabel source label).outcome = .ok (place label)) :
    (placeLabels source labels).outcome = .ok (labels.map place) := by
  induction labels with
  | nil => rfl
  | cons label rest ih =>
      rw [List.forall_mem_cons] at at_labels
      simp only [placeLabels, Checked.outcome_bind, at_labels.1, ih at_labels.2]
      rfl

/-- The first of the places starts where the first label does. -/
theorem head?_start (at_labels : ∀ label ∈ labels, (placeLabel source label).outcome = .ok (place label)) :
    (labels.map place).head?.map PlacedLabel.start = labels.head?.bind (Label.start? source) := by
  cases labels with
  | nil => rfl
  | cons label rest => exact (start?_of_placeLabel (at_labels label (List.mem_cons_self ..))).symm

/-- Two lists of placed labels that are drawn alike: they are sorted into one list, and the last line that they
    could show is the same. -/
structure SameLayout (placed others : List PlacedLabel) : Prop where
  sorted : sortedLabels placed = sortedLabels others
  highest : ∀ contextLines, highestLine contextLines placed = highestLine contextLines others

theorem SameLayout.symm {placed others : List PlacedLabel} (same : SameLayout placed others) :
    SameLayout others placed :=
  ⟨same.sorted.symm, fun contextLines => (same.highest contextLines).symm⟩

theorem SameLayout.gutterWidth_eq {placed others : List PlacedLabel} (same : SameLayout placed others)
    (contextLines : Nat) : gutterWidth contextLines placed = gutterWidth contextLines others := by
  rw [gutterWidth, gutterWidth, same.highest]

theorem highestLine_perm {placed others : List PlacedLabel} (perm : placed.Perm others) (contextLines : Nat) :
    highestLine contextLines placed = highestLine contextLines others := by
  have ends := (perm.filterMap fun l => l.place.position?).map fun p => p.start.line + contextLines
  exact (foldl_highest_eq contextLines placed 1).trans
    ((@List.Perm.foldl_op_eq _ max _ _ _ _ _ ends).trans (foldl_highest_eq contextLines others 1).symm)

/-- Labels that agree on every line are sorted into one list. -/
theorem mergeSort_byLine_congr {labels others : List PositionedLabel}
    (same : SameUnderKeys (fun l => some l.line) labels others) :
    labels.mergeSort byLine = others.mergeSort byLine := by
  have in_order : ∀ list : List PositionedLabel,
      (list.mergeSort byLine).Pairwise fun a b => a.line ≤ b.line := by
    intro list
    refine (List.pairwise_mergeSort byLine_trans byLine_total list).imp fun {a b} le => ?_
    simpa only [byLine, decide_eq_true_eq] using le
  refine eq_of_pairwise_of_filter (in_order labels) (in_order others) fun number => ?_
  have under := same.under (some number)
  simp only [Option.some.injEq] at under
  rw [filter_line_mergeSort, filter_line_mergeSort, under]

/-- Labels in an order that agrees on every line are drawn alike. -/
theorem sameLayout_of_sameUnderKeys
    (at_labels : ∀ label ∈ labels, (placeLabel source label).outcome = .ok (place label))
    (same : SameUnderKeys (fun label => (label.start? source).map Cell.line) labels others) :
    SameLayout (labels.map place) (others.map place) := by
  refine ⟨?_, highestLine_perm (same.perm.map place)⟩
  have positioned : ∀ list : List Label, sortedLabels (list.map place) =
      (list.filterMap (PlacedLabel.positioned? ∘ place)).mergeSort byLine := by
    intro list
    rw [← List.filterMap_map]
    rfl
  rw [positioned, positioned]
  refine mergeSort_byLine_congr (same.filterMap fun label mem l drawn => ?_)
  rw [start?_of_placeLabel (at_labels label mem), Option.map_some, PlacedLabel.start]
  rcases Option.map_eq_some_iff.1 drawn with ⟨p, at_cells, rfl⟩
  rw [at_cells]
  rfl

/-- The banner shows the cell at which the first label is shown. -/
theorem bannerRow?_eq (p : Palette) (source : Option Source) (width : Nat) (placed : List PlacedLabel) :
    bannerRow? p source width placed = (placed.head?.map PlacedLabel.start).map fun cell =>
      bannerRow p width (locationText (source.map (·.name)) cell.line cell.column) := by
  cases placed with
  | nil => rfl
  | cons first rest => rfl

theorem isSome_bannerRow? (p : Palette) (source : Option Source) (width : Nat) (placed : List PlacedLabel) :
    (bannerRow? p source width placed).isSome = decide (0 < placed.length) := by
  cases placed with
  | nil => rfl
  | cons first rest => simp [bannerRow?]

end Render

/-!
### Diagnostics with their labels in another order
-/

namespace Diagnostic

variable {d : Diagnostic} {sources : Lookup} {options : RenderOptions} {labels : List Label}
  {placed others : List PlacedLabel}

/-- With labels that are drawn alike all parts are the same, but for the banner. -/
theorem sections_of_sameLayout (outcome : (placeLabels (sources.find d.source).value d.labels).outcome = .ok placed)
    (also : (placeLabels (sources.find d.source).value labels).outcome = .ok others)
    (same : SameLayout placed others) {sections : Sections}
    (drawn : (d.sections sources options).outcome = .ok sections) :
    ∃ width, gutterWidth options.contextLines placed = .ok width ∧
      sections.banner = bannerRow? (.ofColors options.colors) (sources.find d.source).value width placed ∧
      ({ d with labels }.sections sources options).outcome = .ok { sections with
        banner := bannerRow? (.ofColors options.colors) (sources.find d.source).value width others } := by
  rcases sections_eq_ok_iff.1 drawn with ⟨also_placed, width, severity, context, at_labels, measured, known, fits,
    rows, rfl⟩
  obtain rfl : placed = also_placed := Except.ok.inj (outcome.symm.trans at_labels)
  refine ⟨width, measured, rfl, sections_eq_ok_iff.2 ⟨others, width, severity, context, also, ?_, known, ?_, ?_, rfl⟩⟩
  · rw [← same.gutterWidth_eq, measured]
  · rw [checkPointers, ← same.sorted]
    exact fits
  · simp only [contextRows?, ← same.sorted]
    exact rows

/-- With labels that are drawn alike drawing fails alike. -/
theorem sections_error_of_sameLayout
    (outcome : (placeLabels (sources.find d.source).value d.labels).outcome = .ok placed)
    (also : (placeLabels (sources.find d.source).value labels).outcome = .ok others)
    (same : SameLayout placed others) {fault : RenderFault}
    (refused : (d.sections sources options).outcome = .error fault) :
    ({ d with labels }.sections sources options).outcome = .error fault := by
  have some_span : ¬ ∃ cause, FirstFault d.labels cause ∧ fault = .span cause := by
    intro failed
    have fails : (placeLabels (sources.find d.source).value d.labels).outcome = .error fault :=
      placeLabels_eq_error_iff.2 failed
    rw [outcome] at fails
    cases fails
  rcases (or_iff_right some_span).1 (sections_eq_error_iff.1 refused) with ⟨also_placed, at_labels, checks⟩
  obtain rfl : placed = also_placed := Except.ok.inj (outcome.symm.trans at_labels)
  refine sections_eq_error_iff.2 (.inr ⟨others, also, ?_⟩)
  rw [checkPointers, ← same.sorted, ← same.gutterWidth_eq]
  exact checks

/-- A diagnostic with its labels attached in another order. -/
def reordered (d : Diagnostic) (order : Equiv.Perm (Fin d.labels.length)) : Diagnostic :=
  { d with labels := rearranged d.labels order }

/-- The order in which labels are attached matters only within a line and for the banner. Let all labels of a
    diagnostic stand for spans, and attach them in another order that keeps the order of those that start on one
    line. The diagnostic is then refused exactly as before. If it is drawn, the gutter is as wide as before and
    all parts are the same, but for the banner; and if the label that is now the first starts on the same cell as
    the one that was, the whole drawing is the same. -/
theorem rearranged_labels_agree (d : Diagnostic) (sources : Lookup) (options : Option RenderOptions)
    (colors : Option Bool) (contextLines : Option Int) (spans : ∀ label ∈ d.labels, Succeeds label.toSpan)
    (order : Equiv.Perm (Fin d.labels.length))
    (keeps : KeepsOrder (fun label => (label.start? (sources.find d.source).value).map Cell.line) d.labels order) :
    (∀ fault, ((d.reordered order).render sources options colors contextLines).outcome = .error fault ↔
      (d.render sources options colors contextLines).outcome = .error fault) ∧
    (∀ text, (d.render sources options colors contextLines).outcome = .ok text →
      ∃ placed others width sections banner,
        (placeLabels (sources.find d.source).value d.labels).outcome = .ok placed ∧
        (placeLabels (sources.find d.source).value (d.reordered order).labels).outcome = .ok others ∧
        gutterWidth (RenderOptions.contextInForce options contextLines) placed = .ok width ∧
        gutterWidth (RenderOptions.contextInForce options contextLines) others = .ok width ∧
        (d.sections sources ⟨colors.getD (options.getD {}).colors,
          RenderOptions.contextInForce options contextLines⟩).outcome = .ok sections ∧ sections.text = text ∧
        ((d.reordered order).sections sources ⟨colors.getD (options.getD {}).colors,
          RenderOptions.contextInForce options contextLines⟩).outcome = .ok { sections with banner } ∧
        sections.banner = bannerRow? (.ofColors (colors.getD (options.getD {}).colors))
          (sources.find d.source).value width placed ∧
        banner = bannerRow? (.ofColors (colors.getD (options.getD {}).colors))
          (sources.find d.source).value width others ∧
        banner.isSome = sections.banner.isSome ∧
        ((d.reordered order).render sources options colors contextLines).outcome =
          .ok { sections with banner }.text) ∧
    ((d.reordered order).labels.head?.bind (Label.start? (sources.find d.source).value) =
        d.labels.head?.bind (Label.start? (sources.find d.source).value) →
      ((d.reordered order).render sources options colors contextLines).outcome =
        (d.render sources options colors contextLines).outcome) := by
  rcases exists_places (sources.find d.source).value with ⟨place, places⟩
  have perm := keeps.sameUnderKeys.perm
  have at_labels : ∀ label ∈ d.labels, (placeLabel (sources.find d.source).value label).outcome = .ok (place label) :=
    fun label mem => places label (spans label mem)
  have at_others : ∀ label ∈ rearranged d.labels order,
      (placeLabel (sources.find d.source).value label).outcome = .ok (place label) :=
    fun label mem => at_labels label (perm.mem_iff.1 mem)
  have outcome := placeLabels_eq_map at_labels
  have also := placeLabels_eq_map at_others
  have same := (sameLayout_of_sameUnderKeys at_others keeps.sameUnderKeys).symm
  have refused : ∀ fault, ((d.reordered order).render sources options colors contextLines).outcome = .error fault ↔
      (d.render sources options colors contextLines).outcome = .error fault := by
    intro fault
    rw [render_eq_error_iff, render_eq_error_iff]
    refine or_congr Iff.rfl (and_congr_right fun _ => ⟨?_, sections_error_of_sameLayout outcome also same⟩)
    exact @sections_error_of_sameLayout (d.reordered order) _ _ d.labels _ _ also outcome same.symm _
  refine ⟨refused, fun text drawn => ?_, fun same_start => ?_⟩
  · rcases render_eq_ok_iff.1 drawn with ⟨nonneg, sections, parts, rfl⟩
    rcases sections_of_sameLayout outcome also same parts with ⟨width, measured, banner, in_order⟩
    refine ⟨_, _, width, sections, _, outcome, also, measured, ?_, parts, rfl, in_order, banner, rfl, ?_,
      render_eq_ok_iff.2 ⟨nonneg, _, in_order, rfl⟩⟩
    · rw [← same.gutterWidth_eq, measured]
    · rw [banner, isSome_bannerRow?, isSome_bannerRow?, List.length_map, List.length_map, perm.length_eq]
  · cases drawn : (d.render sources options colors contextLines).outcome with
    | error fault => exact (refused fault).2 drawn
    | ok text =>
        rcases render_eq_ok_iff.1 drawn with ⟨nonneg, sections, parts, rfl⟩
        rcases sections_of_sameLayout outcome also same parts with ⟨width, -, banner, in_order⟩
        have first : ((rearranged d.labels order).map place).head?.map PlacedLabel.start =
            (d.labels.map place).head?.map PlacedLabel.start := by
          rw [head?_start at_others, head?_start at_labels]
          exact same_start
        refine render_eq_ok_iff.2 ⟨nonneg, _, in_order, ?_⟩
        rw [bannerRow?_eq, first, ← bannerRow?_eq, ← banner]

/-- Two labels on a second line, with one on the first line attached between them. -/
def crossedSample : Diagnostic where
  message := ['m']
  severity := .known .error
  code := none
  source := some ['s']
  labels := [
    .primary (.tuple [.int 3, .int 2]) none none,
    .secondary (.tuple [.int 1, .int 1, .int 1, .int 3]) none none,
    .secondary (.tuple [.int 2, .int 2, .int 2, .int 3]) none none]
  help := []
  notes := []

/-- The order in which the label of the first line comes first. -/
def crossedOrder : Equiv.Perm (Fin 3) := Equiv.swap 0 1

/-- With the label of the first line in front only the banner changes. -/
theorem rearranged_labels_agree_two_lines :
    ∃ sections, (crossedSample.sections (.single .shortSample) ⟨false, 0⟩).outcome = .ok sections ∧
      sections.banner = some (Text.of "  ╭─[s:2:1]") ∧
      ((crossedSample.reordered crossedOrder).sections (.single .shortSample) ⟨false, 0⟩).outcome =
        .ok { sections with banner := some (Text.of "  ╭─[s:1:1]") } := by
  have spans : ∀ label ∈ crossedSample.labels, Succeeds label.toSpan := by
    intro label mem
    simp only [crossedSample, List.mem_cons, List.not_mem_nil, or_false] at mem
    rcases mem with rfl | rfl | rfl
    · exact ⟨_, rfl⟩
    · exact ⟨_, rfl⟩
    · exact ⟨_, rfl⟩
  have keeps : KeepsOrder (fun label => (label.start? (some .shortSample)).map Cell.line) crossedSample.labels
      crossedOrder := by
    show ∀ i j : Fin 3, i < j → _
    decide +kernel
  have limits : WithinLimits ((Lookup.single .shortSample).find crossedSample.source).value
      (RenderOptions.contextInForce none (some 0)) crossedSample.labels := by
    have one_digit : Numeral.Writable 1 ∧ Numeral.Writable 2 := by decide
    intro label mem p placed
    simp only [crossedSample, List.mem_cons, List.not_mem_nil, or_false] at mem
    rcases mem with rfl | rfl | rfl
    all_goals obtain rfl := Place.cells.inj (PlacedLabel.mk.inj (Except.ok.inj placed)).2
    · exact ⟨one_digit.2, one_digit.1, fun _ _ _ => show 0 + markedWidth _ ≤ memoryLimit by decide⟩
    · exact ⟨one_digit.1, one_digit.1, fun _ _ _ => show 0 + markedWidth _ ≤ memoryLimit by decide⟩
    · exact ⟨one_digit.2, one_digit.2, fun _ _ _ => show 1 + markedWidth _ ≤ memoryLimit by decide⟩
  have drawn : Succeeds (crossedSample.render (.single .shortSample) none (some false) (some 0)).outcome :=
    (render_succeeds_iff_of_withinLimits limits).2 ⟨by simp, spans, trivial⟩
  rcases drawn with ⟨text, drawn⟩
  rcases (crossedSample.rearranged_labels_agree (.single .shortSample) none (some false) (some 0) spans crossedOrder
    keeps).2.1 text drawn with ⟨placed, others, width, sections, banner, outcome, also, measured, -, parts, -, in_order,
      was, is, -, -⟩
  cases outcome
  cases also
  cases measured
  refine ⟨sections, parts, was.trans (by rfl), in_order.trans ?_⟩
  rw [is]
  rfl

end Diagnostic

end Marginalia
