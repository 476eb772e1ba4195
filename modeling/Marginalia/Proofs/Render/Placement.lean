/-
Module: Marginalia.Proofs.Render.Placement
Purpose: From the labels of a diagnostic to labels with positions. Against a source every label that stands
  for a span is placed on the cells that its span resolves to, and the labels keep the order in which they
  were attached. The parts of a drawn diagnostic are taken apart once, into the checks that all of them have
  passed and the rows that follow.
Main exports: PlacedAt, placeLabels_eq_ok_iff, exists_placed, placed_unique, exists_left_of_mem,
  mem_of_resolved, Diagnostic.sections_eq_ok_iff, Diagnostic.render_eq_ok_iff
-/

import Mathlib.Data.List.Forall2
import Marginalia.Proofs.Span.Resolution
import Marginalia.Render.Diagnostic

namespace Marginalia

open Render

namespace Render

/-- A label is drawn at the position that its span has in the source. -/
def PlacedAt (source : Source) (label : Label) (drawn : PositionedLabel) : Prop :=
  drawn.label = label ∧
    ∃ span, label.toSpan = .ok span ∧ (span.resolve (some source)).outcome = .ok drawn.position

/-- A label on cells as a placed label. -/
def PositionedLabel.placed (l : PositionedLabel) : PlacedLabel := ⟨l.label, .cells l.position⟩

/-- Against a source a label is placed exactly at the position of its span. -/
theorem placeLabel_eq_ok_iff {source : Source} {label : Label} {placed : PlacedLabel} :
    (placeLabel (some source) label).outcome = .ok placed ↔
      ∃ drawn, PlacedAt source label drawn ∧ placed = drawn.placed := by
  have outcome : (placeLabel (some source) label).outcome =
      (label.toSpan.mapError RenderFault.span >>= fun span =>
        (span.resolve (some source)).outcome.mapError RenderFault.line >>= fun position =>
          .ok (PositionedLabel.placed ⟨label, position⟩)) := by
    simp only [placeLabel, Checked.outcome_bind, Checked.outcome_ofExcept]
    rfl
  simp only [outcome, bind_eq_ok_iff, mapError_eq_ok_iff, Except.ok.injEq]
  constructor
  · intro steps
    rcases steps with ⟨span, is_span, position, resolved, rfl⟩
    exact ⟨⟨label, position⟩, ⟨rfl, span, is_span, resolved⟩, rfl⟩
  · intro resolved_at
    rcases resolved_at with ⟨drawn, ⟨rfl, span, is_span, resolved⟩, rfl⟩
    exact ⟨span, is_span, drawn.position, resolved, rfl⟩

/-- Placing labels succeeds exactly when all of them stand for spans, and places them in order. -/
theorem placeLabels_eq_ok_iff {source : Source} {labels : List Label} {placed : List PlacedLabel} :
    (placeLabels (some source) labels).outcome = .ok placed ↔
      ∃ drawn, List.Forall₂ (PlacedAt source) labels drawn ∧ placed = drawn.map PositionedLabel.placed := by
  induction labels generalizing placed with
  | nil => simp [placeLabels, eq_comm]
  | cons label rest ih =>
      simp only [placeLabels, Checked.outcome_bind, Checked.outcome_pure, bind_eq_ok_iff, Except.ok.injEq]
      constructor
      · intro steps
        rcases steps with ⟨first, at_first, others, at_others, rfl⟩
        rcases placeLabel_eq_ok_iff.1 at_first with ⟨l, at_label, rfl⟩
        rcases ih.1 at_others with ⟨drawn, at_rest, rfl⟩
        exact ⟨l :: drawn, .cons at_label at_rest, rfl⟩
      · intro related
        rcases related with ⟨drawn, at_labels, rfl⟩
        rcases at_labels with - | ⟨at_label, at_rest⟩
        exact ⟨_, placeLabel_eq_ok_iff.2 ⟨_, at_label, rfl⟩, _, ih.2 ⟨_, at_rest, rfl⟩, rfl⟩

/-- Labels that stand for spans have positions, in order. -/
theorem exists_placed (source : Source) {labels : List Label}
    (spans : ∀ label ∈ labels, ∃ span, label.toSpan = .ok span) :
    ∃ drawn : List PositionedLabel, List.Forall₂ (PlacedAt source) labels drawn := by
  induction labels with
  | nil => exact ⟨[], .nil⟩
  | cons label rest ih =>
      rcases spans label (List.mem_cons_self ..) with ⟨span, is_span⟩
      rcases span.resolve_succeeds source with ⟨position, resolved⟩
      rcases ih fun l mem => spans l (List.mem_cons_of_mem _ mem) with ⟨drawn, placed⟩
      exact ⟨⟨label, position⟩ :: drawn, .cons ⟨rfl, span, is_span, resolved⟩ placed⟩

/-- The positions of labels are determined by the labels. -/
theorem placed_unique {source : Source} {labels : List Label} {drawn others : List PositionedLabel}
    (placed : List.Forall₂ (PlacedAt source) labels drawn)
    (also : List.Forall₂ (PlacedAt source) labels others) : drawn = others := by
  induction placed generalizing others with
  | nil =>
      cases also
      rfl
  | @cons label first labels drawn at_first _ ih =>
      rcases also with - | @⟨_, other, _, others, also_first, also_rest⟩
      rcases first with ⟨_, position⟩
      rcases other with ⟨_, other_position⟩
      rcases at_first with ⟨rfl, span, is_span, resolved⟩
      rcases also_first with ⟨rfl, same, is_same, resolved_too⟩
      obtain rfl : span = same := Except.ok.inj (is_span.symm.trans is_same)
      obtain rfl : position = other_position := Except.ok.inj (resolved.symm.trans resolved_too)
      rw [ih also_rest]

/-- What is related pairwise has a partner on the other side. -/
theorem exists_left_of_mem {α β : Type} {R : α → β → Prop} {as : List α} {bs : List β}
    (related : List.Forall₂ R as bs) {b : β} (mem : b ∈ bs) : ∃ a ∈ as, R a b := by
  induction related with
  | nil => exact absurd mem List.not_mem_nil
  | @cons a first as bs here _ ih =>
      rcases List.mem_cons.1 mem with rfl | later
      · exact ⟨a, List.mem_cons_self .., here⟩
      · rcases ih later with ⟨other, other_mem, there⟩
        exact ⟨other, List.mem_cons_of_mem _ other_mem, there⟩

/-- An attached label is among those that are drawn, at the position that its span resolves to. -/
theorem mem_of_resolved {source : Source} {labels : List Label} {drawn : List PositionedLabel} {label : Label}
    {span : Span} {position : Position} (placed : List.Forall₂ (PlacedAt source) labels drawn)
    (attached : label ∈ labels) (is_span : label.toSpan = .ok span)
    (resolved : (span.resolve (some source)).outcome = .ok position) : ⟨label, position⟩ ∈ drawn := by
  rcases exists_left_of_mem placed.flip attached with ⟨⟨_, other⟩, mem, rfl, same, is_same, also_resolved⟩
  obtain rfl : span = same := Except.ok.inj (is_span.symm.trans is_same)
  obtain rfl : position = other := Except.ok.inj (resolved.symm.trans also_resolved)
  exact mem

end Render

/-!
### The parts of a drawn diagnostic
-/

/-- A diagnostic is drawn exactly when its labels have spans, the gutter can be measured, its severity is one
    of the four, the rows of its labels fit and the source can be read; its parts are then made of these. -/
theorem Diagnostic.sections_eq_ok_iff {d : Diagnostic} {sources : Lookup} {options : RenderOptions}
    {sections : Diagnostic.Sections} :
    (d.sections sources options).outcome = .ok sections ↔
      ∃ placed width severity context,
        (placeLabels (sources.find d.source).value d.labels).outcome = .ok placed ∧
        gutterWidth options.contextLines placed = .ok width ∧ d.severity.toSeverity = .ok severity ∧
        checkPointers (sources.find d.source).value placed = .ok () ∧
        contextRows? (.ofColors options.colors) (sources.find d.source).value options.contextLines width
          placed = .ok context ∧
        sections = {
          header := headerRow (.ofColors options.colors) severity d.code d.message
          banner := bannerRow? (.ofColors options.colors) (sources.find d.source).value width placed
          context
          notes := trailer? (.ofColors options.colors) width (Palette.ofColors options.colors).note "note"
            d.notes
          help := trailer? (.ofColors options.colors) width (Palette.ofColors options.colors).help "help"
            d.help } := by
  simp only [Diagnostic.sections, Checked.outcome_bind, Checked.outcome_ofLogged, Checked.outcome_ofExcept,
    Checked.outcome_pure, bind_eq_ok_iff, mapError_eq_ok_iff, Except.ok.injEq]
  constructor
  · intro steps
    rcases steps with ⟨source, rfl, placed, hp, width, hw, severity, hs, fits, hf, context, hc, rfl⟩
    exact ⟨placed, width, severity, context, hp, hw, hs, hf, hc, rfl⟩
  · intro checks
    rcases checks with ⟨placed, width, severity, context, hp, hw, hs, hf, hc, rfl⟩
    exact ⟨_, rfl, placed, hp, width, hw, severity, hs, (), hf, context, hc, rfl⟩

/-!
### Options in force
-/

/-- The number of lines around labels that is in force. -/
def RenderOptions.contextInForce (options : Option RenderOptions) (contextLines : Option Int) : Nat :=
  match contextLines with
  | some n => n.toNat
  | none => (options.getD {}).contextLines

namespace Diagnostic

variable {options : Option RenderOptions} {colors : Option Bool} {contextLines : Option Int}

/-- The options are refused exactly for a negative number of lines. -/
theorem merged_eq_error_iff {fault : OptionsFault} :
    merged options colors contextLines = .error fault ↔
      ∃ n < 0, contextLines = some n ∧ fault = .negativeContext n := by
  rw [merged, RenderOptions.override, RenderOptions.make]
  cases contextLines with
  | none =>
      rw [Option.getD_none, if_neg (by omega)]
      simp
  | some n =>
      rw [Option.getD_some]
      split
      next negative => simp [negative, eq_comm]
      next nonneg =>
        refine iff_of_false (by simp) ?_
        rintro ⟨m, negative, same, -⟩
        rw [Option.some.injEq] at same
        omega

theorem merged_of_nonneg (nonneg : ∀ n, contextLines = some n → 0 ≤ n) :
    merged options colors contextLines =
      .ok ⟨colors.getD (options.getD {}).colors, RenderOptions.contextInForce options contextLines⟩ := by
  rw [merged, RenderOptions.override, RenderOptions.make]
  cases contextLines with
  | none => simp [RenderOptions.contextInForce]
  | some n =>
      rw [Option.getD_some, if_neg (Int.not_lt.2 (nonneg n rfl))]
      rfl

theorem merged_self (options : RenderOptions) : merged (some options) none none = .ok options := by
  rcases options with ⟨colors, contextLines⟩
  simp [merged, RenderOptions.override, RenderOptions.make]

variable (d : Diagnostic) (sources : Lookup)

theorem render_of_merged_error {fault : OptionsFault}
    (refused : merged options colors contextLines = .error fault) :
    (d.render sources options colors contextLines).outcome = .error (.options fault) := by
  simp only [render, Checked.outcome_bind, Checked.outcome_ofExcept, refused]
  rfl

theorem render_of_merged {resolved : RenderOptions}
    (accepted : merged options colors contextLines = .ok resolved) :
    (d.render sources options colors contextLines).outcome =
      Sections.text <$> (d.sections sources resolved).outcome := by
  simp only [render, Checked.outcome_bind, Checked.outcome_ofExcept, accepted]
  rfl

variable {d sources}

/-- A rendering gives the text of its parts under the options in force. -/
theorem render_eq_ok_iff {text : Text} :
    (d.render sources options colors contextLines).outcome = .ok text ↔
      (∀ n, contextLines = some n → 0 ≤ n) ∧
        ∃ sections, (d.sections sources ⟨colors.getD (options.getD {}).colors,
          RenderOptions.contextInForce options contextLines⟩).outcome = .ok sections ∧ sections.text = text := by
  by_cases nonneg : ∀ n, contextLines = some n → 0 ≤ n
  · rw [d.render_of_merged sources (merged_of_nonneg nonneg), and_iff_right nonneg]
    exact map_eq_ok_iff
  · refine iff_of_false ?_ (fun parts => nonneg parts.1)
    simp only [not_forall, Int.not_le] at nonneg
    rcases nonneg with ⟨n, given, negative⟩
    rw [d.render_of_merged_error sources (merged_eq_error_iff.2 ⟨n, negative, given, rfl⟩)]
    intro drawn
    cases drawn

end Diagnostic

end Marginalia
