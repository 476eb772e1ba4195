/-
Module: Marginalia.Proofs.Render.Degradation
Purpose: Drawing degrades instead of failing. Whatever a label stands for, it has a place, with or without a
  source; the places that come out keep every contract that later steps rely on. What is left to go wrong is
  a negative number of lines, a label that stands for no span and a severity without a name, and the order in
  which these are looked at says which of them is reported. Numerals of thousands of digits and rows beyond
  any memory are set aside as limits.
Main exports: FirstFault, SmallEnough, WithinLimits, placeLabels_eq_error_iff,
  Diagnostic.sections_eq_error_iff, Diagnostic.render_fails_iff
-/

import Marginalia.Proofs.Document.Format
import Marginalia.Proofs.Render.Gutter

namespace Marginalia

open Render

/-- Whether a severity is known, or a value that names one of the four. -/
def SeverityLike.IsNamed : SeverityLike → Prop
  | .known _ => True
  | .given v => ∃ severity : Severity, v = .text severity.name

namespace Render

/-- The fault of the first label that stands for no span. -/
def FirstFault (labels : List Label) (fault : SpanFault) : Prop :=
  ∃ before label after, labels = before ++ label :: after ∧ (∀ l ∈ before, Succeeds l.toSpan) ∧
    label.toSpan = .error fault

/-- A place whose numbers can be written, and whose rows fit into memory if they are drawn. -/
structure SmallEnough (source : Option Source) (contextLines : Nat) (p : Position) : Prop where
  line : Numeral.Writable (p.start.line + contextLines)
  column : Numeral.Writable p.start.column
  rows : ∀ count ∈ source.bind Source.lineCount, p.start.line ≤ count →
    p.start.column - 1 + markedWidth p ≤ memoryLimit

/-- No label needs a numeral or a row beyond the limits. -/
def WithinLimits (source : Option Source) (contextLines : Nat) (labels : List Label) : Prop :=
  ∀ label ∈ labels, ∀ p, (placeLabel source label).outcome = .ok ⟨label, .cells p⟩ →
    SmallEnough source contextLines p

/-!
### Places
-/

variable {source : Option Source} {label : Label} {labels : List Label} {placed : List PlacedLabel}

theorem placeLabel_of_error {fault : SpanFault} (refused : label.toSpan = .error fault) :
    (placeLabel source label).outcome = .error (.span fault) := by
  simp only [placeLabel, Checked.outcome_bind, Checked.outcome_ofExcept, refused]
  rfl

theorem succeeds_toSpan_of_placed {l : PlacedLabel} (at_label : (placeLabel source label).outcome = .ok l) :
    Succeeds label.toSpan := by
  by_contra refused
  rcases not_succeeds_iff.1 refused with ⟨fault, refused⟩
  rw [placeLabel_of_error refused] at at_label
  cases at_label

/-- A label that stands for a span has a place, whatever the source is. -/
theorem exists_place (source : Option Source) {span : Span} (is_span : label.toSpan = .ok span) :
    ∃ place, (placeLabel source label).outcome = .ok ⟨label, place⟩ := by
  rcases span.succeeds_resolve source with ⟨position, resolved⟩
  cases source with
  | some source =>
      exact ⟨_, placeLabel_eq_ok_iff.2 ⟨⟨label, position⟩, ⟨rfl, span, is_span, resolved⟩, rfl⟩⟩
  | none =>
      simp only [placeLabel, Checked.outcome_bind, Checked.outcome_ofExcept, is_span]
      cases span with
      | position p => exact ⟨.cells p, rfl⟩
      | octets r => exact ⟨.octets r, rfl⟩
      | search s => exact ⟨.cells s.fallback, rfl⟩

theorem firstFault_cons_iff {fault : SpanFault} :
    FirstFault (label :: labels) fault ↔
      label.toSpan = .error fault ∨ Succeeds label.toSpan ∧ FirstFault labels fault :=
  firstFailure_cons_iff

/-- Either every label stands for a span, or there is a first one that does not. -/
theorem exists_firstFault_iff :
    (∃ fault, FirstFault labels fault) ↔ ¬ ∀ label ∈ labels, Succeeds label.toSpan :=
  exists_firstFailure_iff

/-- Placing labels fails on the first one that stands for no span, and on nothing else. -/
theorem placeLabels_eq_error_iff {fault : RenderFault} :
    (placeLabels source labels).outcome = .error fault ↔
      ∃ cause, FirstFault labels cause ∧ fault = .span cause := by
  induction labels with
  | nil => simp [placeLabels, FirstFault]
  | cons label rest ih =>
      simp only [placeLabels, Checked.outcome_bind, Checked.outcome_pure, firstFault_cons_iff,
        bind_eq_error_iff, ih]
      cases is_span : label.toSpan with
      | error cause =>
          simp [placeLabel_of_error is_span, eq_comm]
      | ok span =>
          rcases exists_place source is_span with ⟨place, at_place⟩
          simp [at_place]

theorem succeeds_placeLabels (source : Option Source) :
    Succeeds (placeLabels source labels).outcome ↔ ∀ label ∈ labels, Succeeds label.toSpan := by
  rw [← not_iff_not, not_succeeds_iff, ← exists_firstFault_iff]
  simp only [placeLabels_eq_error_iff]
  constructor
  · intro failed
    rcases failed with ⟨-, cause, first, -⟩
    exact ⟨cause, first⟩
  · intro failed
    rcases failed with ⟨cause, first⟩
    exact ⟨.span cause, cause, first, rfl⟩

/-- A placed label is the place of one of the labels. -/
theorem exists_label_of_mem_placed (outcome : (placeLabels source labels).outcome = .ok placed)
    {l : PlacedLabel} (mem : l ∈ placed) :
    l.label ∈ labels ∧ (placeLabel source l.label).outcome = .ok l := by
  induction labels generalizing placed with
  | nil =>
      obtain rfl : [] = placed := by simpa [placeLabels] using outcome
      exact absurd mem List.not_mem_nil
  | cons label rest ih =>
      simp only [placeLabels, Checked.outcome_bind, Checked.outcome_pure, bind_eq_ok_iff,
        Except.ok.injEq] at outcome
      rcases outcome with ⟨first, at_first, others, at_others, rfl⟩
      rcases List.mem_cons.1 mem with rfl | later
      · rcases succeeds_toSpan_of_placed at_first with ⟨span, is_span⟩
        rcases exists_place source is_span with ⟨place, at_place⟩
        obtain rfl : l = ⟨label, place⟩ := Except.ok.inj (at_first.symm.trans at_place)
        exact ⟨List.mem_cons_self .., at_place⟩
      · rcases ih at_others later with ⟨in_rest, at_label⟩
        exact ⟨List.mem_cons_of_mem _ in_rest, at_label⟩

/-!
### The checks behind the places
-/

/-- The highest line number is one, or the last line of some label's context. -/
theorem highestLine_induction {property : Nat → Prop} {contextLines : Nat} (one : property 1)
    (lines : ∀ l ∈ placed, ∀ p, l.place = .cells p → property (p.start.line + contextLines)) :
    property (highestLine contextLines placed) := by
  rw [highestLine_eq]
  cases last : (contextEnds contextLines placed).max? with
  | none => exact one
  | some line =>
      rcases List.mem_map.1 (List.max?_eq_some_iff.1 last).1 with ⟨p, reached, rfl⟩
      rcases List.mem_filterMap.1 reached with ⟨⟨label, place⟩, mem, position⟩
      cases place with
      | octets r => cases position
      | cells q =>
          cases position
          exact lines _ mem _ rfl

theorem succeeds_gutterWidth {contextLines : Nat} (short : Numeral.Writable (highestLine contextLines placed)) :
    Succeeds (gutterWidth contextLines placed) := by
  rw [gutterWidth, succeeds_bind_and fun _ => ⟨fun _ => trivial, fun _ => succeeds_pure _⟩, Numeral.write]
  simp only [if_neg (Nat.not_lt.2 short), succeeds_ok, and_true]

theorem succeeds_checkSize {count : Nat} (small : count < memoryLimit) : Succeeds (checkSize count) := by
  have below_index : memoryLimit ≤ indexLimit := by decide
  rw [checkSize, if_neg (by omega), if_neg (by omega)]
  exact succeeds_ok ()

/-- The rows of a label fit if the last column of its underline does. -/
theorem succeeds_checkPointer {p : Position} (fits : p.start.column - 1 + markedWidth p ≤ memoryLimit) :
    Succeeds (checkPointer p) := by
  have some_column : 1 ≤ markedWidth p := by
    rw [markedWidth]
    split
    · exact Nat.le_max_left ..
    · exact le_rfl
  rw [checkPointer, succeeds_forM]
  intro count mem
  apply succeeds_checkSize
  simp only [underlineArms, List.cons_append, List.nil_append, List.mem_cons, List.not_mem_nil,
    or_false] at mem
  omega

theorem mem_sortedLabels_iff {l : PositionedLabel} : l ∈ sortedLabels placed ↔ l.placed ∈ placed := by
  rw [sortedLabels, List.mem_mergeSort, List.mem_filterMap]
  constructor
  · intro found
    rcases found with ⟨⟨label, place⟩, mem, same⟩
    cases place with
    | octets r => simp [Place.position?] at same
    | cells p =>
        obtain rfl : (⟨label, p⟩ : PositionedLabel) = l := by simpa [Place.position?] using same
        exact mem
  · intro mem
    exact ⟨l.placed, mem, rfl⟩

/-- The rows of labels fit if those of each label on an existing line do. -/
theorem succeeds_checkPointers
    (fit : ∀ l : PositionedLabel, l.placed ∈ placed → ∀ count ∈ source.bind Source.lineCount,
      l.line ≤ count → l.position.start.column - 1 + markedWidth l.position ≤ memoryLimit) :
    Succeeds (checkPointers source placed) := by
  rw [checkPointers]
  split
  next => exact succeeds_ok ()
  next count known =>
    rw [succeeds_forM]
    intro l mem
    rw [List.mem_filter, mem_sortedLabels_iff, decide_eq_true_eq] at mem
    exact succeeds_checkPointer (fit l mem.1 count known mem.2)

/-- Within the limits the gutter can be measured and the rows of all labels fit. -/
theorem WithinLimits.succeeds {contextLines : Nat} (limits : WithinLimits source contextLines labels)
    (outcome : (placeLabels source labels).outcome = .ok placed) :
    Succeeds (gutterWidth contextLines placed) ∧ Succeeds (checkPointers source placed) := by
  have small : ∀ l ∈ placed, ∀ p, l.place = .cells p → SmallEnough source contextLines p := by
    intro l mem p at_cells
    rcases exists_label_of_mem_placed outcome mem with ⟨attached, at_label⟩
    apply limits l.label attached p
    rw [at_label, ← at_cells]
  have one : Numeral.Writable 1 := by decide
  constructor
  · exact succeeds_gutterWidth (highestLine_induction one fun l mem p at_cells => (small l mem p at_cells).line)
  · exact succeeds_checkPointers fun l mem => (small l.placed mem l.position rfl).rows

end Render

/-- A severity is refused exactly when it is a value that names none of the four. -/
theorem SeverityLike.toSeverity_eq_error_iff {s : SeverityLike} {fault : SeverityFault} :
    s.toSeverity = .error fault ↔ s = .given fault.given ∧ ¬ s.IsNamed := by
  cases s with
  | known severity => simp [toSeverity]
  | given v =>
      rw [IsNamed, ← Document.exists_severity_iff, toSeverity]
      cases named : Severity.ofValue? v with
      | some severity => simp
      | none =>
          rcases fault with ⟨w⟩
          simp

theorem SeverityLike.succeeds_toSeverity {s : SeverityLike} : Succeeds s.toSeverity ↔ s.IsNamed := by
  cases s with
  | known severity => simp [toSeverity, IsNamed]
  | given v =>
      rw [IsNamed, ← Document.exists_severity_iff, toSeverity]
      cases Severity.ofValue? v with
      | some severity => simp
      | none => simp

/-!
### Rendering
-/

namespace Diagnostic

variable {d : Diagnostic} {sources : Lookup}

/-- A diagnostic is not drawn exactly when one of four checks refuses it, looked at in this order: the spans
    of its labels, the width of the gutter, the severity, and the size of the labels' rows. -/
theorem sections_eq_error_iff {options : RenderOptions} {fault : RenderFault} :
    (d.sections sources options).outcome = .error fault ↔
      (∃ cause, FirstFault d.labels cause ∧ fault = .span cause) ∨
        ∃ placed, (placeLabels (sources.find d.source).value d.labels).outcome = .ok placed ∧
          ((∃ cause, gutterWidth options.contextLines placed = .error cause ∧ fault = .numeral cause) ∨
            Succeeds (gutterWidth options.contextLines placed) ∧
              ((∃ cause, d.severity.toSeverity = .error cause ∧ fault = .severity cause) ∨
                Succeeds d.severity.toSeverity ∧
                  ∃ cause, checkPointers (sources.find d.source).value placed = .error cause ∧
                    fault = .size cause)) := by
  simp only [sections, Checked.outcome_bind, Checked.outcome_ofLogged, Checked.outcome_ofExcept,
    Checked.outcome_pure, bind_eq_error_iff, mapError_eq_error_iff, mapError_eq_ok_iff,
    placeLabels_eq_error_iff, reduceCtorEq, Except.ok.injEq, and_false, exists_false, or_false, false_or,
    exists_eq_left', Succeeds]
  refine or_congr Iff.rfl (exists_congr fun placed => and_congr_right fun outcome => ?_)
  have rows : ∀ width cause, contextRows? (.ofColors options.colors) (sources.find d.source).value
      options.contextLines width placed ≠ .error cause := by
    intro width cause refused
    rcases contextRows?_succeeds (.ofColors options.colors) options.contextLines width outcome with ⟨shown, drawn⟩
    rw [refused] at drawn
    cases drawn
  simp only [rows, false_and, exists_false, and_false, or_false, exists_and_right, eq_comm (a := fault)]

/-- Within the limits a diagnostic is drawn unless a label stands for no span or, if every label stands for
    one, the severity has no name. -/
theorem sections_eq_error_iff_of_withinLimits (options : RenderOptions)
    (limits : WithinLimits (sources.find d.source).value options.contextLines d.labels) {fault : RenderFault} :
    (d.sections sources options).outcome = .error fault ↔
      (∃ cause, FirstFault d.labels cause ∧ fault = .span cause) ∨
        (∀ label ∈ d.labels, Succeeds label.toSpan) ∧
          ∃ cause, d.severity.toSeverity = .error cause ∧ fault = .severity cause := by
  rw [sections_eq_error_iff, ← succeeds_placeLabels (sources.find d.source).value]
  refine or_congr Iff.rfl ⟨fun refused => ?_, fun refused => ?_⟩
  · rcases refused with ⟨placed, outcome, checks⟩
    rcases limits.succeeds outcome with ⟨⟨width, measured⟩, ⟨⟨⟩, fits⟩⟩
    simp only [measured, fits, reduceCtorEq, false_and, exists_false, and_false, or_false, false_or] at checks
    exact ⟨⟨placed, outcome⟩, checks.2⟩
  · rcases refused with ⟨⟨placed, outcome⟩, unnamed⟩
    exact ⟨placed, outcome, .inr ⟨(limits.succeeds outcome).1, .inl unnamed⟩⟩

variable {options : Option RenderOptions} {colors : Option Bool} {contextLines : Option Int}

/-- A rendering fails on its options, or else where its parts fail. -/
theorem render_eq_error_iff {fault : RenderFault} :
    (d.render sources options colors contextLines).outcome = .error fault ↔
      (∃ n < 0, contextLines = some n ∧ fault = .options (.negativeContext n)) ∨
        (∀ n, contextLines = some n → 0 ≤ n) ∧
          (d.sections sources ⟨colors.getD (options.getD {}).colors,
            RenderOptions.contextInForce options contextLines⟩).outcome = .error fault := by
  by_cases nonneg : ∀ n, contextLines = some n → 0 ≤ n
  · have accepted : ¬ ∃ n < 0, contextLines = some n ∧ fault = .options (.negativeContext n) := by
      intro refused
      rcases refused with ⟨n, negative, given, -⟩
      exact absurd (nonneg n given) (Int.not_le.2 negative)
    rw [d.render_of_merged sources (merged_of_nonneg nonneg), or_iff_right accepted, and_iff_right nonneg]
    exact map_eq_error_iff
  · simp only [not_forall, Int.not_le] at nonneg
    rcases nonneg with ⟨n, given, negative⟩
    have refused : merged options colors contextLines = .error (.negativeContext n) :=
      merged_eq_error_iff.2 ⟨n, negative, given, rfl⟩
    rw [d.render_of_merged_error sources refused]
    constructor
    · intro same
      cases same
      exact .inl ⟨n, negative, given, rfl⟩
    · intro reasons
      rcases reasons with ⟨m, -, also_given, rfl⟩ | ⟨nonneg, -⟩
      · rw [Option.some.inj (given.symm.trans also_given)]
      · exact absurd (nonneg n given) (Int.not_le.2 negative)

/-- Within the limits a rendering fails on the options, then on a label without a span, then on the
    severity, and on nothing else. -/
theorem render_eq_error_iff_of_withinLimits
    (limits : WithinLimits (sources.find d.source).value (RenderOptions.contextInForce options contextLines)
      d.labels) {fault : RenderFault} :
    (d.render sources options colors contextLines).outcome = .error fault ↔
      (∃ n < 0, contextLines = some n ∧ fault = .options (.negativeContext n)) ∨
        (∀ n, contextLines = some n → 0 ≤ n) ∧
          ((∃ cause, FirstFault d.labels cause ∧ fault = .span cause) ∨
            (∀ label ∈ d.labels, Succeeds label.toSpan) ∧
              ∃ cause, d.severity.toSeverity = .error cause ∧ fault = .severity cause) := by
  rw [render_eq_error_iff, sections_eq_error_iff_of_withinLimits _ limits]

/-- Within the limits a diagnostic is drawn as soon as its options, its labels and its severity allow it. -/
theorem render_succeeds_iff_of_withinLimits
    (limits : WithinLimits (sources.find d.source).value (RenderOptions.contextInForce options contextLines)
      d.labels) :
    Succeeds (d.render sources options colors contextLines).outcome ↔
      (∀ n, contextLines = some n → 0 ≤ n) ∧ (∀ label ∈ d.labels, Succeeds label.toSpan) ∧
        d.severity.IsNamed := by
  rw [← SeverityLike.succeeds_toSeverity]
  constructor
  · intro drawn
    rcases drawn with ⟨text, drawn⟩
    have never : ∀ fault, (d.render sources options colors contextLines).outcome ≠ .error fault := by
      simp [drawn]
    simp only [ne_eq, render_eq_error_iff_of_withinLimits limits, not_or, not_and] at never
    have nonneg : ∀ n, contextLines = some n → 0 ≤ n := by
      intro n given
      by_contra negative
      exact (never (.options (.negativeContext n))).1 ⟨n, by omega, given, rfl⟩
    have spans : ∀ label ∈ d.labels, Succeeds label.toSpan := by
      by_contra refused
      rcases exists_firstFault_iff.2 refused with ⟨cause, first⟩
      exact ((never (.span cause)).2 nonneg).1 ⟨cause, first, rfl⟩
    refine ⟨nonneg, spans, ?_⟩
    by_contra unnamed
    rcases not_succeeds_iff.1 unnamed with ⟨cause, unnamed⟩
    exact ((never (.severity cause)).2 nonneg).2 spans ⟨cause, unnamed, rfl⟩
  · intro checks
    rcases checks with ⟨nonneg, spans, severity, named⟩
    by_contra refused
    rcases not_succeeds_iff.1 refused with ⟨fault, refused⟩
    rcases (render_eq_error_iff_of_withinLimits limits).1 refused with
      ⟨n, negative, given, -⟩ | ⟨-, ⟨cause, first, -⟩ | ⟨-, cause, unnamed, -⟩⟩
    · exact absurd (nonneg n given) (by omega)
    · exact exists_firstFault_iff.1 ⟨cause, first⟩ spans
    · rw [named] at unnamed
      cases unnamed

/-- Drawing a diagnostic degrades instead of failing. It fails on a negative number of lines; then on the
    first label that stands for no span, with the fault of that label; then, as far as no numeral and no row
    is beyond the limits, on a severity that names none of the four. In every other case it gives a text,
    whatever the labels point to and whatever the lookup holds. The contract of line numbers is never broken,
    and the constructor of positions takes every position that a span resolves to. -/
theorem render_fails_iff (d : Diagnostic) (sources : Lookup) (options : Option RenderOptions)
    (colors : Option Bool) (contextLines : Option Int) :
    (∀ fault, (d.render sources options colors contextLines).outcome = .error (.options fault) ↔
      ∃ n < 0, contextLines = some n ∧ fault = .negativeContext n) ∧
    (∀ fault, (d.render sources options colors contextLines).outcome = .error (.span fault) ↔
      (∀ n, contextLines = some n → 0 ≤ n) ∧ FirstFault d.labels fault) ∧
    (WithinLimits (sources.find d.source).value (RenderOptions.contextInForce options contextLines) d.labels →
      (∀ fault, (d.render sources options colors contextLines).outcome = .error (.severity fault) ↔
        (∀ n, contextLines = some n → 0 ≤ n) ∧ (∀ label ∈ d.labels, Succeeds label.toSpan) ∧
          d.severity = .given fault.given ∧ ¬ d.severity.IsNamed) ∧
      (Succeeds (d.render sources options colors contextLines).outcome ↔
        (∀ n, contextLines = some n → 0 ≤ n) ∧ (∀ label ∈ d.labels, Succeeds label.toSpan) ∧
          d.severity.IsNamed)) ∧
    (∀ fault, (d.render sources options colors contextLines).outcome ≠ .error (.line fault)) ∧
    ∀ span : Span, ∃ position, (span.resolve (sources.find d.source).value).outcome = .ok position ∧
      Position.ofValues SpanField.check (.int position.start.line) (.int position.start.column)
        (position.stopValue Cell.line) (position.stopValue Cell.column) = .ok position := by
  refine ⟨fun fault => ?_, fun fault => ?_, fun limits => ⟨fun fault => ?_, ?_⟩, fun fault => ?_, fun span => ?_⟩
  · simp [render_eq_error_iff, sections_eq_error_iff]
  · simp [render_eq_error_iff, sections_eq_error_iff]
  · simp [render_eq_error_iff_of_withinLimits limits, SeverityLike.toSeverity_eq_error_iff]
  · exact render_succeeds_iff_of_withinLimits limits
  · simp [render_eq_error_iff, sections_eq_error_iff]
  · rcases span.succeeds_resolve (sources.find d.source).value with ⟨position, resolved⟩
    exact ⟨position, resolved, position.ofValues_numbers⟩

end Diagnostic

/-- A diagnostic with an unknown severity, a range of octets and a place far down. -/
def Diagnostic.fatalSample : Diagnostic where
  message := ['m']
  severity := .given (.text "fatal")
  code := none
  source := some ['s']
  labels := [
    .primary (.tuple [.int 0, .int 5]) none none,
    .secondary (.tuple [.int 7, .int 1, .int 7, .int 4]) none none]
  help := []
  notes := []

theorem Diagnostic.render_fails_iff_fatal :
    (Diagnostic.fatalSample.render (.mapping [(['s'], .other)]) none none (some 3)).outcome =
        .error (.severity ⟨.text "fatal"⟩) ∧
      Succeeds ({ Diagnostic.fatalSample with severity := .known .hint }.render (.mapping [(['s'], .other)])
        none none (some 3)).outcome := by
  have limits : WithinLimits none 3 Diagnostic.fatalSample.labels := by
    intro label mem p placed
    simp only [fatalSample, List.mem_cons, List.not_mem_nil, or_false] at mem
    rcases mem with rfl | rfl
    · cases placed
    · obtain rfl := Place.cells.inj (PlacedLabel.mk.inj (Except.ok.inj placed)).2
      refine ⟨?_, ?_, ?_⟩
      · show Numeral.Writable 10
        decide
      · show Numeral.Writable 1
        decide
      · intro count known
        cases known
  have spans : ∀ label ∈ Diagnostic.fatalSample.labels, Succeeds label.toSpan := by
    intro label mem
    simp only [fatalSample, List.mem_cons, List.not_mem_nil, or_false] at mem
    rcases mem with rfl | rfl
    · exact ⟨_, rfl⟩
    · exact ⟨_, rfl⟩
  have nonneg : ∀ n, some (3 : Int) = some n → 0 ≤ n := by simp
  constructor
  · refine (((render_fails_iff .fatalSample (.mapping [(['s'], .other)]) none none (some 3)).2.2.1 limits).1
      ⟨.text "fatal"⟩).2 ⟨nonneg, spans, rfl, ?_⟩
    intro named
    rcases named with ⟨severity, same⟩
    have same_text := Value.text.inj same
    cases severity <;> exact absurd same_text (by decide)
  · exact ((render_fails_iff { Diagnostic.fatalSample with severity := .known .hint }
      (.mapping [(['s'], .other)]) none none (some 3)).2.2.1 limits).2.2 ⟨nonneg, spans, trivial⟩

end Marginalia
