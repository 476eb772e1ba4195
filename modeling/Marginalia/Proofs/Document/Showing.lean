/-
Module: Marginalia.Proofs.Document.Showing
Purpose: What was read can be shown. The reports of a document have labels on spans and severities of their own,
  so that nothing is left to be refused when they are drawn: the one-line forms can always be had, and drawing
  in full fails at most on a numeral of thousands of digits or on a row beyond any memory.
Main exports: RenderFault.IsLimit, Diagnostic.succeeds_compact, Diagnostic.isLimit_of_render_eq_error,
  Document.succeeds_compactAll_of_parse, Document.isLimit_of_renderAll_eq_error,
  Document.succeeds_renderAll_of_withinLimits, Document.parsed_is_shown
-/

import Marginalia.Proofs.Document.Reading
import Marginalia.Proofs.Render.Batch
import Marginalia.Proofs.Render.Degradation

namespace Marginalia

open Render

/-- A fault that tells of a numeral or a row beyond the limits, and of nothing that was wrong with what was to be
    drawn. -/
def Render.RenderFault.IsLimit : RenderFault → Prop
  | .numeral _ | .size _ => True
  | .options _ | .span _ | .severity _ | .line _ => False

namespace Diagnostic

variable {d : Diagnostic} {sources : Lookup} {options : Option RenderOptions} {colors : Option Bool}
  {contextLines : Option Int}

/-- The one-line form needs nothing but a span for the first label. -/
theorem succeeds_compact (spans : ∀ label ∈ d.labels, Succeeds label.toSpan) : Succeeds d.compact := by
  rw [compact]
  split
  next => exact succeeds_pure _
  next label rest labels =>
    rw [succeeds_bind_and fun span => iff_true_intro (succeeds_pure _), and_true]
    apply spans
    rw [labels]
    exact List.mem_cons_self ..

/-- With possible options, labels on spans and a severity that has a name only the limits are left to fail on. -/
theorem isLimit_of_render_eq_error (nonneg : ∀ n, contextLines = some n → 0 ≤ n)
    (spans : ∀ label ∈ d.labels, Succeeds label.toSpan) (named : d.severity.IsNamed) {fault : RenderFault}
    (refused : (d.render sources options colors contextLines).outcome = .error fault) : fault.IsLimit := by
  rw [render_eq_error_iff, sections_eq_error_iff] at refused
  rcases refused with ⟨n, negative, given, -⟩ | ⟨-, ⟨cause, first, -⟩ | ⟨placed, -, checks⟩⟩
  · exact absurd (nonneg n given) (Int.not_le.2 negative)
  · exact absurd spans (exists_firstFault_iff.1 ⟨cause, first⟩)
  · rcases checks with ⟨cause, -, rfl⟩ | ⟨-, ⟨cause, unnamed, -⟩ | ⟨-, cause, -, rfl⟩⟩
    · trivial
    · rcases SeverityLike.succeeds_toSeverity.2 named with ⟨severity, known⟩
      rw [known] at unnamed
      cases unnamed
    · trivial

end Diagnostic

namespace Document

variable {document : Text} {doc : Value} {reports : List Report}

theorem spans_of_parse (parsed : parse document doc = .ok reports) {d : Diagnostic}
    (mem : d ∈ reports.map Report.toDiagnostic) : ∀ label ∈ d.labels, Succeeds label.toSpan := by
  rcases List.mem_map.1 mem with ⟨report, in_reports, rfl⟩
  intro label attached
  rcases exists_span_of_parse parsed in_reports attached with ⟨span, is_span⟩
  exact ⟨span, by rw [Label.toSpan, is_span, SpanLike.toSpan]⟩

theorem isNamed_of_mem {d : Diagnostic} (mem : d ∈ reports.map Report.toDiagnostic) : d.severity.IsNamed := by
  rcases List.mem_map.1 mem with ⟨report, -, rfl⟩
  trivial

/-- The one-line forms of what was read can always be had. -/
theorem succeeds_compactAll_of_parse (parsed : parse document doc = .ok reports) :
    Succeeds (Diagnostic.compactAll (reports.map Report.toDiagnostic)) := by
  rw [Diagnostic.succeeds_compactAll]
  intro d mem
  exact Diagnostic.succeeds_compact (spans_of_parse parsed mem)

variable {sources : Lookup} {options : Option RenderOptions} {colors : Option Bool} {contextLines : Option Int}

/-- Drawing what was read fails at most on the limits. -/
theorem isLimit_of_renderAll_eq_error (parsed : parse document doc = .ok reports)
    (nonneg : ∀ n, contextLines = some n → 0 ≤ n) {fault : RenderFault}
    (refused : (Diagnostic.renderAll (reports.map Report.toDiagnostic) sources options colors contextLines).outcome =
      .error fault) : fault.IsLimit := by
  rcases Diagnostic.renderAll_eq_error_iff.1 refused with ⟨before, d, after, split, -, fails⟩
  have mem : d ∈ reports.map Report.toDiagnostic := by
    rw [split]
    exact List.mem_append_right before (List.mem_cons_self ..)
  exact Diagnostic.isLimit_of_render_eq_error nonneg (spans_of_parse parsed mem) (isNamed_of_mem mem) fails

/-- Within the limits what was read is drawn. -/
theorem succeeds_renderAll_of_withinLimits (parsed : parse document doc = .ok reports)
    (nonneg : ∀ n, contextLines = some n → 0 ≤ n)
    (limits : ∀ report ∈ reports, WithinLimits (sources.find report.source).value
      (RenderOptions.contextInForce options contextLines) report.labels) :
    Succeeds (Diagnostic.renderAll (reports.map Report.toDiagnostic) sources options colors contextLines).outcome := by
  by_contra refused
  rcases not_succeeds_iff.1 refused with ⟨fault, refused⟩
  rw [Diagnostic.renderAll_eq_error_iff] at refused
  refine exists_firstFailure_iff.1 ⟨fault, refused⟩ fun d mem => ?_
  have spans := spans_of_parse parsed mem
  have named := isNamed_of_mem mem
  rcases List.mem_map.1 mem with ⟨report, in_reports, rfl⟩
  exact (Diagnostic.render_succeeds_iff_of_withinLimits (limits report in_reports)).2 ⟨nonneg, spans, named⟩

/-- Every document that is read can be shown, against whatever sources and under whatever options. Each label of
    its reports stands on a span already, one that meets the conditions of its constructor. The one-line forms
    can always be had. Drawing in full fails on nothing but the limits, and within the limits it gives a
    text. -/
theorem parsed_is_shown (document : Text) (doc : Value) {reports : List Report}
    (parsed : parse document doc = .ok reports) (sources : Lookup) (options : Option RenderOptions)
    (colors : Option Bool) (contextLines : Option Nat) :
    (∀ report ∈ reports, ∀ label ∈ report.labels,
      ∃ span, label.span = .span span ∧ label.toSpan = .ok span ∧ span.IsConstructed) ∧
    Succeeds (Diagnostic.compactAll (reports.map Report.toDiagnostic)) ∧
    (∀ fault, (Diagnostic.renderAll (reports.map Report.toDiagnostic) sources options colors
      (contextLines.map Int.ofNat)).outcome = .error fault → fault.IsLimit) ∧
    ((∀ report ∈ reports, WithinLimits (sources.find report.source).value
        (RenderOptions.contextInForce options (contextLines.map Int.ofNat)) report.labels) →
      Succeeds (Diagnostic.renderAll (reports.map Report.toDiagnostic) sources options colors
        (contextLines.map Int.ofNat)).outcome) := by
  have nonneg : ∀ n, contextLines.map Int.ofNat = some n → 0 ≤ n := by
    intro n given
    rcases Option.map_eq_some_iff.1 given with ⟨lines, -, rfl⟩
    exact Int.natCast_nonneg lines
  refine ⟨?_, succeeds_compactAll_of_parse parsed, fun fault refused => isLimit_of_renderAll_eq_error parsed nonneg
    refused, succeeds_renderAll_of_withinLimits parsed nonneg⟩
  intro report mem label attached
  rcases exists_span_of_parse parsed mem attached with ⟨span, is_span⟩
  exact ⟨span, is_span, by rw [Label.toSpan, is_span, SpanLike.toSpan], span.isConstructed⟩

end Document

/-- A document with one report, whose labels are a search and some octets. -/
def Value.documentSample : Value :=
  .list [.object [
    (Text.of "message", .text ['m']),
    (Text.of "labels", .list [
      .object [(Text.of "span", .object [(Text.of "search", .object [
        (Text.of "line", .int 3), (Text.of "pattern", .text ['e'])])])],
      .object [(Text.of "span", .object [(Text.of "byte", .list [.int 3, .int 4])])]])]]

/-- The report that the document holds. -/
def Report.documentSample : Report where
  message := ['m']
  severity := .error
  labels := [
    .primary (.span (.search ⟨3, ['e'], Cell.first.column, Cell.first.line, by decide, List.cons_ne_nil _ _,
      Cell.first.column_pos, Cell.first.line_pos⟩)) none none,
    .primary (.span (.octets ⟨3, 4, by decide⟩)) none none]

theorem Document.parsed_is_shown_two_labels :
    parse ['d'] .documentSample = .ok [.documentSample] ∧
      Succeeds (Diagnostic.compactAll [Report.documentSample.toDiagnostic]) ∧
      Succeeds (Diagnostic.renderAll [Report.documentSample.toDiagnostic] .nothing none none (some 3)).outcome := by
  have limits : WithinLimits none 3 Report.documentSample.labels := by
    intro label mem p placed
    simp only [Report.documentSample, List.mem_cons, List.not_mem_nil, or_false] at mem
    rcases mem with rfl | rfl
    · obtain rfl := Place.cells.inj (PlacedLabel.mk.inj (Except.ok.inj placed)).2
      refine ⟨?_, ?_, ?_⟩
      · show Numeral.Writable 6
        decide
      · show Numeral.Writable 1
        decide
      · intro count known
        cases known
    · cases placed
  have parsed : parse ['d'] .documentSample = .ok [.documentSample] := rfl
  obtain ⟨-, compact, -, drawn⟩ := Document.parsed_is_shown ['d'] .documentSample parsed .nothing none none (some 3)
  refine ⟨parsed, compact, drawn ?_⟩
  intro report mem
  rw [List.mem_singleton.1 mem]
  exact limits

end Marginalia
