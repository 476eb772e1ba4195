/-
Module: Marginalia.Proofs.Render.Batch
Purpose: Several diagnostics drawn together. Each is drawn as it would be on its own under the same options, and
  the first one that cannot be drawn ends it with its own fault. The texts stand in order with a blank line
  between them, and a summary follows behind another blank line if there is an error or a warning to count.
  The one-line forms are put together in the same way, without a summary.
Main exports: blankLine, withSummary, summaryRow_isSome_iff, Diagnostic.renderAll_eq_ok_iff,
  Diagnostic.renderAll_eq_error_iff, Diagnostic.succeeds_compactAll
-/

import Marginalia.Compact
import Marginalia.Proofs.Render.Placement

namespace Marginalia

open Render

namespace Render

/-!
### The summary
-/

/-- The end of a line and an empty line. -/
def blankLine : Text := [CodePoint.newline, CodePoint.newline]

/-- A text with a summary behind a blank line, if there is a summary. -/
def withSummary (body : Text) (summary : Option Text) : Text :=
  match summary with
  | none => body
  | some row => body ++ blankLine ++ row

theorem intercalate_append_toList {texts : List Text} (some_texts : texts ≠ []) (summary : Option Text) :
    blankLine.intercalate (texts ++ summary.toList) = withSummary (blankLine.intercalate texts) summary := by
  cases summary with
  | none => rw [Option.toList_none, List.append_nil, withSummary]
  | some row =>
      rw [Option.toList_some, withSummary]
      induction texts with
      | nil => exact absurd rfl some_texts
      | cons first rest ih =>
          rcases rest with - | ⟨second, rest⟩
          · simp [List.intercalate_cons_of_ne_nil]
          · have behind := ih (List.cons_ne_nil second rest)
            rw [List.cons_append, List.intercalate_cons_of_ne_nil (by simp), behind,
              List.intercalate_cons_of_ne_nil (List.cons_ne_nil second rest)]
            simp only [List.append_assoc]

/-- There is a summary exactly if there is something to count in it. -/
theorem summaryRow_isSome_iff (p : Palette) (severities : List Severity) :
    (summaryRow p severities).isSome ↔ .error ∈ severities ∨ .warning ∈ severities := by
  simp only [← List.count_pos_iff, summaryRow]
  rcases Nat.eq_zero_or_pos (severities.count .error) with no_error | some_error
  · rcases Nat.eq_zero_or_pos (severities.count .warning) with no_warning | some_warning
    · simp [no_error, no_warning]
    · simp [no_error, some_warning, some_warning.ne']
  · simp [some_error, some_error.ne']

end Render

namespace Diagnostic

variable {ds : List Diagnostic} {sources : Lookup} {options : Option RenderOptions} {colors : Option Bool}
  {contextLines : Option Int}

/-!
### Lists of diagnostics
-/

theorem outcome_renderEach (inForce : RenderOptions) :
    (renderEach sources inForce ds).outcome =
      ds.mapM fun d => (d.render sources (some inForce) none none).outcome := by
  induction ds with
  | nil => rfl
  | cons d rest ih =>
      rw [renderEach, List.mapM_cons, ← ih]
      simp only [Checked.outcome_bind, Checked.outcome_pure]
      rfl

theorem severities_eq_mapM (ds : List Diagnostic) : severities ds = ds.mapM fun d => d.severity.toSeverity := by
  induction ds with
  | nil => rfl
  | cons d rest ih =>
      rw [severities, List.mapM_cons, ih]

theorem compactEach_eq_mapM (ds : List Diagnostic) : compactEach ds = ds.mapM compact := by
  induction ds with
  | nil => rfl
  | cons d rest ih =>
      rw [compactEach, List.mapM_cons, ih]

/-!
### One diagnostic
-/

theorem colors_of_merged {inForce : RenderOptions} (accepted : merged options colors contextLines = .ok inForce) :
    inForce.colors = colors.getD (options.getD {}).colors := by
  rw [merged, RenderOptions.override, RenderOptions.make] at accepted
  split at accepted
  next => cases accepted
  next =>
    cases accepted
    rfl

/-- Options that are settled beforehand are the ones in force. -/
theorem render_merged (d : Diagnostic) {inForce : RenderOptions}
    (accepted : merged options colors contextLines = .ok inForce) :
    (d.render sources (some inForce) none none).outcome =
      (d.render sources options colors contextLines).outcome := by
  rw [d.render_of_merged sources accepted, d.render_of_merged sources (merged_self inForce)]

/-- What is drawn has a severity. -/
theorem exists_severity_of_render {d : Diagnostic} {text : Text}
    (drawn : (d.render sources options colors contextLines).outcome = .ok text) :
    Succeeds d.severity.toSeverity := by
  rcases render_eq_ok_iff.1 drawn with ⟨-, sections, parts, -⟩
  rcases sections_eq_ok_iff.1 parts with ⟨-, -, severity, -, -, -, known, -⟩
  exact ⟨severity, known⟩

/-- Diagnostics that are drawn one by one have severities. -/
theorem exists_severities_of_renders {texts : List Text} (drawn :
    List.Forall₂ (fun d text => (d.render sources options colors contextLines).outcome = .ok text) ds texts) :
    ∃ severities, List.Forall₂ (fun d severity => d.severity.toSeverity = .ok severity) ds severities := by
  have known : Succeeds (ds.mapM fun d => d.severity.toSeverity) := by
    rw [succeeds_mapM]
    intro d mem
    rcases succeeds_mapM.1 ⟨texts, mapM_eq_ok_iff.2 drawn⟩ d mem with ⟨text, shown⟩
    exact exists_severity_of_render shown
  rcases known with ⟨severities, read⟩
  exact ⟨severities, mapM_eq_ok_iff.1 read⟩

/-!
### Diagnostics drawn together
-/

/-- Diagnostics drawn together are drawn one by one under the same options, then their severities are read for
    the summary. -/
theorem outcome_renderAll {inForce : RenderOptions} (some_ds : ds ≠ [])
    (accepted : merged options colors contextLines = .ok inForce) :
    (renderAll ds sources options colors contextLines).outcome =
      (ds.mapM fun d => (d.render sources options colors contextLines).outcome) >>= fun texts =>
        (severities ds).mapError .severity >>= fun severities =>
          .ok (withSummary (blankLine.intercalate texts)
            (summaryRow (.ofColors (colors.getD (options.getD {}).colors)) severities)) := by
  have chain : (renderAll ds sources options colors contextLines).outcome =
      (renderEach sources inForce ds).outcome >>= fun texts =>
        (severities ds).mapError .severity >>= fun severities =>
          .ok (blankLine.intercalate (texts ++ (summaryRow (.ofColors inForce.colors) severities).toList)) := by
    rcases ds with - | ⟨d, rest⟩
    · exact absurd rfl some_ds
    · simp only [renderAll, Checked.outcome_bind, Checked.outcome_ofExcept, Checked.outcome_pure, accepted]
      rfl
  rw [chain, outcome_renderEach, colors_of_merged accepted]
  simp only [render_merged _ accepted]
  refine bind_congr_of_ok fun texts drawn => ?_
  have some_texts : texts ≠ [] := by
    rintro rfl
    exact some_ds (List.forall₂_nil_right_iff.1 (mapM_eq_ok_iff.1 drawn))
  simp only [intercalate_append_toList some_texts]

/-- Diagnostics are drawn together exactly if each is drawn on its own; their texts stand in order, with a
    blank line between them and before the summary. -/
theorem renderAll_eq_ok_iff (some_ds : ds ≠ []) {text : Text} :
    (renderAll ds sources options colors contextLines).outcome = .ok text ↔
      ∃ texts severities,
        List.Forall₂ (fun d text => (d.render sources options colors contextLines).outcome = .ok text) ds texts ∧
        List.Forall₂ (fun d severity => d.severity.toSeverity = .ok severity) ds severities ∧
        text = withSummary (blankLine.intercalate texts)
          (summaryRow (.ofColors (colors.getD (options.getD {}).colors)) severities) := by
  cases accepted : merged options colors contextLines with
  | error fault =>
      rcases ds with - | ⟨d, rest⟩
      · exact absurd rfl some_ds
      refine iff_of_false ?_ ?_
      · simp only [renderAll, Checked.outcome_bind, Checked.outcome_ofExcept, accepted]
        intro drawn
        cases drawn
      · intro parts
        rcases parts with ⟨texts, severities, drawn, -⟩
        rcases drawn with - | ⟨first, -⟩
        rw [d.render_of_merged_error sources accepted] at first
        cases first
  | ok inForce =>
      rw [outcome_renderAll some_ds accepted]
      simp only [bind_eq_ok_iff, mapError_eq_ok_iff, severities_eq_mapM, mapM_eq_ok_iff, Except.ok.injEq]
      constructor
      · intro steps
        rcases steps with ⟨texts, drawn, severities, known, rfl⟩
        exact ⟨texts, severities, drawn, known, rfl⟩
      · intro parts
        rcases parts with ⟨texts, severities, drawn, known, rfl⟩
        exact ⟨texts, drawn, severities, known, rfl⟩

/-- Diagnostics drawn together fail exactly as the first of them that fails on its own. -/
theorem renderAll_eq_error_iff {fault : RenderFault} :
    (renderAll ds sources options colors contextLines).outcome = .error fault ↔
      FirstFailure (fun d => (d.render sources options colors contextLines).outcome) ds fault := by
  rcases ds with - | ⟨d, rest⟩
  · exact iff_of_false (by simp [renderAll]) not_firstFailure_nil
  cases accepted : merged options colors contextLines with
  | error cause =>
      have refused := d.render_of_merged_error sources accepted
      have all_refused : (renderAll (d :: rest) sources options colors contextLines).outcome =
          .error (.options cause) := by
        simp only [renderAll, Checked.outcome_bind, Checked.outcome_ofExcept, accepted]
        rfl
      rw [firstFailure_cons_iff, refused, all_refused]
      simp
  | ok inForce =>
      rw [outcome_renderAll (List.cons_ne_nil d rest) accepted, bind_eq_error_iff, mapM_eq_error_iff]
      refine or_iff_left ?_
      -- Whatever is drawn has a severity, so that reading the severities for the summary cannot fail.
      intro unnamed
      rcases unnamed with ⟨texts, drawn, refused⟩
      rcases exists_severities_of_renders (mapM_eq_ok_iff.1 drawn) with ⟨severities, known⟩
      rw [severities_eq_mapM, mapM_eq_ok_iff.2 known] at refused
      cases refused

/-- One-line forms are put together exactly if each of them can be had. -/
theorem succeeds_compactAll : Succeeds (compactAll ds) ↔ ∀ d ∈ ds, Succeeds d.compact := by
  rw [compactAll, succeeds_bind_and fun _ => iff_true_intro (succeeds_pure _), and_true, compactEach_eq_mapM,
    succeeds_mapM]

end Diagnostic

end Marginalia
