/-
Module: Marginalia.Proofs.Render.Summary
Purpose: The count at the end of several diagnostics. Its wording is told by rules of its own: one thing is in the
  singular, no things are not mentioned, and there is no sentence if there is nothing to mention. A sentence tells
  its two numbers back, so that it is exact. What is counted is how many diagnostics are errors and how many are
  warnings, whichever way their severity is given and in whatever order they stand.
Main exports: Phrase, Tally, Tally.counts, SeverityLike.names, SeverityLike.toSeverity_eq_ok_iff,
  summaryRow_of_counts, Diagnostic.renderAll_counts
-/

import Mathlib.Data.List.Perm.Basic
import Marginalia.Proofs.Render.Batch
import Marginalia.Proofs.Text.Numerals
import Marginalia.Proofs.Text.Renditions

namespace Marginalia

open Render

namespace Render

/-!
### The wording of a count
-/

/-- A number of things in words: one of them is in the singular. -/
inductive Phrase (noun : Text) : Nat → Text → Prop where
  | one : Phrase noun 1 (Text.of "1 " ++ noun)
  | many {n : Nat} (several : n ≠ 1) : Phrase noun n (Text.ofNat n ++ Text.of " " ++ noun ++ Text.of "s")

/-- The sentence that counts errors and warnings: what there is none of is not mentioned. -/
inductive Tally : Nat → Nat → Text → Prop where
  | errors {errors : Nat} {t : Text} (some_error : 0 < errors) (told : Phrase "error" errors t) :
      Tally errors 0 (t ++ Text.of " emitted")
  | warnings {warnings : Nat} {t : Text} (some_warning : 0 < warnings) (told : Phrase "warning" warnings t) :
      Tally 0 warnings (t ++ Text.of " emitted")
  | both {errors warnings : Nat} {t u : Text} (some_error : 0 < errors) (some_warning : 0 < warnings)
      (told : Phrase "error" errors t) (also_told : Phrase "warning" warnings u) :
      Tally errors warnings (t ++ Text.of ", " ++ u ++ Text.of " emitted")

variable {noun other t u x y : Text} {m n : Nat}

theorem counted_one (noun : Text) : counted 1 noun = Text.of "1 " ++ noun := by
  have numeral : Text.of "1 " = Text.ofNat 1 ++ [CodePoint.blank] := by decide
  rw [counted, if_pos rfl, List.append_nil, ← numeral]

theorem counted_of_ne_one (noun : Text) (several : n ≠ 1) :
    counted n noun = Text.ofNat n ++ Text.of " " ++ noun ++ Text.of "s" := by
  have blank : Text.of " " = [CodePoint.blank] := by decide
  rw [counted, if_neg several, ← blank]

theorem phrase_counted (noun : Text) (n : Nat) : Phrase noun n (counted n noun) := by
  by_cases single : n = 1
  · subst single
    rw [counted_one]
    exact .one
  · rw [counted_of_ne_one noun single]
    exact .many single

theorem Phrase.eq_counted (told : Phrase noun n t) : t = counted n noun := by
  cases told with
  | one => rw [counted_one]
  | many several => rw [counted_of_ne_one noun several]

/-- A numeral ends at the blank behind it. -/
theorem ofNat_append_blank_inj (same : Text.ofNat m ++ CodePoint.blank :: x = Text.ofNat n ++ CodePoint.blank :: y) :
    m = n ∧ x = y := by
  have no_parameter : ∀ rest : Text, ∀ c ∈ (CodePoint.blank :: rest).head?, Text.isParameter c = false := by
    intro rest c head
    cases head
    decide
  have numerals := congrArg (List.takeWhile Text.isParameter) same
  rw [takeWhile_append_of_stops (fun c => Text.isParameter_of_mem_ofNat) (no_parameter x),
    takeWhile_append_of_stops (fun c => Text.isParameter_of_mem_ofNat) (no_parameter y)] at numerals
  rw [numerals, List.append_cancel_left_eq, List.cons_inj_right] at same
  exact ⟨Text.ofNat_injective numerals, same⟩

/-- Behind its number a phrase tells what it counts. -/
theorem Phrase.number_eq (told : Phrase noun m t) (also : Phrase other n u) (same : t ++ x = u ++ y) :
    m = n ∧ ∃ behind later, noun ++ behind = other ++ later := by
  rw [told.eq_counted, also.eq_counted, counted, counted] at same
  simp only [List.append_assoc, List.singleton_append] at same
  rcases ofNat_append_blank_inj same with ⟨number, behind⟩
  exact ⟨number, _, _, behind⟩

/-- A phrase about some things ends where it should. -/
theorem Phrase.append_inj (told : Phrase noun m t) (also : Phrase noun n u) (same : t ++ x = u ++ y) :
    m = n ∧ x = y := by
  obtain ⟨rfl, -⟩ := told.number_eq also same
  rw [told.eq_counted, also.eq_counted, List.append_cancel_left_eq] at same
  exact ⟨rfl, same⟩

theorem Phrase.error_ne_warning (told : Phrase "error" m t) (also : Phrase "warning" n u) : t ++ x ≠ u ++ y := by
  intro same
  rcases told.number_eq also same with ⟨-, behind, later, nouns⟩
  have letters : CodePoint.ofChar 'e' = CodePoint.ofChar 'w' := (List.cons.inj nouns).1
  exact absurd letters (by decide)

/-- A sentence tells the numbers that it counts. -/
theorem Tally.counts {errors warnings others further : Nat} {sentence : Text} (tally : Tally errors warnings sentence)
    (also : Tally others further sentence) : errors = others ∧ warnings = further := by
  have no_comma : ∀ {y : Text}, Text.of " emitted" ≠ Text.of ", " ++ y := by
    intro y same
    have marks : CodePoint.blank = CodePoint.ofChar ',' := (List.cons.inj same).1
    exact absurd marks (by decide)
  generalize spelled : sentence = same at also
  cases tally with
  | errors _ told =>
      cases also with
      | errors _ again => exact ⟨(told.append_inj again spelled).1, rfl⟩
      | warnings _ again => exact absurd spelled (told.error_ne_warning again)
      | both _ _ again =>
          rw [List.append_assoc, List.append_assoc] at spelled
          exact absurd (told.append_inj again spelled).2 no_comma
  | warnings _ told =>
      cases also with
      | errors _ again => exact absurd spelled.symm (again.error_ne_warning told)
      | warnings _ again => exact ⟨rfl, (told.append_inj again spelled).1⟩
      | both _ _ again =>
          rw [List.append_assoc, List.append_assoc] at spelled
          exact absurd spelled.symm (again.error_ne_warning told)
  | both _ _ told also_told =>
      rw [List.append_assoc, List.append_assoc] at spelled
      cases also with
      | errors _ again =>
          exact absurd (again.append_inj told spelled.symm).2 no_comma
      | warnings _ again => exact absurd spelled (told.error_ne_warning again)
      | both _ _ again also_again =>
          rw [List.append_assoc, List.append_assoc] at spelled
          rcases told.append_inj again spelled with ⟨same_errors, behind⟩
          rw [List.append_cancel_left_eq] at behind
          exact ⟨same_errors, (also_told.append_inj also_again behind).1⟩

/-- The summary is the sentence that counts, in bold. -/
theorem summaryRow_of_counts (p : Palette) (severities : List Severity) {row : Text}
    (summary : summaryRow p severities = some row) : ∃ sentence, row = p.styled p.bold sentence ∧
      Tally (severities.count .error) (severities.count .warning) sentence := by
  rw [summaryRow] at summary
  rcases Nat.eq_zero_or_pos (severities.count .error) with no_error | some_error
  · rw [no_error]
    rcases Nat.eq_zero_or_pos (severities.count .warning) with no_warning | some_warning
    · simp [no_error, no_warning] at summary
    · simp only [no_error, some_warning.ne', if_true, if_false, List.nil_append, List.cons_ne_nil, Option.some.injEq,
        List.intercalate_singleton] at summary
      exact ⟨_, summary.symm, .warnings some_warning (phrase_counted ..)⟩
  · rcases Nat.eq_zero_or_pos (severities.count .warning) with no_warning | some_warning
    · rw [no_warning]
      simp only [some_error.ne', no_warning, if_true, if_false, List.append_nil, List.cons_ne_nil, Option.some.injEq,
        List.intercalate_singleton] at summary
      exact ⟨_, summary.symm, .errors some_error (phrase_counted ..)⟩
    · simp only [some_error.ne', some_warning.ne', if_false, List.singleton_append, List.cons_ne_nil,
        Option.some.injEq, List.intercalate_cons_cons, List.intercalate_singleton] at summary
      exact ⟨_, summary.symm, .both some_error some_warning (phrase_counted ..) (phrase_counted ..)⟩

/-- A summary depends on nothing but the counts. -/
theorem summaryRow_congr (p : Palette) {severities others : List Severity}
    (same : ∀ severity, severities.count severity = others.count severity) :
    summaryRow p severities = summaryRow p others := by
  rw [summaryRow, summaryRow, same, same]

end Render

/-!
### What is counted
-/

/-- Whether a severity, known or given as a text, is a certain one. -/
def SeverityLike.names (severity : Severity) : SeverityLike → Bool
  | .known s => s = severity
  | .given (.text t) => t = severity.name
  | .given _ => false

theorem Severity.ofValue?_eq_some_iff {v : Value} {severity : Severity} :
    Severity.ofValue? v = some severity ↔ v = .text severity.name := by
  have own_name : Severity.ofValue? (.text severity.name) = some severity := by
    cases severity <;> decide
  constructor
  · intro found
    cases v with
    | text t =>
        have named := List.find?_some found
        rw [of_decide_eq_true named]
    | null | bool | int | float | list | object => cases found
  · rintro rfl
    exact own_name

theorem SeverityLike.toSeverity_eq_ok_iff {s : SeverityLike} {severity : Severity} :
    s.toSeverity = .ok severity ↔ s.names severity := by
  cases s with
  | known s => simp [toSeverity, names]
  | given v =>
      have by_name : SeverityLike.names severity (.given v) ↔ v = .text severity.name := by
        cases v <;> simp [names]
      rw [by_name, ← Severity.ofValue?_eq_some_iff, toSeverity]
      cases Severity.ofValue? v <;> simp

namespace Diagnostic

/-- How many diagnostics are of a severity. -/
def countOf (severity : Severity) (ds : List Diagnostic) : Nat := ds.countP fun d => d.severity.names severity

variable {ds : List Diagnostic}

theorem count_eq_countOf {severities : List Severity}
    (known : List.Forall₂ (fun d severity => d.severity.toSeverity = .ok severity) ds severities)
    (severity : Severity) : severities.count severity = countOf severity ds := by
  induction known with
  | nil => rfl
  | @cons d s ds severities here _ ih =>
      have alike : (s == severity) = d.severity.names severity := by
        rw [Bool.eq_iff_iff, beq_iff_eq, ← SeverityLike.toSeverity_eq_ok_iff, here, Except.ok.injEq]
      rw [List.count_cons, countOf, List.countP_cons, ih, alike, countOf]

/-- Diagnostics drawn together are their blocks and an exact count, under all options and whatever overrides them.
    Let each of some diagnostics be drawn on its own. Drawn together they are these texts in order with a blank line
    between them, and exactly if there is an error or a warning among them, a summary behind another blank line. The
    summary is the sentence that counts the errors and the warnings, in the style of the palette, and it tells these
    two numbers and no others. In every other order the texts change places and the summary stays. Of no diagnostics
    nothing is drawn, and nothing is noticed or refused. -/
theorem renderAll_counts (sources : Lookup) (options : Option RenderOptions) (colors : Option Bool)
    (contextLines : Option Int) :
    (∀ ds texts, ds ≠ [] →
      List.Forall₂ (fun d text => (d.render sources options colors contextLines).outcome = .ok text) ds texts →
      ∃ summary : Option Text,
        (renderAll ds sources options colors contextLines).outcome =
          .ok (withSummary (blankLine.intercalate texts) summary) ∧
        (summary.isSome ↔ ∃ d ∈ ds, d.severity.names .error ∨ d.severity.names .warning) ∧
        (∀ row ∈ summary, ∃ sentence,
          row = (Palette.ofColors (colors.getD (options.getD {}).colors)).styled
            (Palette.ofColors (colors.getD (options.getD {}).colors)).bold sentence ∧
          Tally (countOf .error ds) (countOf .warning ds) sentence ∧
          ∀ errors warnings, Tally errors warnings sentence →
            errors = countOf .error ds ∧ warnings = countOf .warning ds) ∧
        ∀ others, others.Perm ds → ∃ other_texts, other_texts.Perm texts ∧
          List.Forall₂ (fun d text => (d.render sources options colors contextLines).outcome = .ok text) others
            other_texts ∧
          (renderAll others sources options colors contextLines).outcome =
            .ok (withSummary (blankLine.intercalate other_texts) summary)) ∧
    renderAll [] sources options colors contextLines = pure [] := by
  refine ⟨fun ds texts some_ds drawn => ?_, rfl⟩
  rcases exists_severities_of_renders drawn with ⟨severities, known⟩
  refine ⟨_, (renderAll_eq_ok_iff some_ds).2 ⟨texts, severities, drawn, known, rfl⟩, ?_, ?_, ?_⟩
  · rw [summaryRow_isSome_iff, mem_values_iff known, mem_values_iff known, ← exists_or]
    simp only [SeverityLike.toSeverity_eq_ok_iff, and_or_left]
  · intro row summary
    rcases summaryRow_of_counts _ severities summary with ⟨sentence, rfl, tally⟩
    rw [count_eq_countOf known, count_eq_countOf known] at tally
    exact ⟨sentence, rfl, tally, fun errors warnings also => also.counts tally⟩
  · intro others perm
    have some_others : others ≠ [] := fun none => some_ds (List.nil_perm.1 (none ▸ perm))
    rcases List.perm_comp_forall₂ perm drawn with ⟨other_texts, other_drawn, same_texts⟩
    rcases exists_severities_of_renders other_drawn with ⟨other_severities, also_known⟩
    refine ⟨other_texts, same_texts, other_drawn, (renderAll_eq_ok_iff some_others).2
      ⟨other_texts, other_severities, other_drawn, also_known, ?_⟩⟩
    rw [summaryRow_congr _ fun severity => ?_]
    rw [count_eq_countOf known, count_eq_countOf also_known, countOf, countOf, perm.countP_eq]

/-- A bare diagnostic of some severity. -/
def countedSample (severity : SeverityLike) : Diagnostic := ⟨['m'], severity, none, none, [], [], []⟩

/-- An error that is given by its name stands between two warnings. Drawn without colours and without lines around
    labels they are counted, and when the error comes first the count stays. -/
theorem renderAll_counts_mixed : ∃ row texts, row = Text.of "1 error, 2 warnings emitted" ∧
    (renderAll [countedSample (.known .warning), countedSample (.given (.text "error")),
        countedSample (.given (.text "warning"))] .nothing (some ⟨true, 2⟩) (some false) (some 0)).outcome =
      .ok (withSummary (blankLine.intercalate [Text.of "warning: m", Text.of "error: m", Text.of "warning: m"])
        (some row)) ∧
    (renderAll [countedSample (.given (.text "error")), countedSample (.known .warning),
        countedSample (.given (.text "warning"))] .nothing (some ⟨true, 2⟩) (some false) (some 0)).outcome =
      .ok (withSummary (blankLine.intercalate texts) (some row)) := by
  have drawn : List.Forall₂
      (fun d text => (d.render .nothing (some ⟨true, 2⟩) (some false) (some 0)).outcome = .ok text)
      [countedSample (.known .warning), countedSample (.given (.text "error")),
        countedSample (.given (.text "warning"))]
      [Text.of "warning: m", Text.of "error: m", Text.of "warning: m"] :=
    .cons rfl (.cons rfl (.cons rfl .nil))
  obtain ⟨summary, together, some_iff, told, orders⟩ :=
    (renderAll_counts .nothing (some ⟨true, 2⟩) (some false) (some 0)).1 _ _ (List.cons_ne_nil _ _) drawn
  rcases Option.isSome_iff_exists.1 (some_iff.2 ⟨_, List.mem_cons_self .., .inr rfl⟩) with ⟨row, rfl⟩
  rcases told row rfl with ⟨sentence, in_style, tally, -⟩
  rcases orders _ (List.Perm.swap ..) with ⟨texts, -, -, reordered⟩
  refine ⟨row, texts, ?_, together, reordered⟩
  cases tally with
  | both _ _ errors warnings =>
      rw [in_style, errors.eq_counted, warnings.eq_counted]
      decide

end Diagnostic

end Marginalia
