/-
Module: Marginalia.Proofs.CommandLine.Escapes
Purpose: Bad input to the command. What cannot be read is refused with a message, and what is read is shown with a
  status of zero or one. The faults that the command does not catch are told one by one: those of loading, an option
  that was used without its value, drawings beyond the limits, and a console that is not made or does not print.
  Nothing else ends a run.
Main exports: CommandOutcome.IsReported, CommandLine.Escape, CommandLine.run_eq_error_iff, CommandLine.IsOrderly,
  CommandLine.ConsoleServes, CommandLine.run_reports_bad_input, CommandLine.run_overlong
-/

import Marginalia.Proofs.CommandLine.Loading
import Marginalia.Proofs.Document.Showing
import Marginalia.Proofs.Source.Stored
import Marginalia.Terminal

namespace Marginalia

open Render

variable {view : FileView} {env : Environment} {made : Except ForeignFault Console} {console : Console}
  {given : List Text} {o : CommandOptions} {reports : List Report} {sources : List (Text × Source)}
  {document : Text} {doc : Value}

namespace CommandLine

/-!
### Drawing
-/

/-- How many lines are asked for around a label, as far as the arguments alone say it. -/
def linesInForce (o : CommandOptions) : Nat := (o.contextLines.join.getD ({} : RenderOptions).contextLines).toNat

/-- With nothing set in the environment the options of drawing are those of the arguments. -/
theorem exists_renderOptions (unset : env.contextLines = none)
    (nonneg : ¬ o.contextLines.join.any (· < 0)) (console : Console) :
    ∃ options, renderOptions o env console = .ok options ∧ options.contextLines = linesInForce o := by
  have defaults : RenderOptions.ofEnvironment env = .ok ⟨env.noColor.isNone, 2⟩ := by
    rw [RenderOptions.ofEnvironment, unset]
    rfl
  have accepted : ¬ o.contextLines.join.getD 2 < 0 := by
    cases given : o.contextLines.join with
    | none => decide
    | some n => simpa [given] using nonneg
  rw [renderOptions, defaults]
  show ∃ options, RenderOptions.make _ (o.contextLines.join.getD 2) = .ok options ∧ _
  rw [RenderOptions.make, if_neg accepted]
  exact ⟨_, rfl, rfl⟩

/-- Reports from a document are drawn, unless drawing them in full meets the limits. -/
theorem draw_eq_error_iff {fault : CommandFault} (unset : env.contextLines = none)
    (nonneg : ¬ o.contextLines.join.any (· < 0)) (parsed : Document.parse document doc = .ok reports) :
    draw o env console reports sources = .error fault ↔
      o.compact = false ∧ ∃ options cause, renderOptions o env console = .ok options ∧
        (Diagnostic.renderAll (reports.map Report.toDiagnostic) (lookupOf sources) (some options) none none).outcome =
          .error cause ∧ cause.IsLimit ∧ fault = .render cause := by
  rw [draw]
  cases compact : o.compact with
  | true =>
      rcases Document.succeeds_compactAll_of_parse parsed with ⟨text, drawn⟩
      simp [drawn]
  | false =>
      rcases exists_renderOptions unset nonneg console with ⟨options, settled, -⟩
      simp only [Bool.false_eq_true, if_false, settled, Except.ok.injEq, true_and]
      constructor
      · intro ended
        split at ended
        next => cases ended
        next cause refused =>
          cases ended
          exact ⟨options, cause, rfl, refused, Document.isLimit_of_renderAll_eq_error parsed (by simp) refused, rfl⟩
      · intro reasons
        rcases reasons with ⟨_, cause, rfl, refused, -, rfl⟩
        rw [refused]

/-- Within the limits reports from a document are drawn. -/
theorem succeeds_draw (console : Console) (unset : env.contextLines = none)
    (nonneg : ¬ o.contextLines.join.any (· < 0)) (parsed : Document.parse document doc = .ok reports)
    (drawable : o.compact = false → ∀ report ∈ reports,
      WithinLimits ((lookupOf sources).find report.source).value (linesInForce o) report.labels) :
    Succeeds (draw o env console reports sources) := by
  by_contra refused
  rcases not_succeeds_iff.1 refused with ⟨fault, refused⟩
  rcases (draw_eq_error_iff unset nonneg parsed).1 refused with ⟨in_full, options, cause, settled, failed, -⟩
  rcases exists_renderOptions unset nonneg console with ⟨same, also_settled, lines⟩
  obtain rfl : options = same := Except.ok.inj (settled.symm.trans also_settled)
  have limits : ∀ report ∈ reports, WithinLimits ((lookupOf sources).find report.source).value
      (RenderOptions.contextInForce (some options) none) report.labels := by
    intro report mem
    show WithinLimits _ options.contextLines _
    rw [lines]
    exact drawable in_full report mem
  have drawn : Succeeds (Diagnostic.renderAll (reports.map Report.toDiagnostic) (lookupOf sources) (some options)
      none none).outcome := Document.succeeds_renderAll_of_withinLimits parsed (by simp) limits
  rw [failed] at drawn
  exact not_succeeds_error _ drawn

end CommandLine

/-!
### The command
-/

/-- How a run ends that has dealt with its input: refused with a message, which is a status of two, or finished with
    a status of zero or one. -/
def CommandOutcome.IsReported : CommandOutcome → Prop
  | .finished status _ _ => status = 0 ∨ status = 1
  | .refused _ => True
  | .help => False

namespace CommandLine

/-- What ends a run without a message and without a status. -/
inductive Escape (view : FileView) (env : Environment) (made : Except ForeignFault Console) (o : CommandOptions) :
    CommandFault → Prop where
  | contextValue (valueless : o.contextLines = some none) : Escape view env made o .noContextLines
  | making {fault : ForeignFault} (valued : o.contextLines ≠ some none) (nonneg : ¬ o.contextLines.join.any (· < 0))
      (unmade : made = .error fault) : Escape view env made o (.console fault)
  | loading {console : Console} {fault : CommandFault} (valued : o.contextLines ≠ some none)
      (nonneg : ¬ o.contextLines.join.any (· < 0)) (is_made : made = .ok console) (escape : LoadEscape view o fault) :
      Escape view env made o fault
  | drawing {console : Console} {reports : List Report} {sources : List (Text × Source)} {options : RenderOptions}
      {fault : RenderFault} (valued : o.contextLines ≠ some none) (nonneg : ¬ o.contextLines.join.any (· < 0))
      (is_made : made = .ok console) (loaded : load view o = .ok (.ok (reports, sources))) (in_full : o.compact = false)
      (settled : renderOptions o env console = .ok options)
      (refused : (Diagnostic.renderAll (reports.map Report.toDiagnostic) (lookupOf sources) (some options) none
        none).outcome = .error fault)
      (limit : fault.IsLimit) : Escape view env made o (.render fault)
  | printing {console : Console} {reports : List Report} {sources : List (Text × Source)} {text : Text}
      {notices : List Notice} {fault : ForeignFault} (valued : o.contextLines ≠ some none)
      (nonneg : ¬ o.contextLines.join.any (· < 0)) (is_made : made = .ok console)
      (loaded : load view o = .ok (.ok (reports, sources)))
      (drawn : draw o env console reports sources = .ok (text, notices)) (something : text ≠ [])
      (unprinted : console.print text = .error fault) : Escape view env made o (.console fault)

/-- What keeps a run from ending without a message: options with their values, names that files can have, no more
    digits next to each other than an integer may have, and reports that can be drawn within the limits. -/
structure IsOrderly (view : FileView) (o : CommandOptions) : Prop where
  lines_valued : o.contextLines ≠ some none
  document_named : Succeeds (FilePath.octets (FilePath.parse o.document).text)
  sources_named : ∀ use ∈ o.sources, ∃ name path, use = some (name, path) ∧
    Succeeds (FilePath.octets (FilePath.parse path).text)
  short_numerals : ∀ text count, view.readText (FilePath.parse o.document) = .ok text →
    Json.DigitRun text.unifyLineEnds count → count ≤ Numeral.digitLimit
  drawable : ∀ reports sources, load view o = .ok (.ok (reports, sources)) → o.compact = false →
    ∀ report ∈ reports, WithinLimits ((lookupOf sources).find report.source).value (linesInForce o) report.labels

/-- What a run relies on in its console: that it is made, and that it prints what is drawn of the reports. -/
structure ConsoleServes (view : FileView) (env : Environment) (made : Except ForeignFault Console)
    (o : CommandOptions) : Prop where
  is_made : Succeeds made
  prints : ∀ console reports sources text notices, made = .ok console → load view o = .ok (.ok (reports, sources)) →
    draw o env console reports sources = .ok (text, notices) → text ≠ [] → Succeeds (console.print text)

theorem Escape.of_run (accepted : CommandOptions.ofArguments given = .ok o) (no_help : o.help = false)
    (unset : env.contextLines = none) {fault : CommandFault} (ended : run view env made given = .error fault) :
    Escape view env made o fault := by
  rw [run, accepted] at ended
  simp only [no_help, Bool.false_eq_true, if_false] at ended
  split at ended
  next valueless =>
    cases ended
    exact .contextValue valueless
  next valued =>
    split at ended
    next => cases ended
    next nonneg =>
      split at ended
      next cause =>
        cases ended
        exact .making valued nonneg rfl
      next console =>
        split at ended
        next cause unloaded =>
          cases ended
          exact .loading valued nonneg rfl (load_eq_error_iff.1 unloaded)
        next => cases ended
        next reports sources loaded =>
          split at ended
          next cause undrawn =>
            cases ended
            rcases exists_parse_of_load loaded with ⟨doc, parsed⟩
            rcases (draw_eq_error_iff unset nonneg parsed).1 undrawn with
              ⟨in_full, options, cause, settled, refused, limit, rfl⟩
            exact .drawing valued nonneg rfl loaded in_full settled refused limit
          next text notices drawn =>
            split at ended
            next cause unshown =>
              cases ended
              rcases Console.shown_eq_error_iff.1 unshown with ⟨something, unprinted⟩
              exact .printing valued nonneg rfl loaded drawn something unprinted
            next => cases ended

theorem Escape.run_eq (accepted : CommandOptions.ofArguments given = .ok o) (no_help : o.help = false)
    (unset : env.contextLines = none) {fault : CommandFault} (escape : Escape view env made o fault) :
    run view env made given = .error fault := by
  cases escape with
  | contextValue valueless => simp [run, accepted, no_help, valueless]
  | making valued nonneg unmade => simp [run, accepted, no_help, valued, nonneg, unmade]
  | loading valued nonneg is_made escape => simp [run, accepted, no_help, valued, nonneg, is_made, escape.load_eq]
  | drawing valued nonneg is_made loaded in_full settled refused limit =>
      rcases exists_parse_of_load loaded with ⟨doc, parsed⟩
      have undrawn := (draw_eq_error_iff unset nonneg parsed).2 ⟨in_full, _, _, settled, refused, limit, rfl⟩
      simp [run, accepted, no_help, valued, nonneg, is_made, loaded, undrawn]
  | printing valued nonneg is_made loaded drawn something unprinted =>
      have unshown := Console.shown_eq_error_iff.2 ⟨something, unprinted⟩
      simp [run, accepted, no_help, valued, nonneg, is_made, loaded, drawn, unshown]

/-- A run that draws ends in a fault exactly for one of the listed reasons. -/
theorem run_eq_error_iff (accepted : CommandOptions.ofArguments given = .ok o) (no_help : o.help = false)
    (unset : env.contextLines = none) {fault : CommandFault} :
    run view env made given = .error fault ↔ Escape view env made o fault :=
  ⟨Escape.of_run accepted no_help unset, Escape.run_eq accepted no_help unset⟩

theorem isReported_of_run (accepted : CommandOptions.ofArguments given = .ok o) (no_help : o.help = false)
    {outcome : CommandOutcome} (ended : run view env made given = .ok outcome) : outcome.IsReported := by
  cases Ends.of_run accepted no_help ended with
  | negative => trivial
  | unread => trivial
  | @shown reports =>
      show status reports = 0 ∨ status reports = 1
      rw [status]
      split
      next => exact .inr rfl
      next => exact .inl rfl

/-- Where everything is in order only the nesting of the document is left to end a run. -/
theorem exists_nesting_of_escape (unset : env.contextLines = none) (orderly : IsOrderly view o)
    (serves : ConsoleServes view env made o) {fault : CommandFault} (escape : Escape view env made o fault) :
    ∃ nesting, fault = .nesting nesting := by
  cases escape with
  | contextValue valueless => exact absurd valueless orderly.lines_valued
  | making _ _ unmade => exact absurd serves.is_made (not_succeeds_iff.2 ⟨_, unmade⟩)
  | printing _ _ is_made loaded drawn something unprinted =>
      have printed := serves.prints _ _ _ _ _ is_made loaded drawn something
      exact absurd printed (not_succeeds_iff.2 ⟨_, unprinted⟩)
  | @drawing console _ _ _ _ _ nonneg is_made loaded in_full settled refused limit =>
      rcases exists_parse_of_load loaded with ⟨doc, parsed⟩
      have undrawn := (draw_eq_error_iff unset nonneg parsed).2 ⟨in_full, _, _, settled, refused, limit, rfl⟩
      have drawn := succeeds_draw console unset nonneg parsed (orderly.drawable _ _ loaded)
      rw [undrawn] at drawn
      exact absurd drawn (not_succeeds_error _)
  | loading _ _ _ escape =>
      cases escape with
      | documentName nameless =>
          have named := orderly.document_named
          rw [nameless] at named
          exact absurd named (not_succeeds_error _)
      | numeral stored too_long =>
          rcases Json.digitRun_of_read too_long with ⟨count, -, long, run⟩
          exact absurd (orderly.short_numerals _ count stored run) (Nat.not_le.2 long)
      | nesting stored too_deep => exact ⟨_, rfl⟩
      | sourceValue loaded valueless =>
          rcases valueless with ⟨before, use, after, split, -, fails⟩
          rcases orderly.sources_named use (by simp [split]) with ⟨name, path, rfl, -⟩
          rw [readNamed, mapError_eq_error_iff] at fails
          rcases fails with ⟨cause, -, other⟩
          cases other
      | sourceName loaded nameless =>
          rcases nameless with ⟨before, use, after, split, -, fails⟩
          rcases orderly.sources_named use (by simp [split]) with ⟨name, path, rfl, named⟩
          rw [readNamed, mapError_eq_error_iff] at fails
          rcases fails with ⟨cause, unread, same⟩
          cases same
          rw [FileView.readText_eq_form_iff] at unread
          rw [unread] at named
          exact absurd named (not_succeeds_error _)

/-- Bad input is reported, apart from the faults that are listed. Let the arguments be accepted, not ask for help,
    and nothing be set in the environment. A run ends in a fault exactly where one of those on the list is met; in
    every other case it is refused with a message or finished with a status of zero or one. Where options have
    their values, names are possible, no run of digits is over the limit, the reports are drawn within the
    limits, and the console is made and prints what is drawn, a document that is nested too deeply is all that is
    left on the list. -/
theorem run_reports_bad_input (view : FileView) (env : Environment) (made : Except ForeignFault Console)
    (accepted : CommandOptions.ofArguments given = .ok o) (no_help : o.help = false)
    (unset : env.contextLines = none) :
    (∀ fault, run view env made given = .error fault ↔ Escape view env made o fault) ∧
    (∀ outcome, run view env made given = .ok outcome → outcome.IsReported) ∧
    (IsOrderly view o → ConsoleServes view env made o →
      (∃ outcome, run view env made given = .ok outcome ∧ outcome.IsReported) ∨
      ∃ fault, run view env made given = .error (.nesting fault)) := by
  refine ⟨fun fault => run_eq_error_iff accepted no_help unset, fun outcome => isReported_of_run accepted no_help,
    fun orderly serves => ?_⟩
  cases ended : run view env made given with
  | ok outcome => exact .inl ⟨outcome, rfl, isReported_of_run accepted no_help ended⟩
  | error fault =>
      rcases exists_nesting_of_escape unset orderly serves ((run_eq_error_iff accepted no_help unset).1 ended) with
        ⟨nesting, rfl⟩
      exact .inr ⟨nesting, rfl⟩

/-- Files that all hold an empty list of reports. -/
def emptyListView : FileView := fun _ => .file (Text.encode ['[', ']'])

/-- An empty document is shown. It is not if the number of lines was forgotten or if no console is made. -/
theorem run_reports_bad_input_empty :
    (∃ outcome, run emptyListView {} (.ok (Terminal.console false false)) [Text.of "-C1", ['d']] = .ok outcome ∧
      outcome.IsReported) ∧
    run emptyListView {} (.ok (Terminal.console false false)) [Text.of "-C--", ['d']] = .error .noContextLines ∧
    run emptyListView {} (.error ⟨Text.of "ValueError", []⟩) [Text.of "-C1", ['d']] =
      .error (.console ⟨Text.of "ValueError", []⟩) := by
  have accepted : CommandOptions.ofArguments [Text.of "-C1", ['d']] =
      .ok { document := ['d'], contextLines := some (some 1) } := rfl
  have forgotten : CommandOptions.ofArguments [Text.of "-C--", ['d']] =
      .ok { document := ['d'], contextLines := some none } := rfl
  have shown : run emptyListView {} (.ok (Terminal.console false false)) [Text.of "-C1", ['d']] =
      .ok (.finished 0 [] []) := rfl
  have loaded : load emptyListView { document := ['d'], contextLines := some (some 1) } = .ok (.ok ([], [])) := rfl
  have stored : emptyListView.readText (FilePath.parse ['d']) = .ok ['[', ']'] := rfl
  have orderly : IsOrderly emptyListView { document := ['d'], contextLines := some (some 1) } := by
    refine ⟨by simp, ⟨_, rfl⟩, by simp, ?_, ?_⟩
    · intro text count also_stored run
      obtain rfl := Except.ok.inj (stored.symm.trans also_stored)
      rcases run with ⟨digits, inside, -, rfl⟩
      exact inside.length_le.trans (by decide)
    · intro reports sources also_loaded _ report mem
      obtain ⟨rfl, -⟩ := Prod.mk.inj (Except.ok.inj (Except.ok.inj (loaded.symm.trans also_loaded)))
      cases mem
  have serves : ConsoleServes emptyListView {} (.ok (Terminal.console false false))
      { document := ['d'], contextLines := some (some 1) } := by
    refine ⟨⟨_, rfl⟩, fun console reports sources text notices is_made _ _ _ => ?_⟩
    cases is_made
    exact ⟨_, rfl⟩
  refine ⟨?_, ?_, ?_⟩
  · rcases (run_reports_bad_input emptyListView {} _ accepted rfl rfl).2.2 orderly serves with reported | ⟨fault, ended⟩
    · exact reported
    · rw [shown] at ended
      cases ended
  · exact ((run_reports_bad_input emptyListView {} _ forgotten rfl rfl).1 _).2 (.contextValue rfl)
  · exact ((run_reports_bad_input emptyListView {} _ accepted rfl rfl).1 _).2 (.making (by simp) (by simp) rfl)

/-!
### Integers that are too long
-/

/-- A document that is one integer of too many digits ends a run in a fault that is not caught. -/
theorem run_overlong (accepted : CommandOptions.ofArguments given = .ok o) (no_help : o.help = false)
    (valued : o.contextLines ≠ some none) (nonneg : ¬ o.contextLines.join.any (· < 0)) {digits : Text}
    (stored : view.readText (FilePath.parse o.document) = .ok digits) (plain : ∀ c ∈ digits, Json.isDigit c = true)
    (leading : digits.head? ≠ some (CodePoint.ofChar '0')) (long : Numeral.digitLimit < digits.length) :
    run view env (.ok console) given = .error (.numeral (.tooLong digits.length)) := by
  have too_long : Json.read digits.unifyLineEnds = .error (.numeral (.tooLong digits.length)) := by
    rw [Text.unifyLineEnds_of_not_mem fun mem => absurd (plain _ mem) (by decide)]
    exact Json.read_digits plain leading long
  simp [run, accepted, no_help, valued, nonneg, load_eq_error_iff.2 (.numeral stored too_long)]

/-- Files that all hold one integer, of so many ones. -/
def onesView (count : Nat) : FileView := fun _ => .file (Text.encode (List.replicate count (CodePoint.ofChar '1')))

/-- One digit is refused with a message, since it is not a list of reports. Of 4301 digits nothing is said. -/
theorem run_onesView :
    CommandOptions.ofArguments [['d']] = .ok { document := ['d'] } ∧
      (∃ message, run (onesView 1) {} (.ok (Terminal.console false false)) [['d']] = .ok (.refused message)) ∧
      run (onesView 4301) {} (.ok (Terminal.console false false)) [['d']] = .error (.numeral (.tooLong 4301)) := by
  have plain : ∀ c ∈ List.replicate 4301 (CodePoint.ofChar '1'), Json.isDigit c = true := by
    intro c mem
    rw [List.eq_of_mem_replicate mem]
    decide
  have stored : (onesView 4301).readText (FilePath.parse ['d']) = .ok (List.replicate 4301 (CodePoint.ofChar '1')) := by
    have there : (onesView 4301).read (FilePath.parse ['d']) =
        .ok (Text.encode (List.replicate 4301 (CodePoint.ofChar '1'))) := rfl
    rw [FileView.readText_of_read there, mapError_eq_ok_iff, Utf8.decode_eq_ok_iff]
    refine ⟨fun c mem => ?_, rfl⟩
    rw [List.eq_of_mem_replicate mem]
    decide
  have accepted : CommandOptions.ofArguments [['d']] = .ok { document := ['d'] } := rfl
  have ended : run (onesView 4301) {} (.ok (Terminal.console false false)) [['d']] =
      .error (.numeral (.tooLong (List.replicate 4301 (CodePoint.ofChar '1')).length)) := by
    refine run_overlong accepted rfl (by simp) (by simp) stored plain ?_ ?_
    · rw [List.head?_replicate]
      decide
    · rw [List.length_replicate]
      decide
  rw [List.length_replicate] at ended
  exact ⟨accepted, ⟨_, rfl⟩, ended⟩

end CommandLine

end Marginalia
