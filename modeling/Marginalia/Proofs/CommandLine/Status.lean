/-
Module: Marginalia.Proofs.CommandLine.Status
Purpose: The status with which a run ends. What is looked at before anything is drawn decides it: a negative number
  of lines, a document or a source that cannot be read make it two, and otherwise the severities of the reports make
  it one or zero. The drawing has no part in it, so that two runs over the same document and sources end alike,
  however their reports are shown.
Main exports: CommandOutcome.exitStatus, CommandLine.ReportNames, CommandLine.Refusal,
  CommandLine.readable_of_collectSources, CommandLine.unreadable_of_collectSources,
  CommandLine.not_refusal_of_load, CommandLine.refusal_of_load, CommandLine.run_status
-/

import Marginalia.Proofs.CommandLine.Collecting
import Marginalia.Terminal

namespace Marginalia

/-- The status that a run leaves: that of its reports, two for a refusal, zero for help. -/
def CommandOutcome.exitStatus : CommandOutcome → Nat
  | .finished status _ _ => status
  | .refused _ => 2
  | .help => 0

namespace CommandLine

variable {view : FileView} {env : Environment} {made : Except ForeignFault Console} {given : List Text}
  {o : CommandOptions} {reports : List Report} {sources : List (Text × Source)} {outcome : CommandOutcome}

/-- Some report of the document names a source that is not given and whose path has a property. -/
def ReportNames (view : FileView) (o : CommandOptions) (property : FilePath → Prop) : Prop :=
  ∃ reports, Document.load view (FilePath.parse o.document) = .ok reports ∧
    ∃ x, some x ∈ reports.map (·.source) ∧ (∀ path, some (x, path) ∉ o.sources) ∧ property (FilePath.parse x)

/-- What a run is refused for: a negative number of lines, a document without reports that can be read, a source
    that is given and has no text, and a source of a report that is a file without a text or may not be looked at. -/
inductive Refusal (view : FileView) (o : CommandOptions) : Prop where
  | negativeLines {n : Int} (lines : o.contextLines = some (some n)) (negative : n < 0) : Refusal view o
  | document (unread : ¬ Succeeds (Document.load view (FilePath.parse o.document))) : Refusal view o
  | givenSource {name path : Text} (mem : some (name, path) ∈ o.sources)
      (unread : ¬ Succeeds (view.readText (FilePath.parse path))) : Refusal view o
  | reportedSource (unread : ReportNames view o fun path =>
      view.NotText path ∨ view.read path = .error (.forbidden path)) : Refusal view o

/-- Some report of the document names, as a source that is not given, what is too long for the name of a file. -/
def NamesOverlong (view : FileView) (o : CommandOptions) : Prop :=
  ReportNames view o fun path => view.read path = .error (.nameTooLong path)

/-!
### Reading
-/

theorem not_mem_names_iff {named : List (Text × Text)} {x : Text} :
    x ∉ named.map (·.1) ↔ ∀ path, some (x, path) ∉ named.map some := by
  simp

/-- Where the sources of a run can be had, all that are given have a text, and those that only reports name have a
    text or are no files. -/
theorem readable_of_collectSources {uses : List (Option (Text × Text))}
    (collected : collectSources view reports uses = .ok sources) :
    (∀ name path, some (name, path) ∈ uses → Succeeds (view.readText (FilePath.parse path))) ∧
      ∀ x, some x ∈ reports.map (·.source) → (∀ path, some (x, path) ∉ uses) →
        ¬ (view.NotText (FilePath.parse x) ∨ ¬ Succeeds (view.isFile (FilePath.parse x))) := by
  rcases bind_eq_ok_iff.1 collected with ⟨first, of_given, -⟩
  rcases exists_pairs_of_collectNamed of_given with ⟨named, rfl⟩
  rcases succeeds_collectSources_iff.1 ⟨sources, collected⟩ with ⟨readable, passes⟩
  refine ⟨fun name path mem => ?_, fun x mem not_given => ?_⟩
  · exact readable (name, path) (by simpa using mem)
  · rw [← FileView.isFile_eq_false_or_readText_iff]
    exact passes x mem (not_mem_names_iff.2 not_given)

/-- Where they cannot be had for something that cannot be read, this is a source that is given and has no text, or
    one that only reports name and that is a file without a text or cannot be asked about. -/
theorem unreadable_of_collectSources {uses : List (Option (Text × Text))} {cause : ReadFault}
    (uncollected : collectSources view reports uses = .error (.read cause)) :
    (∃ name path, some (name, path) ∈ uses ∧ ¬ Succeeds (view.readText (FilePath.parse path))) ∨
      ∃ x, some x ∈ reports.map (·.source) ∧ (∀ path, some (x, path) ∉ uses) ∧
        (view.NotText (FilePath.parse x) ∨ ¬ Succeeds (view.isFile (FilePath.parse x))) := by
  rcases collectSources_eq_error_iff.1 uncollected with first | ⟨first, fault, of_given, of_reports, -⟩
  · rcases first with ⟨before, use, after, rfl, -, fails⟩
    rcases use with - | ⟨name, path⟩
    · cases fails
    · rcases mapError_eq_error_iff.1 fails with ⟨fault, unread, -⟩
      exact .inl ⟨name, path, by simp, not_succeeds_iff.2 ⟨fault, unread⟩⟩
  · rcases exists_pairs_of_collectNamed of_given with ⟨named, rfl⟩
    have stopped : ¬ Succeeds (collectReported view first reports) := not_succeeds_iff.2 ⟨fault, of_reports⟩
    simp only [succeeds_collectReported_iff, lookup_of_collectNamed_eq_none_iff of_given, not_forall] at stopped
    rcases stopped with ⟨x, mem, not_given, stops⟩
    rw [FileView.isFile_eq_false_or_readText_iff, not_not] at stops
    exact .inr ⟨x, mem, not_mem_names_iff.1 not_given, stops⟩

/-- What is refused is a document that cannot be read or a source that cannot be read. -/
theorem unread_of_load {message : Text} (refused : load view o = .ok (.error message)) :
    ¬ Succeeds (Document.load view (FilePath.parse o.document)) ∨
      ∃ reports cause, Document.load view (FilePath.parse o.document) = .ok reports ∧
        collectSources view reports o.sources = .error (.read cause) := by
  cases read : Document.load view (FilePath.parse o.document) with
  | error fault => exact .inl (not_succeeds_error fault)
  | ok reports =>
      rw [load, read] at refused
      simp only at refused
      split at refused
      next => cases refused
      next cause uncollected => exact .inr ⟨reports, cause, rfl, uncollected⟩
      next => cases refused

/-- What can be loaded gives no reason for a refusal, apart from the number of lines. -/
theorem not_refusal_of_load (nonneg : ∀ n, o.contextLines = some (some n) → 0 ≤ n)
    (loaded : load view o = .ok (.ok (reports, sources))) : ¬ (Refusal view o ∨ NamesOverlong view o) := by
  rcases load_eq_ok_iff.1 loaded with ⟨read, collected⟩
  rcases readable_of_collectSources collected with ⟨readable, passes⟩
  have no_report : ∀ property : FilePath → Prop, (∀ path, property path →
      view.NotText path ∨ ¬ Succeeds (view.isFile path)) → ¬ ReportNames view o property := by
    rintro property stops ⟨others, also_read, x, mem, not_given, holds⟩
    obtain rfl := Except.ok.inj (read.symm.trans also_read)
    exact passes x mem not_given (stops _ holds)
  rintro (refusal | overlong)
  · cases refusal with
    | negativeLines lines negative => exact absurd (nonneg _ lines) (Int.not_le.2 negative)
    | document unread => exact unread ⟨reports, read⟩
    | givenSource mem unread => exact unread (readable _ _ mem)
    | reportedSource unread =>
        refine no_report _ (fun path => ?_) unread
        rw [FileView.notText_or_not_succeeds_isFile_iff]
        exact Or.imp_right .inr
  · refine no_report _ (fun path too_long => ?_) overlong
    rw [FileView.notText_or_not_succeeds_isFile_iff]
    exact .inr (.inl too_long)

/-- What is refused while it is loaded has a reason. -/
theorem refusal_of_load {message : Text} (refused : load view o = .ok (.error message)) :
    Refusal view o ∨ NamesOverlong view o := by
  rcases unread_of_load refused with unread | ⟨reports, cause, read, uncollected⟩
  · exact .inl (.document unread)
  rcases unreadable_of_collectSources uncollected with ⟨name, path, mem, unread⟩ | ⟨x, mem, not_given, stops⟩
  · exact .inl (.givenSource mem unread)
  · rw [FileView.notText_or_not_succeeds_isFile_iff] at stops
    rcases stops with no_text | too_long | forbidden
    · exact .inl (.reportedSource ⟨reports, read, x, mem, not_given, .inl no_text⟩)
    · exact .inr ⟨reports, read, x, mem, not_given, too_long⟩
    · exact .inl (.reportedSource ⟨reports, read, x, mem, not_given, .inr forbidden⟩)

/-!
### Running
-/

theorem status_eq_one_iff : status reports = 1 ↔ ∃ report ∈ reports, report.severity = .error := by
  rw [status]
  split
  next some_error => simpa using some_error
  next no_error => simpa using no_error

theorem status_eq_zero_iff : status reports = 0 ↔ ∀ report ∈ reports, report.severity ≠ .error := by
  rw [status]
  split
  next some_error => simpa using some_error
  next no_error => simpa using no_error

theorem status_ne_two : status reports ≠ 2 := by
  rw [status]
  split
  next => decide
  next => decide

theorem Ends.exitStatus_eq_two_iff (ends : Ends view o outcome) :
    outcome.exitStatus = 2 ↔ Refusal view o ∨ NamesOverlong view o := by
  cases ends with
  | negative lines negative => exact iff_of_true rfl (.inl (.negativeLines lines negative))
  | unread _ refused => exact iff_of_true rfl (refusal_of_load refused)
  | shown nonneg loaded => exact iff_of_false status_ne_two (not_refusal_of_load nonneg loaded)

/-- Two runs that read the same leave the same status. -/
theorem Ends.exitStatus_eq {o' : CommandOptions} {outcome' : CommandOutcome} (document : o'.document = o.document)
    (same_sources : o'.sources = o.sources) (nonneg : ∀ n, o.contextLines = some (some n) → 0 ≤ n)
    (also_nonneg : ∀ n, o'.contextLines = some (some n) → 0 ≤ n) (ends : Ends view o outcome)
    (also : Ends view o' outcome') : outcome'.exitStatus = outcome.exitStatus := by
  have same : load view o' = load view o := by rw [load, load, document, same_sources]
  cases ends with
  | negative lines negative => exact absurd (nonneg _ lines) (Int.not_le.2 negative)
  | unread _ refused =>
      cases also with
      | negative lines negative => exact absurd (also_nonneg _ lines) (Int.not_le.2 negative)
      | unread => rfl
      | shown _ loaded =>
          rw [same, refused] at loaded
          cases loaded
  | shown _ loaded =>
      cases also with
      | negative lines negative => exact absurd (also_nonneg _ lines) (Int.not_le.2 negative)
      | unread _ refused =>
          rw [same, loaded] at refused
          cases refused
      | shown _ also_loaded =>
          rw [same, loaded] at also_loaded
          cases also_loaded
          rfl

/-- The exit status tells about the document, not about its presentation. Let the arguments be accepted and not ask
    for help, and let the run meet no fault. It ends with two exactly if the number of lines is negative, the document
    gives no reports, a source that is given or that a report names on its own cannot be read as a text, or a report
    names on its own what is too long for the name of a file. Otherwise it ends with one if some report of the document
    is an error, and with zero if none is. A second run over the same document and the same given sources, with
    any other arguments, environment and console, ends with the same status if it meets no fault either and neither
    number of lines is negative. -/
theorem run_status (accepted : CommandOptions.ofArguments given = .ok o) (no_help : o.help = false)
    (ran : run view env made given = .ok outcome) :
    (outcome.exitStatus = 2 ↔ Refusal view o ∨ NamesOverlong view o) ∧
    (outcome.exitStatus ≠ 2 → ∃ reports, Document.load view (FilePath.parse o.document) = .ok reports ∧
      (outcome.exitStatus = 1 ↔ ∃ report ∈ reports, report.severity = .error) ∧
      (outcome.exitStatus = 0 ↔ ∀ report ∈ reports, report.severity ≠ .error)) ∧
    ∀ (env' : Environment) (made' : Except ForeignFault Console) (given' : List Text) (o' : CommandOptions)
      (outcome' : CommandOutcome), CommandOptions.ofArguments given' = .ok o' → o'.help = false →
      o'.document = o.document → o'.sources = o.sources → (∀ n, o.contextLines = some (some n) → 0 ≤ n) →
      (∀ n, o'.contextLines = some (some n) → 0 ≤ n) → run view env' made' given' = .ok outcome' →
      outcome'.exitStatus = outcome.exitStatus := by
  have ends := Ends.of_run accepted no_help ran
  refine ⟨ends.exitStatus_eq_two_iff, fun shown => ?_, ?_⟩
  · cases ends with
    | negative => exact absurd rfl shown
    | unread => exact absurd rfl shown
    | shown _ loaded => exact ⟨_, (load_eq_ok_iff.1 loaded).1, status_eq_one_iff, status_eq_zero_iff⟩
  · intro env' made' given' o' outcome' also_accepted also_no_help document same_sources nonneg also_nonneg also_ran
    exact Ends.exitStatus_eq document same_sources nonneg also_nonneg ends
      (.of_run also_accepted also_no_help also_ran)

/-- Files that all hold a warning and an error. -/
def errorView : FileView := fun _ => .file (Text.encode (Text.of
  "[\x7b\"message\": \"m\", \"severity\": \"warning\"\x7d, \x7b\"message\": \"n\"\x7d]"))

/-- Shown in one line each or in full on a terminal, the same reports lead to the same status. -/
theorem run_status_shown_twice : ∃ outcome also : CommandOutcome,
    run errorView {} (.ok (Terminal.console false false)) [Text.of "--compact", ['d']] = .ok outcome ∧
    run errorView {} (.ok (Terminal.console true false)) [Text.of "-vC0", ['d']] = .ok also ∧ outcome.exitStatus = 1 ∧
    also.exitStatus = outcome.exitStatus ∧ ∃ reports, Document.load errorView (FilePath.parse ['d']) = .ok reports ∧
      ∃ report ∈ reports, report.severity = .error := by
  have accepted : CommandOptions.ofArguments [Text.of "--compact", ['d']] =
      .ok { document := ['d'], compact := true } := rfl
  have also_accepted : CommandOptions.ofArguments [Text.of "-vC0", ['d']] =
      .ok { document := ['d'], verbose := true, contextLines := some (some 0) } := rfl
  have shown : (run errorView {} (.ok (Terminal.console false false))
      [Text.of "--compact", ['d']]).toOption.map CommandOutcome.exitStatus = some 1 := by decide +kernel
  have in_full : (run errorView {} (.ok (Terminal.console true false))
      [Text.of "-vC0", ['d']]).toOption.isSome = true := by decide +kernel
  cases ran : run errorView {} (.ok (Terminal.console false false)) [Text.of "--compact", ['d']] with
  | error fault =>
      rw [ran] at shown
      cases shown
  | ok outcome =>
      cases also_ran : run errorView {} (.ok (Terminal.console true false)) [Text.of "-vC0", ['d']] with
      | error fault =>
          rw [also_ran] at in_full
          cases in_full
      | ok also =>
          rw [ran] at shown
          have one : outcome.exitStatus = 1 := Option.some.inj shown
          obtain ⟨-, of_reports, same⟩ := run_status accepted rfl ran
          rcases of_reports (by rw [one]; decide) with ⟨reports, loaded, some_error, -⟩
          refine ⟨outcome, also, rfl, rfl, one, ?_, reports, loaded, some_error.1 one⟩
          exact same _ _ _ _ _ also_accepted rfl rfl rfl (by simp) (by simp) also_ran

/-- A file with one report, which names as its source what is too long for the name of a file. -/
def overlongTree : FileTree := .ofNames [(['d'], Text.encode
  (Text.of "[\x7b\"message\": \"m\", \"source\": \"" ++ Text.overlong ++ Text.of "\"\x7d]"))]

/-- A run is refused for a source that is no file at all, though nothing that it reads is at fault. -/
theorem run_status_overlong :
    CommandOptions.ofArguments [['d']] = .ok { document := ['d'] } ∧
      (run overlongTree.view {} (.ok (Terminal.console false false)) [['d']]).toOption.map CommandOutcome.exitStatus =
        some 2 ∧
      ¬ Refusal overlongTree.view { document := ['d'] } := by
  refine ⟨rfl, by decide +kernel, ?_⟩
  have named : (Document.load overlongTree.view (FilePath.parse ['d'])).toOption.map (·.map (·.source)) =
      some [some Text.overlong] := by
    decide +kernel
  have no_file : overlongTree.view.read (FilePath.parse Text.overlong) =
      .error (.nameTooLong (FilePath.parse Text.overlong)) := by
    decide +kernel
  cases loaded : Document.load overlongTree.view (FilePath.parse ['d']) with
  | error fault =>
      rw [loaded] at named
      cases named
  | ok reports =>
      rw [loaded] at named
      have sources : reports.map (·.source) = [some Text.overlong] := Option.some.inj named
      intro refusal
      cases refusal with
      | negativeLines lines negative => cases lines
      | document unread => exact unread ⟨reports, loaded⟩
      | givenSource mem unread => cases mem
      | reportedSource unread =>
          rcases unread with ⟨others, also_loaded, x, mem, -, unread⟩
          obtain rfl := Except.ok.inj (loaded.symm.trans also_loaded)
          rw [sources, List.mem_singleton, Option.some.injEq] at mem
          subst mem
          rw [no_file] at unread
          rcases unread with no_text | there
          · cases no_text with
            | malformed there =>
                rw [no_file] at there
                cases there
            | unreadable _ there => exact absurd there (by decide +kernel)
          · cases there

end CommandLine

end Marginalia
