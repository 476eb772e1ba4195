/-
Module: Marginalia.Proofs.CommandLine.Loading
Purpose: What the command reads before it draws anything: the document, the sources that the arguments name and
  those that the reports name. Whatever cannot be read is refused with a message. What is not is told one by one:
  a text that names no file, an integer of too many digits, lists and objects that stand in too many others, and an
  option for a source that was used without its value. How a run ends follows from what it could load.
Main exports: readNamed, collectNamed_eq_error_iff, collectSources_eq_error_iff,
  Document.load_eq_numeral_iff, CommandLine.LoadEscape, CommandLine.load_eq_error_iff,
  CommandLine.load_eq_ok_iff, CommandLine.exists_parse_of_load, CommandLine.Ends
-/

import Marginalia.CommandLine.Run
import Marginalia.Proofs.Files
import Marginalia.Proofs.Json.Numerals

namespace Marginalia

/-- A text without carriage returns has its line ends as they should be. -/
theorem Text.unifyLineEnds_of_not_mem {t : Text} (free : CodePoint.ofChar '\r' ∉ t) : t.unifyLineEnds = t := by
  fun_induction Text.unifyLineEnds t with
  | case1 => rfl
  | case2 => exact absurd (List.mem_singleton_self _) free
  | case3 => rfl
  | case4 => exact absurd (List.mem_cons_self ..) free
  | case5 => exact absurd (List.mem_cons_self ..) free
  | case6 c d rest _ ih => rw [ih fun mem => free (List.mem_cons_of_mem c mem)]

/-!
### Sources
-/

variable {view : FileView} {sources : List (Text × Source)} {reports : List Report}

/-- The text of a source that is given by name and path. -/
def readNamed (view : FileView) : Option (Text × Text) → Except CollectFault Text
  | none => .error .nothingNamed
  | some (_, path) => (view.readText (FilePath.parse path)).mapError .read

/-- Sources that are given by name and path are read in order, up to the first that cannot be. -/
theorem collectNamed_eq_error_iff {named : List (Option (Text × Text))} {fault : CollectFault} :
    collectNamed view sources named = .error fault ↔ FirstFailure (readNamed view) named fault := by
  induction named generalizing sources with
  | nil => simp [collectNamed, not_firstFailure_nil]
  | cons use rest ih =>
      rw [firstFailure_cons_iff]
      rcases use with - | ⟨name, path⟩
      · simp [collectNamed, readNamed]
      · simp only [collectNamed, readNamed, bind_eq_error_iff, ih, Succeeds, exists_and_right]

/-- A report that names no file brings no source, and is not refused for it. -/
theorem collectReported_ne_form (form : FilePath.FormFault) :
    collectReported view sources reports ≠ .error (.file (.form form)) := by
  induction reports generalizing sources with
  | nil => simp [collectReported]
  | cons report rest ih =>
      rw [collectReported]
      split
      next => exact ih
      next name _ =>
        split
        next => exact ih
        split
        next fault refused =>
          intro same
          cases same
          exact FileView.isFile_ne_form refused
        next => exact ih
        next is_file =>
          rw [Ne, bind_eq_error_iff, FileView.readText_eq_file_iff, not_or, not_exists]
          refine ⟨FileView.read_ne_form_of_isFile is_file, fun text => ?_⟩
          rw [not_and]
          exact fun _ => ih

/-- The sources of a run cannot be had because of the first one that is given and cannot be read, or else because
    of one that a report names. -/
theorem collectSources_eq_error_iff {named : List (Option (Text × Text))} {fault : CollectFault} :
    collectSources view reports named = .error fault ↔
      FirstFailure (readNamed view) named fault ∨
        ∃ sources cause, collectNamed view [] named = .ok sources ∧
          collectReported view sources reports = .error cause ∧ fault = .read cause := by
  rw [collectSources, bind_eq_error_iff, collectNamed_eq_error_iff]
  simp only [mapError_eq_error_iff, exists_and_left, eq_comm (a := fault)]

/-!
### Loading
-/

namespace Document

variable {path : FilePath}

theorem load_eq_read_iff {fault : ReadFault} :
    load view path = .error (.read fault) ↔ view.readText path = .error fault := by
  rw [load]
  cases view.readText path with
  | error other => simp
  | ok text =>
      simp only [ofText]
      split <;> simp [mapError_eq_error_iff]

/-- A document is refused for a numeral where its text is. -/
theorem load_eq_numeral_iff {fault : Numeral.Fault} : load view path = .error (.numeral fault) ↔
    ∃ text, view.readText path = .ok text ∧ Json.read text.unifyLineEnds = .error (.numeral fault) := by
  rw [load]
  cases view.readText path with
  | error other => simp
  | ok text =>
      simp only [Except.ok.injEq, exists_eq_left', ofText]
      split <;> simp [mapError_eq_error_iff, *]

theorem load_eq_nesting_iff {fault : Json.NestingFault} : load view path = .error (.nesting fault) ↔
    ∃ text, view.readText path = .ok text ∧ Json.read text.unifyLineEnds = .error (.nesting fault) := by
  rw [load]
  cases view.readText path with
  | error other => simp
  | ok text =>
      simp only [Except.ok.injEq, exists_eq_left', ofText]
      split <;> simp [mapError_eq_error_iff, *]

theorem exists_parse_of_load (loaded : load view path = .ok reports) : ∃ doc, parse path.text doc = .ok reports := by
  rw [load] at loaded
  split at loaded
  next => cases loaded
  next text _ =>
    rw [ofText] at loaded
    split at loaded
    next doc _ => exact ⟨doc, mapError_eq_ok_iff.1 loaded⟩
    next => cases loaded
    next => cases loaded
    next => cases loaded

end Document

namespace CommandLine

/-- What cannot be read is refused with its message, unless nothing was there to be read. -/
theorem readOutcome_cases (α : Type) (cause : ReadFault) :
    (∃ form, cause = .file (.form form) ∧
      (readOutcome cause : Except CommandFault (Except Text α)) = .error (.file form)) ∨
    (∀ form, cause ≠ .file (.form form)) ∧
      (readOutcome cause : Except CommandFault (Except Text α)) = .ok (.error cause.message) := by
  by_cases special : ∃ form, cause = .file (.form form)
  · rcases special with ⟨form, rfl⟩
    exact .inl ⟨form, rfl, rfl⟩
  · have other : ∀ form, cause ≠ .file (.form form) := fun form same => special ⟨form, same⟩
    exact .inr ⟨other, readOutcome.eq_2 cause other⟩

theorem readOutcome_eq_error_iff {α : Type} {cause : ReadFault} {fault : CommandFault} :
    (readOutcome cause : Except CommandFault (Except Text α)) = .error fault ↔
      ∃ form, cause = .file (.form form) ∧ fault = .file form := by
  rcases readOutcome_cases α cause with ⟨form, rfl, ended⟩ | ⟨other, refused⟩
  · simp [ended, eq_comm]
  · simp [refused, other]

theorem readOutcome_ne_ok {α : Type} {cause : ReadFault} {a : α} : readOutcome cause ≠ .ok (.ok a) := by
  rcases readOutcome_cases α cause with ⟨form, -, ended⟩ | ⟨-, refused⟩
  · simp [ended]
  · simp [refused]

/-- What ends the loading of a document and its sources without a message. -/
inductive LoadEscape (view : FileView) (o : CommandOptions) : CommandFault → Prop where
  | documentName {form : FilePath.FormFault}
      (nameless : FilePath.octets (FilePath.parse o.document).text = .error form) : LoadEscape view o (.file form)
  | numeral {text : Text} {fault : Numeral.Fault} (stored : view.readText (FilePath.parse o.document) = .ok text)
      (too_long : Json.read text.unifyLineEnds = .error (.numeral fault)) : LoadEscape view o (.numeral fault)
  | nesting {text : Text} {fault : Json.NestingFault}
      (stored : view.readText (FilePath.parse o.document) = .ok text)
      (too_deep : Json.read text.unifyLineEnds = .error (.nesting fault)) : LoadEscape view o (.nesting fault)
  | sourceValue {reports : List Report}
      (loaded : Document.load view (FilePath.parse o.document) = .ok reports)
      (valueless : FirstFailure (readNamed view) o.sources .nothingNamed) : LoadEscape view o .nothingNamed
  | sourceName {reports : List Report} {form : FilePath.FormFault}
      (loaded : Document.load view (FilePath.parse o.document) = .ok reports)
      (nameless : FirstFailure (readNamed view) o.sources (.read (.file (.form form)))) :
      LoadEscape view o (.file form)

variable {o : CommandOptions} {fault : CommandFault}

theorem LoadEscape.of_load (ended : load view o = .error fault) : LoadEscape view o fault := by
  rw [load] at ended
  split at ended
  next numeral too_long =>
    cases ended
    rcases Document.load_eq_numeral_iff.1 too_long with ⟨text, stored, refused⟩
    exact .numeral stored refused
  next nesting too_deep =>
    cases ended
    rcases Document.load_eq_nesting_iff.1 too_deep with ⟨text, stored, refused⟩
    exact .nesting stored refused
  next => cases ended
  next cause unread =>
    rcases readOutcome_eq_error_iff.1 ended with ⟨form, rfl, rfl⟩
    rw [Document.load_eq_read_iff, FileView.readText_eq_form_iff] at unread
    exact .documentName unread
  next reports loaded =>
    split at ended
    next uncollected =>
      cases ended
      rcases collectSources_eq_error_iff.1 uncollected with first | ⟨_, cause, -, -, other⟩
      · exact .sourceValue loaded first
      · cases other
    next cause uncollected =>
      rcases readOutcome_eq_error_iff.1 ended with ⟨form, rfl, rfl⟩
      rcases collectSources_eq_error_iff.1 uncollected with first | ⟨_, cause, -, reported, same⟩
      · exact .sourceName loaded first
      · cases same
        exact absurd reported (collectReported_ne_form form)
    next => cases ended

theorem LoadEscape.load_eq (escape : LoadEscape view o fault) : load view o = .error fault := by
  cases escape with
  | documentName nameless =>
      rw [load, Document.load_eq_read_iff.2 (FileView.readText_eq_form_iff.2 nameless)]
      rfl
  | numeral stored too_long => rw [load, Document.load_eq_numeral_iff.2 ⟨_, stored, too_long⟩]
  | nesting stored too_deep => rw [load, Document.load_eq_nesting_iff.2 ⟨_, stored, too_deep⟩]
  | sourceValue loaded valueless =>
      rw [load, loaded]
      simp only
      rw [collectSources_eq_error_iff.2 (.inl valueless)]
  | sourceName loaded nameless =>
      rw [load, loaded]
      simp only
      rw [collectSources_eq_error_iff.2 (.inl nameless)]
      rfl

/-- Loading refuses with a message whatever it cannot read, apart from what is listed. -/
theorem load_eq_error_iff : load view o = .error fault ↔ LoadEscape view o fault :=
  ⟨LoadEscape.of_load, LoadEscape.load_eq⟩

/-- Reports and sources are loaded one after the other. -/
theorem load_eq_ok_iff : load view o = .ok (.ok (reports, sources)) ↔
    Document.load view (FilePath.parse o.document) = .ok reports ∧
      collectSources view reports o.sources = .ok sources := by
  constructor
  · intro loaded
    rw [load] at loaded
    split at loaded
    next => cases loaded
    next => cases loaded
    next => cases loaded
    next => exact absurd loaded readOutcome_ne_ok
    next found read =>
      split at loaded
      next => cases loaded
      next => exact absurd loaded readOutcome_ne_ok
      next collected =>
        cases loaded
        exact ⟨read, collected⟩
  · rintro ⟨read, collected⟩
    rw [load, read]
    simp only
    rw [collected]

/-- The reports that were loaded stood in the document. -/
theorem exists_parse_of_load (loaded : load view o = .ok (.ok (reports, sources))) :
    ∃ doc, Document.parse (FilePath.parse o.document).text doc = .ok reports :=
  Document.exists_parse_of_load (load_eq_ok_iff.1 loaded).1

/-!
### Running
-/

/-- How a run ends that neither asks for help nor meets a fault: it is refused for a negative number of lines or for
    what cannot be loaded, or it finishes with the status of its reports. -/
inductive Ends (view : FileView) (o : CommandOptions) : CommandOutcome → Prop where
  | negative {n : Int} {message : Text} (lines : o.contextLines = some (some n)) (negative : n < 0) :
      Ends view o (.refused message)
  | unread {message : Text} (nonneg : ∀ n, o.contextLines = some (some n) → 0 ≤ n)
      (refused : load view o = .ok (.error message)) : Ends view o (.refused message)
  | shown {reports : List Report} {sources : List (Text × Source)} {output : Text} {log : List Notice}
      (nonneg : ∀ n, o.contextLines = some (some n) → 0 ≤ n) (loaded : load view o = .ok (.ok (reports, sources))) :
      Ends view o (.finished (status reports) output log)

variable {env : Environment} {made : Except ForeignFault Console} {given : List Text} {outcome : CommandOutcome}

theorem Ends.of_run (accepted : CommandOptions.ofArguments given = .ok o) (no_help : o.help = false)
    (ran : run view env made given = .ok outcome) : Ends view o outcome := by
  rw [run, accepted] at ran
  simp only [no_help, Bool.false_eq_true, if_false] at ran
  split at ran
  next => cases ran
  split at ran
  next below =>
    cases ran
    rcases (Option.any_eq_true ..).1 below with ⟨n, lines, negative⟩
    exact .negative (Option.join_eq_some_iff.1 lines) (of_decide_eq_true negative)
  next nonneg =>
    have nonneg : ∀ n, o.contextLines = some (some n) → 0 ≤ n := by
      intro n lines
      simpa [lines] using nonneg
    split at ran
    next => cases ran
    split at ran
    next => cases ran
    next message refused =>
      cases ran
      exact .unread nonneg refused
    next reports sources loaded =>
      split at ran
      next => cases ran
      split at ran
      next => cases ran
      next =>
        cases ran
        exact .shown nonneg loaded

end CommandLine

end Marginalia
