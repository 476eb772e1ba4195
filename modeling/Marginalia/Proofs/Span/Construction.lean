/-
Module: Marginalia.Proofs.Span.Construction
Purpose: From which values a span can be built. The checked constructors succeed on exactly the values that
  keep the bounds: integers from zero or one on, both ends of a position or neither, a pattern that is not
  empty, and no part of a search under another name. A boolean, a float or a text is never a number here. Given
  the numbers of a span, its constructor gives the span back.
Main exports: Value.IsIntFrom, Value.Requires, Value.Allows, OctetRange.succeeds_ofValues,
  Position.succeeds_ofValues, Search.Format, Search.succeeds_ofMembers, Span.IsConstructed
-/

import Marginalia.Proofs.Outcome
import Marginalia.Span.Basic

namespace Marginalia

namespace Value

/-- An integer that does not lie below some number. -/
def IsIntFrom (least : Nat) (v : Value) : Prop := ∃ n : Int, v = .int n ∧ least ≤ n

/-- A text. -/
def IsText (v : Value) : Prop := ∃ t, v = .text t

/-- A member that must be there, with what its value must keep. -/
def Requires (members : List (Text × Value)) (key : String) (p : Value → Prop) : Prop :=
  ∃ v, member? (Text.of key) members = some v ∧ p v

/-- A member that may be missing, with what its value must keep. -/
def Allows (members : List (Text × Value)) (key : String) (p : Value → Prop) : Prop :=
  ∀ v, member? (Text.of key) members = some v → p v

variable {members : List (Text × Value)} {key : String} {p : Value → Prop}

theorem not_isIntFrom_null (least : Nat) : ¬ IsIntFrom least .null := by
  intro is_int
  rcases is_int with ⟨n, same, -⟩
  cases same

/-- A required member is one that a default cannot stand in for. -/
theorem requires_iff_getD {default : Value} (refused : ¬ p default) :
    Requires members key p ↔ p ((member? (Text.of key) members).getD default) := by
  rw [Requires]
  cases found : member? (Text.of key) members with
  | none => simpa using refused
  | some v => simp

/-- A member may be missing if its default is accepted. -/
theorem allows_iff_getD {default : Value} (accepted : p default) :
    Allows members key p ↔ p ((member? (Text.of key) members).getD default) := by
  rw [Allows]
  cases found : member? (Text.of key) members with
  | none => simpa using accepted
  | some v => simp

theorem Requires.isSome (required : Requires members key p) :
    (member? (Text.of key) members).isSome := by
  rcases required with ⟨v, found, -⟩
  rw [found]
  rfl

end Value

open Value

theorem SpanField.succeeds_check (field : SpanField) (v : Value) :
    Succeeds (field.check v) ↔ v.IsIntFrom field.least := by
  cases v with
  | int n =>
      rw [check]
      split
      next keeps => exact iff_of_true (succeeds_ok _) ⟨n, rfl, keeps⟩
      next breaks =>
        refine iff_of_false (not_succeeds_error _) ?_
        intro is_int
        rcases is_int with ⟨m, same, keeps⟩
        cases same
        exact breaks keeps
  | null | bool | float | text | list | object =>
      refine iff_of_false (not_succeeds_error _) ?_
      intro is_int
      rcases is_int with ⟨n, same, -⟩
      cases same

theorem OctetRange.succeeds_ofValues (start length : Value) :
    Succeeds (ofValues SpanField.check start length) ↔ start.IsIntFrom 0 ∧ length.IsIntFrom 1 := by
  rw [ofValues, succeeds_bind_and fun first => succeeds_bind_and fun count =>
    iff_true_intro (succeeds_pure _), SpanField.succeeds_check, SpanField.succeeds_check, and_true]
  rfl

/-- A position starts on a cell and ends on one or not at all. -/
theorem Position.succeeds_ofValues (startLine startColumn endLine endColumn : Value) :
    Succeeds (ofValues SpanField.check startLine startColumn endLine endColumn) ↔
      startLine.IsIntFrom 1 ∧ startColumn.IsIntFrom 1 ∧
        (endLine = .null ∧ endColumn = .null ∨ endLine.IsIntFrom 1 ∧ endColumn.IsIntFrom 1) := by
  rw [ofValues, succeeds_bind_and (p := startColumn.IsIntFrom 1 ∧
    (endLine = .null ∧ endColumn = .null ∨ endLine.IsIntFrom 1 ∧ endColumn.IsIntFrom 1)),
    SpanField.succeeds_check]
  · rfl
  intro line
  rw [succeeds_bind_and (p := endLine = .null ∧ endColumn = .null ∨
    endLine.IsIntFrom 1 ∧ endColumn.IsIntFrom 1), SpanField.succeeds_check]
  · rfl
  intro column
  split
  next => simp
  next some_column => simpa [not_isIntFrom_null] using some_column
  next some_line => simpa [not_isIntFrom_null] using some_line
  next some_line some_column _ =>
    rw [succeeds_bind_and fun line => succeeds_bind_and fun column => iff_true_intro (succeeds_pure _),
      SpanField.succeeds_check, SpanField.succeeds_check, and_true]
    have not_both : ¬ (endLine = .null ∧ endColumn = .null) := fun both => some_line both.1
    exact (or_iff_right not_both).symm

/-- A search starts on a line, looks for some text, and starts and stops where it is told. -/
theorem Search.succeeds_ofValues (line pattern afterColumn maxLines : Value) :
    Succeeds (ofValues SpanField.check line pattern afterColumn maxLines) ↔
      line.IsIntFrom 1 ∧ (∃ t, pattern = .text t ∧ t ≠ []) ∧ afterColumn.IsIntFrom 1 ∧
        maxLines.IsIntFrom 1 := by
  rw [ofValues, succeeds_bind_and (p := (∃ t, pattern = .text t ∧ t ≠ []) ∧ afterColumn.IsIntFrom 1 ∧
    maxLines.IsIntFrom 1), SpanField.succeeds_check]
  · rfl
  intro first
  split
  next t =>
    split
    next some_pattern =>
      rw [succeeds_bind_and fun column => succeeds_bind_and fun count => iff_true_intro (succeeds_pure _),
        SpanField.succeeds_check, SpanField.succeeds_check, and_true]
      exact (and_iff_right ⟨t, rfl, some_pattern⟩).symm
    next no_pattern => simpa using fun some_pattern => absurd some_pattern no_pattern
  next no_text => simpa using fun t is_text => absurd is_text (no_text t)

/-!
### Searches from named parts
-/

/-- The named parts of a search: a line and a pattern, perhaps a column and a number of lines, and nothing
    else. -/
structure Search.Format (members : List (Text × Value)) : Prop where
  known : ∀ entry ∈ members,
    entry.1 ∈ [Text.of "line", Text.of "pattern", Text.of "after_column", Text.of "max_lines"]
  line : Requires members "line" (IsIntFrom 1)
  pattern : Requires members "pattern" fun v => ∃ t, v = .text t ∧ t ≠ []
  afterColumn : Allows members "after_column" (IsIntFrom 1)
  maxLines : Allows members "max_lines" (IsIntFrom 1)

/-- Named parts are the parts of a search if none of them is unknown and none of the required is missing. -/
theorem Search.partsFault?_eq_none_iff (members : List (Text × Value)) :
    partsFault? members = none ↔
      (∀ entry ∈ members,
        entry.1 ∈ [Text.of "line", Text.of "pattern", Text.of "after_column", Text.of "max_lines"]) ∧
      (member? (Text.of "line") members).isSome ∧ (member? (Text.of "pattern") members).isSome := by
  have required : (requiredParts.filter fun key => (member? key members).isNone) = [] ↔
      (member? (Text.of "line") members).isSome ∧ (member? (Text.of "pattern") members).isSome := by
    simp [requiredParts, List.filter_eq_nil_iff, Option.ne_none_iff_isSome]
  rw [partsFault?]
  split
  next key _ found =>
    have unknown := List.find?_some found
    have mem := List.mem_of_find?_eq_some found
    refine iff_of_false (by simp) ?_
    intro fine
    rcases fine with ⟨known, -⟩
    have here := known _ mem
    simp only [Bool.not_eq_true', List.contains_eq_mem, decide_eq_false_iff_not] at unknown
    exact unknown here
  next all_known =>
    have known : ∀ entry ∈ members,
        entry.1 ∈ [Text.of "line", Text.of "pattern", Text.of "after_column", Text.of "max_lines"] := by
      intro entry mem
      have here := List.find?_eq_none.1 all_known entry mem
      simp only [Bool.not_eq_true, Bool.not_eq_false', List.contains_iff_mem] at here
      exact here
    rw [and_iff_right known, ← required]
    split
    next none_missing => exact iff_of_true rfl none_missing
    next some_missing => exact iff_of_false (by simp) some_missing

theorem Search.ofMembers_of_partsFault?_eq_none {read : SpanReader} {members : List (Text × Value)}
    (fine : partsFault? members = none) :
    ofMembers read members =
      (ofValues read ((member? (Text.of "line") members).getD .null)
        ((member? (Text.of "pattern") members).getD .null)
        ((member? (Text.of "after_column") members).getD (.int 1))
        ((member? (Text.of "max_lines") members).getD (.int 1))).mapError SearchFault.span := by
  rw [ofMembers, fine]
  simp only
  split
  next search built =>
    rw [built]
    rfl
  next fault broken =>
    rw [broken]
    rfl

/-- A search is built from named parts exactly if these are the parts of a search. -/
theorem Search.succeeds_ofMembers (members : List (Text × Value)) :
    Succeeds (ofMembers SpanField.check members) ↔ Search.Format members := by
  have no_null : ¬ ∃ t, Value.null = .text t ∧ t ≠ [] := by
    intro is_text
    rcases is_text with ⟨t, same, -⟩
    cases same
  have one : IsIntFrom 1 (.int 1) := ⟨1, rfl, Int.le_refl 1⟩
  cases parts : partsFault? members with
  | some fault =>
      refine iff_of_false ?_ ?_
      · simp [ofMembers, parts]
      · intro format
        have fine := (partsFault?_eq_none_iff members).2
          ⟨format.known, format.line.isSome, format.pattern.isSome⟩
        rw [fine] at parts
        cases parts
  | none =>
      rcases (partsFault?_eq_none_iff members).1 parts with ⟨known, -, -⟩
      rw [ofMembers_of_partsFault?_eq_none parts, succeeds_mapError, succeeds_ofValues]
      constructor
      · intro parts
        rcases parts with ⟨line, pattern, afterColumn, maxLines⟩
        exact ⟨known, (requires_iff_getD (not_isIntFrom_null 1)).2 line,
          (requires_iff_getD no_null).2 pattern,
          (allows_iff_getD one).2 afterColumn, (allows_iff_getD one).2 maxLines⟩
      · intro format
        exact ⟨(requires_iff_getD (not_isIntFrom_null 1)).1 format.line,
          (requires_iff_getD no_null).1 format.pattern, (allows_iff_getD one).1 format.afterColumn,
          (allows_iff_getD one).1 format.maxLines⟩

/-!
### Spans from their own numbers
-/

/-- A span passes the conditions of its own constructor, which gives it back. -/
def Span.IsConstructed : Span → Prop
  | .position p =>
    Position.ofValues SpanField.check (.int p.start.line) (.int p.start.column) (p.stopValue Cell.line)
      (p.stopValue Cell.column) = .ok p
  | .octets r => OctetRange.ofValues SpanField.check (.int r.start) (.int r.length) = .ok r
  | .search s =>
    Search.ofValues SpanField.check (.int s.line) (.text s.pattern) (.int s.afterColumn) (.int s.maxLines) = .ok s

theorem Span.isConstructed (span : Span) : span.IsConstructed := by
  cases span with
  | position p => exact p.ofValues_numbers
  | octets r => exact r.ofValues_numbers
  | search s => exact s.ofValues_numbers

end Marginalia
