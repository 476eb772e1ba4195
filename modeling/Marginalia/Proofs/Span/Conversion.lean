/-
Module: Marginalia.Proofs.Span.Conversion
Purpose: What may be given where a span is wanted. There are five forms: a span itself, two numbers, four numbers,
  a range of indices without gaps, and a carrier of a span. What is given in one of them is converted, to the span
  that the checked constructor builds from its numbers, and the constructor never refuses these; anything else is
  refused with a fault that names it, and a carrier that raises a fault raises it here too. All of this holds as
  long as the numbers can be written: since messages are made up beforehand, a number that is too long for them is
  all that is told, in one of the forms as well as in none. A conversion is settled after one step, the three ways
  to write a range of octets agree, and a label makes no difference between a list and a fixed sequence.
Main exports: SpanField.findSome?_tooLong?, SpanLike.Denotes, SpanLike.IsForm, SpanLike.Refused,
  SpanLike.toSpan_cases, SpanLike.toSpan_eq_ok_iff, SpanLike.toSpan_eq_error_iff, SpanLike.toSpan_accepts_forms,
  SpanLike.toSpan_raises
-/

import Marginalia.Label
import Marginalia.Proofs.Span.Construction
import Marginalia.Proofs.Text.Numerals

namespace Marginalia

open Value

variable {v : Value}

theorem Value.isIntFrom_int {least : Nat} {n : Int} : IsIntFrom least (.int n) ↔ least ≤ n := by
  simp [IsIntFrom]

/-!
### Numbers that are shown and checked
-/

/-- What a constructor takes can be checked too. -/
theorem SpanField.check_of_read (field : SpanField) {n : { n : Nat // field.least ≤ n }}
    (taken : field.read v = .ok n) : field.check v = .ok n := by
  rw [read] at taken
  split at taken
  next => cases taken
  next => exact taken

/-- The numbers of a span are too long where the values that show them are. -/
theorem SpanField.findSome?_tooLong? (numbers : List (SpanField × Nat)) :
    numbers.findSome? (fun number => (Numeral.tooLong? number.2).map SpanFault.unwritable) =
      (tooLongItem? (numbers.map fun number => .int number.2)).map .unwritable := by
  induction numbers with
  | nil => rfl
  | cons number rest ih =>
      have shown : (Value.int number.2).tooLong? = Numeral.tooLong? number.2 := rfl
      rw [List.findSome?_cons, ih, List.map_cons, tooLongItem?, shown]
      cases Numeral.tooLong? number.2 <;> rfl

/-!
### Constructors within their bounds
-/

/-- Two numbers within their bounds make a range of octets unless one of them is too long. -/
theorem OctetRange.ofValues_of_bounds {start length : Int} (from_zero : 0 ≤ start) (some_octets : 1 ≤ length) :
    ofValues SpanField.read (.int start) (.int length) =
      match tooLongItem? [.int start, .int length] with
      | some number => .error (.unwritable number)
      | none => .ok ⟨start.toNat, length.toNat, SpanField.octetLength.least_le_toNat some_octets⟩ := by
  lift start to Nat using from_zero
  lift length to Nat using by omega
  have built := ofValues_eq SpanField.read_refuses ⟨start, length, Int.ofNat_le.1 some_octets⟩
  rw [SpanField.findSome?_tooLong?] at built
  simp only [numbers, List.map_cons, List.map_nil] at built
  rw [built]
  cases tooLongItem? [.int start, .int length] <;> rfl

/-- Four numbers within their bounds make a position unless one of them is too long. -/
theorem Position.ofValues_of_bounds {startLine startColumn endLine endColumn : Int} (start_line : 1 ≤ startLine)
    (start_column : 1 ≤ startColumn) (end_line : 1 ≤ endLine) (end_column : 1 ≤ endColumn) :
    ofValues SpanField.read (.int startLine) (.int startColumn) (.int endLine) (.int endColumn) =
      match tooLongItem? [.int startLine, .int startColumn, .int endLine, .int endColumn] with
      | some number => .error (.unwritable number)
      | none => .ok (.between
          ⟨startLine.toNat, startColumn.toNat, SpanField.startLine.least_le_toNat start_line,
            SpanField.startColumn.least_le_toNat start_column⟩
          ⟨endLine.toNat, endColumn.toNat, SpanField.endLine.least_le_toNat end_line,
            SpanField.endColumn.least_le_toNat end_column⟩) := by
  lift startLine to Nat using by omega
  lift startColumn to Nat using by omega
  lift endLine to Nat using by omega
  lift endColumn to Nat using by omega
  have built := ofValues_eq SpanField.read_refuses
    (.between ⟨startLine, startColumn, Int.ofNat_le.1 start_line, Int.ofNat_le.1 start_column⟩
      ⟨endLine, endColumn, Int.ofNat_le.1 end_line, Int.ofNat_le.1 end_column⟩)
  rw [SpanField.findSome?_tooLong?] at built
  simp only [numbers, between, stopValue, List.map_cons, List.map_nil, List.cons_append, List.nil_append] at built
  rw [built]
  cases tooLongItem? [.int startLine, .int startColumn, .int endLine, .int endColumn] <;> rfl

/-- What a reader takes that is no stricter than another, a constructor takes from it too. -/
theorem OctetRange.ofValues_mono {read other : SpanReader} {start length : Value} {r : OctetRange}
    (taken : ∀ (field : SpanField) v n, read field v = .ok n → other field v = .ok n)
    (built : ofValues read start length = .ok r) : ofValues other start length = .ok r := by
  rcases bind_eq_ok_iff.1 built with ⟨first, at_start, built⟩
  rcases bind_eq_ok_iff.1 built with ⟨count, at_length, built⟩
  rw [ofValues, taken _ _ _ at_start]
  simp only [bind, Except.bind, taken _ _ _ at_length]
  exact built

theorem Position.ofValues_mono {read other : SpanReader} {startLine startColumn endLine endColumn : Value}
    {p : Position} (taken : ∀ (field : SpanField) v n, read field v = .ok n → other field v = .ok n)
    (built : ofValues read startLine startColumn endLine endColumn = .ok p) :
    ofValues other startLine startColumn endLine endColumn = .ok p := by
  rcases bind_eq_ok_iff.1 built with ⟨line, at_line, built⟩
  rcases bind_eq_ok_iff.1 built with ⟨column, at_column, built⟩
  rw [ofValues, taken _ _ _ at_line]
  simp only [bind, Except.bind, taken _ _ _ at_column]
  split at built
  next => exact built
  next => cases built
  next => cases built
  next =>
    rcases bind_eq_ok_iff.1 built with ⟨line, at_line, built⟩
    rcases bind_eq_ok_iff.1 built with ⟨column, at_column, built⟩
    simp only [taken _ _ _ at_line, taken _ _ _ at_column]
    exact built

/-- What a range of octets is built from keeps its bounds and can be written. -/
theorem OctetRange.bounds_of_ofValues {start length : Int} {r : OctetRange}
    (built : ofValues SpanField.read (.int start) (.int length) = .ok r) :
    (0 ≤ start ∧ 1 ≤ length) ∧ tooLongItem? [.int start, .int length] = none := by
  have checked := ofValues_mono (fun field v n => field.check_of_read) built
  have bounds : 0 ≤ start ∧ 1 ≤ length := by simpa [isIntFrom_int] using (succeeds_ofValues _ _).1 ⟨r, checked⟩
  rw [ofValues_of_bounds bounds.1 bounds.2] at built
  split at built
  next => cases built
  next writable => exact ⟨bounds, writable⟩

theorem Position.bounds_of_ofValues {startLine startColumn endLine endColumn : Int} {p : Position}
    (built : ofValues SpanField.read (.int startLine) (.int startColumn) (.int endLine) (.int endColumn) = .ok p) :
    (1 ≤ startLine ∧ 1 ≤ startColumn ∧ 1 ≤ endLine ∧ 1 ≤ endColumn) ∧
      tooLongItem? [.int startLine, .int startColumn, .int endLine, .int endColumn] = none := by
  have checked := ofValues_mono (fun field v n => field.check_of_read) built
  have bounds : 1 ≤ startLine ∧ 1 ≤ startColumn ∧ 1 ≤ endLine ∧ 1 ≤ endColumn := by
    simpa [isIntFrom_int] using (succeeds_ofValues _ _ _ _).1 ⟨p, checked⟩
  rw [ofValues_of_bounds bounds.1 bounds.2.1 bounds.2.2.1 bounds.2.2.2] at built
  split at built
  next => cases built
  next writable => exact ⟨bounds, writable⟩

namespace SpanLike

/-!
### Forms
-/

/-- What is given stands for a span: spans for themselves, numbers and ranges of indices for what the constructor
    builds from them, and a carrier for the span that it yields. A fixed sequence stands for what its items do,
    whether or not they have names and its type makes a carrier of it. -/
inductive Denotes : SpanLike → Span → Prop where
  | span (s : Span) : Denotes (.span s) s
  | pair {given : SpanLike} {start length : Int} {r : OctetRange}
      (items : given.items? = some [.int start, .int length])
      (built : OctetRange.ofValues SpanField.read (.int start) (.int length) = .ok r) : Denotes given (.octets r)
  | corners {given : SpanLike} {startLine startColumn endLine endColumn : Int} {p : Position}
      (items : given.items? = some [.int startLine, .int startColumn, .int endLine, .int endColumn])
      (built : Position.ofValues SpanField.read (.int startLine) (.int startColumn) (.int endLine) (.int endColumn) =
        .ok p) : Denotes given (.position p)
  | indices {start stop : Int} {r : OctetRange}
      (built : OctetRange.ofValues SpanField.read (.int start) (.int (stop - start)) = .ok r) :
      Denotes (.range ⟨start, stop, 1⟩) (.octets r)
  | carried (typeName : Text) (s : Span) : Denotes (.carrier typeName (.ok (.span s))) s

/-- The fixed sequences that are taken for spans: two integers from zero and from one on, or four from one on. -/
def ItemsForm (items : List Value) : Prop :=
  (∃ start length, items = [start, length] ∧ start.IsIntFrom 0 ∧ length.IsIntFrom 1) ∨
    items.length = 4 ∧ ∀ v ∈ items, v.IsIntFrom 1

/-- The forms in which a span can be given: as a span, as two integers from zero and from one on, as four integers
    from one on, as an ascending range of indices without gaps that is not empty and starts at zero or later, and
    by a carrier that yields a span. -/
def IsForm : SpanLike → Prop
  | .span _ => True
  | .tuple items => ItemsForm items
  | .namedTuple _ fields _ => ItemsForm (fields.map (·.2))
  | .range r => r.step = 1 ∧ 0 ≤ r.start ∧ r.start < r.stop
  | .carrier _ outcome => ∃ s, outcome = .ok (.span s)
  | .plain _ => False

/-- The fault that names what was given, by its kind; for a carrier that raises one, this fault. -/
inductive Refused : SpanLike → SpanFault → Prop where
  | tuple (items : List Value) : Refused (.tuple items) (.badTuple items)
  | namedTuple (typeName : Text) (fields : List (Text × Value)) (carries : Option (Except ForeignFault SpanLike)) :
      Refused (.namedTuple typeName fields carries) (.badNamedTuple typeName fields)
  | range (r : IndexRange) : Refused (.range r) (.badRange r)
  | carrier (typeName : Text) (yielded : SpanLike) :
      Refused (.carrier typeName (.ok yielded)) (.badCarrier typeName yielded.typeName)
  | raised (typeName : Text) (fault : ForeignFault) : Refused (.carrier typeName (.error fault)) (.raised fault)
  | plain (v : Value) : Refused (.plain v) (.badValue v)

variable {items : List Value} {r : IndexRange} {given : SpanLike} {span : Span} {fault : SpanFault}

theorem itemsForm_pair {start length : Int} : ItemsForm [.int start, .int length] ↔ 0 ≤ start ∧ 1 ≤ length := by
  simp [ItemsForm, isIntFrom_int]

theorem itemsForm_corners {startLine startColumn endLine endColumn : Int} :
    ItemsForm [.int startLine, .int startColumn, .int endLine, .int endColumn] ↔
      1 ≤ startLine ∧ 1 ≤ startColumn ∧ 1 ≤ endLine ∧ 1 ≤ endColumn := by
  simp [ItemsForm, isIntFrom_int]

/-- A fixed sequence of the right form consists of integers. -/
theorem ItemsForm.cases (form : ItemsForm items) :
    (∃ start length : Int, items = [.int start, .int length]) ∨
      ∃ startLine startColumn endLine endColumn : Int,
        items = [.int startLine, .int startColumn, .int endLine, .int endColumn] := by
  rcases form with ⟨_, _, rfl, ⟨start, rfl, -⟩, length, rfl, -⟩ | ⟨four, all⟩
  · exact .inl ⟨start, length, rfl⟩
  · obtain ⟨a, b, c, d, rfl⟩ := List.length_eq_four.1 four
    simp only [List.mem_cons, List.not_mem_nil, or_false, forall_eq_or_imp, forall_eq] at all
    rcases all with ⟨⟨a, rfl, -⟩, ⟨b, rfl, -⟩, ⟨c, rfl, -⟩, ⟨d, rfl, -⟩⟩
    exact .inr ⟨a, b, c, d, rfl⟩

/-!
### What becomes of what is given
-/

/-- How a conversion ends: in the fault of a number that is too long to be shown, in a refusal, or with a span. -/
inductive Converts (given : SpanLike) : Except SpanFault Span → Prop where
  | tooLong {number : Numeral.WriteFault} (long : given.tooLong? = some number) :
      Converts given (.error (.unwritable number))
  | refused {fault : SpanFault} (writable : given.tooLong? = none) (no_form : ¬ given.IsForm)
      (of_kind : given.Refused fault) : Converts given (.error fault)
  | converted {span : Span} (writable : given.tooLong? = none) (is_form : given.IsForm) (meant : given.Denotes span) :
      Converts given (.ok span)

theorem shown_of_items? (listed : given.items? = some items) : given.shown = items := by
  cases given <;> cases listed <;> rfl

theorem isForm_iff_of_items? (listed : given.items? = some items) : given.IsForm ↔ ItemsForm items := by
  cases given <;> cases listed <;> rfl

theorem converts_refusal (no_form : ¬ given.IsForm) (of_kind : given.Refused fault) :
    given.Converts (refusal given.shown fault) := by
  rw [refusal]
  split
  next number long => exact .tooLong long
  next writable => exact .refused writable no_form of_kind

/-- Two numbers within their bounds are converted unless one of them is too long. -/
theorem converts_octets {start length : Int} (from_zero : 0 ≤ start) (some_octets : 1 ≤ length)
    (shown : given.shown = [.int start, .int length]) (form : given.IsForm)
    (meant : ∀ {r}, OctetRange.ofValues SpanField.read (.int start) (.int length) = .ok r →
      given.Denotes (.octets r)) :
    given.Converts ((OctetRange.ofValues SpanField.read (.int start) (.int length)).map .octets) := by
  have built := OctetRange.ofValues_of_bounds from_zero some_octets
  rw [built]
  split at built
  next number long => exact .tooLong (by rwa [SpanLike.tooLong?, shown])
  next writable => exact .converted (by rwa [SpanLike.tooLong?, shown]) form (meant built)

/-- Items are taken for a span if they have the right form, and are refused otherwise. -/
theorem converts_ofItems (listed : given.items? = some items) (of_kind : given.Refused fault) :
    given.Converts (ofItems items fault) := by
  have shown := shown_of_items? listed
  have same_form := isForm_iff_of_items? listed
  by_cases form : ItemsForm items
  · rcases form.cases with ⟨start, length, rfl⟩ | ⟨startLine, startColumn, endLine, endColumn, rfl⟩
    · have bounds := itemsForm_pair.1 form
      rw [ofItems, if_pos bounds]
      exact converts_octets bounds.1 bounds.2 shown (same_form.2 form) fun built => .pair listed built
    · have bounds := itemsForm_corners.1 form
      have built := Position.ofValues_of_bounds bounds.1 bounds.2.1 bounds.2.2.1 bounds.2.2.2
      rw [ofItems, if_pos bounds, built]
      split at built
      next number long => exact .tooLong (by rwa [SpanLike.tooLong?, shown])
      next writable =>
        exact .converted (by rwa [SpanLike.tooLong?, shown]) (same_form.2 form) (.corners listed built)
  · have refused : ofItems items fault = refusal given.shown fault := by
      rw [shown]
      unfold ofItems
      split
      next => exact if_neg fun bounds => form (itemsForm_pair.2 bounds)
      next => exact if_neg fun bounds => form (itemsForm_corners.2 bounds)
      next => rfl
    rw [refused]
    exact converts_refusal (fun is_form => form (same_form.1 is_form)) of_kind

theorem shown_of_ascending (form : (SpanLike.range r).IsForm) :
    (SpanLike.range r).shown = [.int r.start, .int (r.stop - r.start)] :=
  if_pos form

theorem converts_ofRange (r : IndexRange) : (SpanLike.range r).Converts (ofRange r) := by
  rcases r with ⟨start, stop, step⟩
  by_cases form : (SpanLike.range ⟨start, stop, step⟩).IsForm
  · have from_zero : 0 ≤ start := form.2.1
    have ascending : start < stop := form.2.2
    have some_octets : 1 ≤ stop - start := by omega
    obtain rfl : step = 1 := form.1
    have taken : ofRange ⟨start, stop, 1⟩ = _ := if_pos form
    rw [taken]
    exact converts_octets from_zero some_octets (shown_of_ascending form) form fun built => .indices built
  · have shown : (SpanLike.range ⟨start, stop, step⟩).shown = IndexRange.bounds ⟨start, stop, step⟩ :=
      if_neg form
    have refused : ofRange ⟨start, stop, step⟩ = _ := if_neg form
    rw [refused, ← shown]
    exact converts_refusal form (.range _)

theorem toSpan_cases (given : SpanLike) : given.Converts given.toSpan := by
  cases given with
  | span s => exact .converted rfl trivial (.span s)
  | tuple items => exact converts_ofItems rfl (.tuple items)
  | namedTuple name fields carries => exact converts_ofItems rfl (.namedTuple name fields carries)
  | range r => exact converts_ofRange r
  | carrier name outcome =>
      cases outcome with
      | error fault =>
          exact .refused rfl (fun form => by rcases form with ⟨_, yields⟩; cases yields) (.raised name fault)
      | ok yielded =>
          cases yielded with
          | span s => exact .converted rfl ⟨s, rfl⟩ (.carried name s)
          | _ => exact .refused rfl (fun form => by rcases form with ⟨_, yields⟩; cases yields) (.carrier name _)
  | plain v => exact converts_refusal id (.plain v)

/-- What stands for a span is in one of the forms, and its numbers can be written. -/
theorem Denotes.form_and_writable (denotes : given.Denotes span) : given.IsForm ∧ given.tooLong? = none := by
  cases denotes with
  | span => exact ⟨trivial, rfl⟩
  | pair items built =>
      rcases OctetRange.bounds_of_ofValues built with ⟨bounds, writable⟩
      rw [isForm_iff_of_items? items, SpanLike.tooLong?, shown_of_items? items]
      exact ⟨itemsForm_pair.2 bounds, writable⟩
  | corners items built =>
      rcases Position.bounds_of_ofValues built with ⟨bounds, writable⟩
      rw [isForm_iff_of_items? items, SpanLike.tooLong?, shown_of_items? items]
      exact ⟨itemsForm_corners.2 bounds, writable⟩
  | @indices start stop r built =>
      rcases OctetRange.bounds_of_ofValues built with ⟨bounds, writable⟩
      have form : (SpanLike.range ⟨start, stop, 1⟩).IsForm := ⟨rfl, bounds.1, by simp only; omega⟩
      rw [SpanLike.tooLong?, shown_of_ascending form]
      exact ⟨form, writable⟩
  | carried => exact ⟨⟨_, rfl⟩, rfl⟩

theorem Denotes.unique {other : Span} (denotes : given.Denotes span) (also : given.Denotes other) : span = other := by
  cases denotes with
  | span => cases also <;> first | rfl | contradiction
  | pair items built =>
      cases also with
      | pair others built' =>
          cases items.symm.trans others
          cases built.symm.trans built'
          rfl
      | corners others => cases items.symm.trans others
      | _ => cases items
  | corners items built =>
      cases also with
      | corners others built' =>
          cases items.symm.trans others
          cases built.symm.trans built'
          rfl
      | pair others => cases items.symm.trans others
      | _ => cases items
  | indices built =>
      cases also with
      | indices built' =>
          cases built.symm.trans built'
          rfl
      | _ => contradiction
  | carried => cases also <;> first | rfl | contradiction

/-- The conversion gives what is meant. -/
theorem toSpan_eq_ok_iff : given.toSpan = .ok span ↔ given.Denotes span := by
  have ends := toSpan_cases given
  constructor
  · intro converted
    rw [converted] at ends
    cases ends with
    | converted _ _ meant => exact meant
  · intro denotes
    have possible := denotes.form_and_writable
    generalize given.toSpan = outcome at ends
    cases ends with
    | tooLong long => rw [possible.2] at long; cases long
    | refused _ no_form => exact absurd possible.1 no_form
    | converted _ _ meant => rw [meant.unique denotes]

/-- Every form is converted whose numbers can be written, and nothing else is. -/
theorem succeeds_toSpan : Succeeds given.toSpan ↔ given.IsForm ∧ given.tooLong? = none := by
  have ends := toSpan_cases given
  constructor
  · intro converted
    rcases converted with ⟨span, converted⟩
    exact (toSpan_eq_ok_iff.1 converted).form_and_writable
  · intro possible
    generalize given.toSpan = outcome at ends
    cases ends with
    | tooLong long => rw [possible.2] at long; cases long
    | refused _ no_form => exact absurd possible.1 no_form
    | converted => exact ⟨_, rfl⟩

theorem Refused.unique {other : SpanFault} (refused : given.Refused fault) (also : given.Refused other) :
    fault = other := by
  cases refused <;> cases also <;> rfl

/-- A conversion fails over the first number that is too long to be written, or else over what is in no form. -/
theorem toSpan_eq_error_iff : given.toSpan = .error fault ↔
    (∃ number, given.tooLong? = some number ∧ fault = .unwritable number) ∨
      given.tooLong? = none ∧ ¬ given.IsForm ∧ given.Refused fault := by
  have ends := toSpan_cases given
  generalize given.toSpan = outcome at ends
  cases ends with
  | tooLong long => simp [long, eq_comm]
  | refused writable no_form of_kind =>
      simp only [Except.error.injEq, writable, reduceCtorEq, false_and, exists_false, false_or, no_form,
        not_false_eq_true, true_and]
      exact ⟨fun same => same ▸ of_kind, fun also => of_kind.unique also⟩
  | converted writable is_form => simp [writable, is_form]

/-- The fault of a refusal is one of spans, except where a carrier raised it. -/
theorem Refused.typeName_eq (refused : given.Refused fault) :
    fault.typeName = "SpanError" ∨
      ∃ name raised, given = .carrier name (.error raised) ∧ fault = .raised raised := by
  cases refused with
  | raised name fault => exact .inr ⟨name, fault, rfl, rfl⟩
  | _ => exact .inl rfl

/-- What is in one of the forms is converted to the span that it stands for, provided that the numbers shown on the
    way can be written, and nothing else is converted. What is in none of the forms is refused with the fault of its
    kind, which is a fault of spans, except that a carrier's own fault is passed on; no constructor refuses
    anything. A conversion changes nothing about a span. Where a range of indices is converted, the same numbers given
    as a pair and as a range of octets are converted alike, and a label on a list is a label on the fixed sequence
    of its items. -/
theorem toSpan_accepts_forms (given : SpanLike) :
    (∀ span, given.toSpan = .ok span ↔ given.Denotes span) ∧
    (Succeeds given.toSpan ↔ given.IsForm ∧ given.tooLong? = none) ∧
    (∀ fault, given.toSpan = .error fault ↔
      (∃ number, given.tooLong? = some number ∧ fault = .unwritable number) ∨
        given.tooLong? = none ∧ ¬ given.IsForm ∧ given.Refused fault) ∧
    (∀ fault, given.Refused fault → fault.typeName = "SpanError" ∨
      ∃ name raised, given = .carrier name (.error raised) ∧ fault = .raised raised) ∧
    (∀ span, given.toSpan = .ok span → (SpanLike.span span).toSpan = .ok span) ∧
    (∀ start stop span, given = .range ⟨start, stop, 1⟩ → given.toSpan = .ok span →
      (SpanLike.tuple [.int start, .int (stop - start)]).toSpan = .ok span ∧
        ∃ r, OctetRange.ofValues SpanField.read (.int start) (.int (stop - start)) = .ok r ∧ span = .octets r ∧
          (SpanLike.span (.octets r)).toSpan = .ok span) ∧
    ∀ items message priority source, given = .tuple items →
      (Label.make (.plain (.list items)) message priority source).toSpan = given.toSpan ∧
        (Label.make given message priority source).toSpan = given.toSpan := by
  refine ⟨fun span => toSpan_eq_ok_iff, succeeds_toSpan, fun fault => toSpan_eq_error_iff,
    fun fault => Refused.typeName_eq, fun span _ => rfl, ?_, ?_⟩
  · rintro start stop span rfl converted
    cases toSpan_eq_ok_iff.1 converted with
    | indices built => exact ⟨toSpan_eq_ok_iff.2 (.pair rfl built), _, built, rfl, rfl⟩
    | pair items => cases items
    | corners items => cases items
  · rintro items message priority source rfl
    exact ⟨rfl, rfl⟩

/-- The indices two, three and four, and the same octets as a pair of numbers. -/
theorem toSpan_accepts_forms_indices :
    (SpanLike.range ⟨2, 5, 1⟩).toSpan = .ok (.octets ⟨2, 3, by decide⟩) ∧
      (SpanLike.tuple [.int 2, .int 3]).toSpan = .ok (.octets ⟨2, 3, by decide⟩) := by
  have converted : (SpanLike.range ⟨2, 5, 1⟩).toSpan = .ok (.octets ⟨2, 3, by decide⟩) := rfl
  rcases toSpan_accepts_forms (.range ⟨2, 5, 1⟩) with ⟨-, -, -, -, -, alike, -⟩
  exact ⟨converted, (alike 2 5 _ rfl converted).1⟩

/-- Faults other than those of spans get out: a carrier's own, and that of a number with one digit too many, be it in
    a pair that is in order or in one that is not. A fixed sequence of three items is refused even though its type
    makes a carrier of it that would yield a span. -/
theorem toSpan_raises :
    (∃ fault, (SpanLike.carrier "Token" (.error ⟨"KeyError", "'start'"⟩)).toSpan = .error fault ∧
      fault.typeName = "KeyError") ∧
    (∃ fault, (SpanLike.namedTuple "Token" [("kind", .int 0), ("start", .int 2), ("stop", .int 5)]
        (some (.ok (.span (.octets ⟨2, 3, by decide⟩))))).toSpan = .error fault ∧ fault.typeName = "SpanError") ∧
    ((SpanLike.tuple [.int 0, .int (10 ^ 4300)]).IsForm ∧
      ∃ fault, (SpanLike.tuple [.int 0, .int (10 ^ 4300)]).toSpan = .error fault ∧ fault.typeName = "ValueError") ∧
    ∃ fault, (SpanLike.tuple [.int (-10 ^ 4300), .int 1]).toSpan = .error fault ∧ fault.typeName = "ValueError" := by
  have one_more : (10 : Int) ^ 4300 = ((10 ^ Numeral.digitLimit : Nat) : Int) := by
    rw [Numeral.digitLimit, Nat.cast_pow]
    rfl
  rw [one_more]
  generalize number : 10 ^ Numeral.digitLimit = n
  have unwritable : ¬ Numeral.Writable n := by
    rw [Numeral.writable_iff, number]
    exact Nat.lt_irrefl n
  have long (m : Int) (size : m.natAbs = n) : (Value.int m).tooLong? = some ⟨n⟩ :=
    Numeral.tooLong?_eq_some_iff.2 (Numeral.write_eq_error_iff.2 ⟨size ▸ unwritable, by rw [size]⟩)
  refine ⟨⟨_, rfl, rfl⟩, ⟨_, rfl, rfl⟩, ⟨itemsForm_pair.2 ⟨le_rfl, ?_⟩, ?_⟩, ?_⟩
  · have some_octets : 0 < n := number ▸ Nat.pow_pos (by decide)
    omega
  · refine ⟨.unwritable ⟨n⟩, toSpan_eq_error_iff.2 (.inl ⟨⟨n⟩, ?_, rfl⟩), rfl⟩
    have second := long n (Int.natAbs_natCast n)
    simp only [SpanLike.tooLong?, SpanLike.shown, tooLongItem?, second]
    rfl
  · refine ⟨.unwritable ⟨n⟩, toSpan_eq_error_iff.2 (.inl ⟨⟨n⟩, ?_, rfl⟩), rfl⟩
    have first := long (-n) (by omega)
    simp only [SpanLike.tooLong?, SpanLike.shown, tooLongItem?, first]
    rfl

end SpanLike

end Marginalia
