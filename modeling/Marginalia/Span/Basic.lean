/-
Module: Marginalia.Span.Basic
Purpose: The three ways to say where in a source something is: a position given by cells, a range of octets,
  and a search for a pattern near a line. All numbers are at least one, an octet offset at least zero and a
  pattern is not empty; the types carry these bounds. Values of unknown shape pass through the checked
  constructors, which refuse the first number that breaks its bound; given the numbers of a span they give
  the span back. A constructor makes up the message of a refusal before it knows whether there is one, so that
  a number that is too long to be written ends it even where it keeps its bound.
Main exports: Position, OctetRange, Search, Span, SpanField, SpanFault, SpanReader, SpanField.check,
  SpanField.read, Position.ofValues, OctetRange.ofValues, Search.ofMembers, SpanReader.Refuses,
  Position.ofValues_eq, OctetRange.ofValues_eq, Search.ofValues_eq, Position.ofValues_numbers,
  OctetRange.ofValues_numbers, Search.ofValues_numbers
-/

import Marginalia.Cell
import Marginalia.Value

namespace Marginalia

/-- A place given by cells. Without a stop it is a point; the stop is the cell behind the last one. -/
structure Position where
  start : Cell
  stop : Option Cell
deriving DecidableEq

/-- A half-open range of octets of a source's encoded content. -/
@[ext]
structure OctetRange where
  start : Nat
  length : Nat
  length_pos : 1 ≤ length

instance : DecidableEq OctetRange := fun _ _ => decidable_of_iff _ OctetRange.ext_iff.symm

/-- The leftmost occurrence of a pattern in a window of lines. Only the first line of the window is searched
    from a column on, the others from their start. -/
@[ext]
structure Search where
  line : Nat
  pattern : Text
  afterColumn : Nat
  maxLines : Nat
  line_pos : 1 ≤ line
  pattern_ne : pattern ≠ []
  afterColumn_pos : 1 ≤ afterColumn
  maxLines_pos : 1 ≤ maxLines

instance : DecidableEq Search := fun _ _ => decidable_of_iff _ Search.ext_iff.symm

/-- A place in a source. -/
inductive Span where
  | position (p : Position)
  | octets (r : OctetRange)
  | search (s : Search)
deriving DecidableEq

namespace Position

/-- A point. -/
def point (cell : Cell) : Position := ⟨cell, none⟩

/-- The stretch from one cell up to another. -/
def between (start stop : Cell) : Position := ⟨start, some stop⟩

/-- Whether a position is a point. -/
def isPoint (p : Position) : Bool := p.stop.isNone

/-- Line, first column and the column behind the last one, when the position sits on one line. A point
    covers one column. -/
def singleLineRange? (p : Position) : Option (Nat × Nat × Nat) :=
  match p.stop with
  | none => some (p.start.line, p.start.column, p.start.column + 1)
  | some stop =>
    if stop.line = p.start.line then some (p.start.line, p.start.column, stop.column) else none

end Position

namespace OctetRange

/-- The offset behind the last octet. -/
def stop (r : OctetRange) : Nat := r.start + r.length

end OctetRange

namespace Search

/-- The last line of the window. -/
def lastLine (s : Search) : Nat := s.line + s.maxLines - 1

/-- The point that stands in for a pattern that is not found. -/
def fallback (s : Search) : Position := .point ⟨s.line, s.afterColumn, s.line_pos, s.afterColumn_pos⟩

end Search

/-!
### Checked construction
-/

/-- A number that a span is built from. -/
inductive SpanField where
  | startLine
  | startColumn
  | endLine
  | endColumn
  | octetStart
  | octetLength
  | searchLine
  | afterColumn
  | maxLines
deriving DecidableEq, Repr

/-- The name of a number, as messages give it. -/
def SpanField.name : SpanField → Text
  | .startLine => "start_line"
  | .startColumn => "start_column"
  | .endLine => "end_line"
  | .endColumn => "end_column"
  | .octetStart => "byte start"
  | .octetLength => "byte length"
  | .searchLine => "search line"
  | .afterColumn => "after_column"
  | .maxLines => "max_lines"

/-- The least admissible number: offsets start at zero, all else at one. -/
def SpanField.least : SpanField → Nat
  | .octetStart => 0
  | _ => 1

/-- The bounds of a range of indices before it is known to be usable. -/
structure IndexRange where
  start : Int
  stop : Int
  step : Int
deriving DecidableEq

/-- Why something is no span. All but the last two are faults of spans proper: a number too long for the message
    that shows it is a fault of numerals, and what a carrier raises is its own. -/
inductive SpanFault where
  | outOfDomain (field : SpanField) (given : Value)
  | unpairedEnd
  | badPattern
  | badTuple (items : List Value)
  | badNamedTuple (typeName : Text) (fields : List (Text × Value))
  | badRange (range : IndexRange)
  | badValue (given : Value)
  | badCarrier (carrier yielded : Text)
  | unwritable (fault : Numeral.WriteFault)
  | raised (fault : ForeignFault)

/-- A range of indices as a message shows it; a step of one is left out. -/
def IndexRange.display (r : IndexRange) : Text :=
  let step := if r.step = 1 then [] else Text.of ", " ++ Text.ofInt r.step
  Text.of "range(" ++ Text.ofInt r.start ++ Text.of ", " ++ Text.ofInt r.stop ++ step ++ Text.of ")"

/-- The wording of the refusal of a fixed sequence. -/
def SpanFault.tupleRefusal (shown : Text) : Text :=
  Text.of "cannot convert tuple to span: " ++ shown ++
    Text.of "; expected (start, length) with start >= 0 and length >= 1, " ++
    Text.of "or (start_line, start_col, end_line, end_col) with all values >= 1"

/-- The wording of a fault. -/
def SpanFault.message : SpanFault → Text
  | .outOfDomain field given =>
    field.name ++ Text.of " must be an int >= " ++ Text.ofNat field.least ++ Text.of ", got " ++
      given.display
  | .unpairedEnd => "end_line and end_column must be given together"
  | .badPattern => "search pattern must be a non-empty string"
  | .badTuple items => tupleRefusal (Value.displayTuple items)
  | .badNamedTuple typeName fields => tupleRefusal (Value.displayNamedTuple typeName fields)
  | .badRange range =>
    Text.of "cannot convert range to span: " ++ range.display ++
      Text.of "; ranges must be non-empty, ascending, step 1, and start at >= 0"
  | .badValue given =>
    Text.of "cannot convert " ++ given.typeName ++ Text.of " to span: " ++ given.display
  | .badCarrier carrier yielded =>
    carrier ++ Text.of ".to_span() returned " ++ yielded ++ Text.of ", not a span"
  | .unwritable fault => fault.message
  | .raised fault => fault.message

/-- The name of the type of a fault. -/
def SpanFault.typeName : SpanFault → Text
  | .unwritable _ => "ValueError"
  | .raised fault => fault.typeName
  | _ => "SpanError"

/-- An integer that keeps the bound of a number keeps it as a natural number. -/
theorem SpanField.least_le_toNat {field : SpanField} {n : Int} (h : (field.least : Int) ≤ n) :
    field.least ≤ n.toNat := by
  omega

/-- A way to take the numbers of a span from what is given for them. -/
abbrev SpanReader : Type := (field : SpanField) → Value → Except SpanFault { n : Nat // field.least ≤ n }

/-- A number of a span, checked: it must be an integer that keeps its bound. -/
def SpanField.check : SpanReader := fun field given =>
  match given with
  | .int n =>
    if h : (field.least : Int) ≤ n then .ok ⟨n.toNat, SpanField.least_le_toNat h⟩
    else .error (.outOfDomain field given)
  | _ => .error (.outOfDomain field given)

/-- A number of a span as a constructor takes it: what is given is shown in the message of a refusal first, and
    checked then. -/
def SpanField.read : SpanReader := fun field given =>
  match given.tooLong? with
  | some fault => .error (.unwritable fault)
  | none => field.check given

/-- A position from its four numbers. The end is absent when both of its numbers are null. -/
def Position.ofValues (read : SpanReader) (startLine startColumn endLine endColumn : Value) :
    Except SpanFault Position := do
  let line ← read .startLine startLine
  let column ← read .startColumn startColumn
  let start : Cell := ⟨line.1, column.1, line.2, column.2⟩
  match endLine, endColumn with
  | .null, .null => return .point start
  | .null, _ => throw .unpairedEnd
  | _, .null => throw .unpairedEnd
  | endLine, endColumn =>
    let line ← read .endLine endLine
    let column ← read .endColumn endColumn
    return .between start ⟨line.1, column.1, line.2, column.2⟩

/-- A range of octets from its two numbers. -/
def OctetRange.ofValues (read : SpanReader) (start length : Value) : Except SpanFault OctetRange := do
  let start ← read .octetStart start
  let length ← read .octetLength length
  return ⟨start.1, length.1, length.2⟩

/-- A search from its four parts. -/
def Search.ofValues (read : SpanReader) (line pattern afterColumn maxLines : Value) : Except SpanFault Search := do
  let line ← read .searchLine line
  match pattern with
  | .text pattern =>
    if h : pattern ≠ [] then
      let column ← read .afterColumn afterColumn
      let count ← read .maxLines maxLines
      return ⟨line.1, pattern, column.1, count.1, line.2, h, column.2, count.2⟩
    else throw .badPattern
  | _ => throw .badPattern

/-!
### Spans from their own numbers
-/

/-- A reader refuses some of the numbers that keep their bounds, each with a fault of its own, and takes the others
    for what they are. -/
def SpanReader.Refuses (read : SpanReader) (refusal? : SpanField → Nat → Option SpanFault) : Prop :=
  ∀ (field : SpanField) (n : Nat) (keeps : field.least ≤ n),
    read field (.int n) = match refusal? field n with
      | some fault => .error fault
      | none => .ok ⟨n, keeps⟩

/-- The check refuses no number that keeps its bound. -/
theorem SpanField.check_refuses : SpanReader.Refuses SpanField.check fun _ _ => none := by
  intro field n keeps
  rw [check, dif_pos (Int.ofNat_le.2 keeps)]
  rfl

/-- A constructor refuses the numbers that are too long to be written. -/
theorem SpanField.read_refuses :
    SpanReader.Refuses SpanField.read fun _ n => (Numeral.tooLong? n).map .unwritable := by
  intro field n keeps
  have shown : (Value.int n).tooLong? = Numeral.tooLong? n := rfl
  simp only [read, shown]
  cases Numeral.tooLong? n with
  | some number => rfl
  | none => exact check_refuses field n keeps

/-- The value for a number of a position's stop; null where there is no stop. -/
def Position.stopValue (p : Position) (number : Cell → Nat) : Value :=
  match p.stop with
  | none => .null
  | some stop => .int (number stop)

/-- The numbers of a position in the order in which its constructor takes them. -/
def Position.numbers (p : Position) : List (SpanField × Nat) :=
  [(.startLine, p.start.line), (.startColumn, p.start.column)] ++
    match p.stop with
    | none => []
    | some stop => [(.endLine, stop.line), (.endColumn, stop.column)]

/-- The numbers of a range of octets. -/
def OctetRange.numbers (r : OctetRange) : List (SpanField × Nat) := [(.octetStart, r.start), (.octetLength, r.length)]

/-- The numbers of a search. -/
def Search.numbers (s : Search) : List (SpanField × Nat) :=
  [(.searchLine, s.line), (.afterColumn, s.afterColumn), (.maxLines, s.maxLines)]

section

variable {read : SpanReader} {refusal? : SpanField → Nat → Option SpanFault}

/-- From the numbers of a position the constructor gives the position back, or the fault of the first of them that is
    refused. -/
theorem Position.ofValues_eq (refuses : read.Refuses refusal?) (p : Position) :
    ofValues read (.int p.start.line) (.int p.start.column) (p.stopValue Cell.line) (p.stopValue Cell.column) =
      match p.numbers.findSome? fun number => refusal? number.1 number.2 with
      | some fault => .error fault
      | none => .ok p := by
  rcases p with ⟨⟨line, column, line_pos, column_pos⟩, stop⟩
  rw [ofValues, refuses .startLine line line_pos, refuses .startColumn column column_pos]
  -- The numbers are taken one after the other, and the first that is refused ends it.
  cases at_line : refusal? .startLine line with
  | some fault => simp [numbers, at_line, bind, Except.bind]
  | none =>
      cases at_column : refusal? .startColumn column with
      | some fault => simp [numbers, at_line, at_column, bind, Except.bind]
      | none =>
          cases stop with
          | none => simp [numbers, stopValue, at_line, at_column, bind, Except.bind, pure, Except.pure, point]
          | some stop =>
              rcases stop with ⟨stop_line, stop_column, stop_line_pos, stop_column_pos⟩
              simp only [stopValue]
              rw [refuses .endLine stop_line stop_line_pos, refuses .endColumn stop_column stop_column_pos]
              cases at_stop_line : refusal? .endLine stop_line with
              | some fault => simp [numbers, at_line, at_column, at_stop_line, bind, Except.bind]
              | none =>
                  cases at_stop_column : refusal? .endColumn stop_column with
                  | some fault => simp [numbers, at_line, at_column, at_stop_line, at_stop_column, bind, Except.bind]
                  | none =>
                      simp [numbers, at_line, at_column, at_stop_line, at_stop_column, bind, Except.bind, pure,
                        Except.pure, between]

theorem OctetRange.ofValues_eq (refuses : read.Refuses refusal?) (r : OctetRange) :
    ofValues read (.int r.start) (.int r.length) =
      match r.numbers.findSome? fun number => refusal? number.1 number.2 with
      | some fault => .error fault
      | none => .ok r := by
  rw [ofValues, refuses .octetStart r.start (Nat.zero_le r.start), refuses .octetLength r.length r.length_pos]
  cases at_start : refusal? .octetStart r.start with
  | some fault => simp [numbers, at_start, bind, Except.bind]
  | none =>
      cases at_length : refusal? .octetLength r.length with
      | some fault => simp [numbers, at_start, at_length, bind, Except.bind]
      | none => simp [numbers, at_start, at_length, bind, Except.bind, pure, Except.pure]

theorem Search.ofValues_eq (refuses : read.Refuses refusal?) (s : Search) :
    ofValues read (.int s.line) (.text s.pattern) (.int s.afterColumn) (.int s.maxLines) =
      match s.numbers.findSome? fun number => refusal? number.1 number.2 with
      | some fault => .error fault
      | none => .ok s := by
  rw [ofValues, refuses .searchLine s.line s.line_pos]
  simp only [dif_pos s.pattern_ne]
  rw [refuses .afterColumn s.afterColumn s.afterColumn_pos, refuses .maxLines s.maxLines s.maxLines_pos]
  cases at_line : refusal? .searchLine s.line with
  | some fault => simp [numbers, at_line, bind, Except.bind]
  | none =>
      cases at_column : refusal? .afterColumn s.afterColumn with
      | some fault => simp [numbers, at_line, at_column, bind, Except.bind]
      | none =>
          cases at_count : refusal? .maxLines s.maxLines with
          | some fault => simp [numbers, at_line, at_column, at_count, bind, Except.bind]
          | none => simp [numbers, at_line, at_column, at_count, bind, Except.bind, pure, Except.pure]

end

/-- The constructor of positions accepts the numbers of every position. -/
theorem Position.ofValues_numbers (p : Position) :
    Position.ofValues SpanField.check (.int p.start.line) (.int p.start.column) (p.stopValue Cell.line)
      (p.stopValue Cell.column) = .ok p := by
  rw [ofValues_eq SpanField.check_refuses, List.findSome?_eq_none_iff.2 fun _ _ => rfl]

theorem OctetRange.ofValues_numbers (r : OctetRange) :
    OctetRange.ofValues SpanField.check (.int r.start) (.int r.length) = .ok r := by
  rw [ofValues_eq SpanField.check_refuses, List.findSome?_eq_none_iff.2 fun _ _ => rfl]

theorem Search.ofValues_numbers (s : Search) :
    Search.ofValues SpanField.check (.int s.line) (.text s.pattern) (.int s.afterColumn) (.int s.maxLines) =
      .ok s := by
  rw [ofValues_eq SpanField.check_refuses, List.findSome?_eq_none_iff.2 fun _ _ => rfl]

section

variable {numbers : List (SpanField × Nat)}

/-- Numbers that can all be written. -/
def SpanField.AllWritable (numbers : List (SpanField × Nat)) : Prop :=
  ∀ number ∈ numbers, Numeral.Writable number.2

theorem SpanField.AllWritable.findSome?_eq_none (writable : AllWritable numbers) :
    numbers.findSome? (fun number => (Numeral.tooLong? number.2).map SpanFault.unwritable) = none := by
  rw [List.findSome?_eq_none_iff]
  intro number mem
  have taken : Numeral.tooLong? number.2 = none := Numeral.tooLong?_eq_none_iff.2 (writable number mem)
  rw [taken, Option.map_none]

theorem Position.ofValues_of_writable (p : Position) (writable : SpanField.AllWritable p.numbers) :
    Position.ofValues SpanField.read (.int p.start.line) (.int p.start.column) (p.stopValue Cell.line)
      (p.stopValue Cell.column) = .ok p := by
  rw [ofValues_eq SpanField.read_refuses, writable.findSome?_eq_none]

theorem OctetRange.ofValues_of_writable (r : OctetRange) (writable : SpanField.AllWritable r.numbers) :
    OctetRange.ofValues SpanField.read (.int r.start) (.int r.length) = .ok r := by
  rw [ofValues_eq SpanField.read_refuses, writable.findSome?_eq_none]

theorem Search.ofValues_of_writable (s : Search) (writable : SpanField.AllWritable s.numbers) :
    Search.ofValues SpanField.read (.int s.line) (.text s.pattern) (.int s.afterColumn) (.int s.maxLines) =
      .ok s := by
  rw [ofValues_eq SpanField.read_refuses, writable.findSome?_eq_none]

end

/-!
### Searches from named parts
-/

/-- Named parts that do not fit the parts of a search. -/
inductive PartsFault where
  | unknown (key : Text)
  | reserved
  | missing (keys : List Text)
deriving DecidableEq

/-- The wording of such a fault. -/
def PartsFault.message : PartsFault → Text
  | .unknown key =>
    Text.of "Search.__init__() got an unexpected keyword argument '" ++ key ++ Text.of "'"
  | .reserved => "Search.__init__() got multiple values for argument 'self'"
  | .missing keys =>
    let quoted := keys.map fun key => Text.of "'" ++ key ++ Text.of "'"
    let noun := if keys.length = 1 then Text.of " argument: " else Text.of " arguments: "
    Text.of "Search.__init__() missing " ++ Text.ofNat keys.length ++ Text.of " required positional" ++
      noun ++ (Text.of " and ").intercalate quoted

/-- Why named parts make no search. -/
inductive SearchFault where
  | parts (fault : PartsFault)
  | span (fault : SpanFault)

/-- The wording of the fault. -/
def SearchFault.message : SearchFault → Text
  | .parts fault => fault.message
  | .span fault => fault.message

/-- The parts of a search that must be given. -/
def Search.requiredParts : List Text := [Text.of "line", Text.of "pattern"]

/-- The parts of a search that may be given. -/
def Search.optionalParts : List Text := [Text.of "after_column", Text.of "max_lines"]

/-- The first name that is no part of a search, or else the required parts that are missing. -/
def Search.partsFault? (members : List (Text × Value)) : Option PartsFault :=
  let known := requiredParts ++ optionalParts
  match members.find? fun entry => !known.contains entry.1 with
  | some (key, _) => some (if key = Text.of "self" then .reserved else .unknown key)
  | none =>
    match requiredParts.filter fun key => (Value.member? key members).isNone with
    | [] => none
    | keys => some (.missing keys)

/-- A search from named parts; the column and the number of lines are one unless they are given. -/
def Search.ofMembers (read : SpanReader) (members : List (Text × Value)) : Except SearchFault Search :=
  match partsFault? members with
  | some fault => .error (.parts fault)
  | none =>
    let part (key : String) (default : Value) := (Value.member? (Text.of key) members).getD default
    match ofValues read (part "line" .null) (part "pattern" .null) (part "after_column" (.int 1))
        (part "max_lines" (.int 1)) with
    | .ok search => .ok search
    | .error fault => .error (.span fault)

end Marginalia
