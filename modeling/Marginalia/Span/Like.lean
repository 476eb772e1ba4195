/-
Module: Marginalia.Span.Like
Purpose: What may be given where a span is wanted. Besides a span itself these are a pair of numbers (an
  octet range), four numbers (a position), an ascending range of indices (the octets of the range), and a
  carrier that yields a span. Anything else is refused, and a carrier is refused when what it yields is not
  itself a span. A carrier may raise a fault of its own instead, which is passed on; and a fixed sequence that
  is a carrier as well is taken for the sequence that it is.
Main exports: SpanLike, SpanLike.toSpan, SpanLike.shown, SpanLike.tooLong?, SpanLike.settled,
  SpanLike.equals
-/

import Marginalia.Span.Basic

namespace Marginalia

/-- Something given where a span is wanted. A carrier has a type of its own and yields something else or raises a
    fault; the type of a fixed sequence with named items may make a carrier of it. -/
inductive SpanLike where
  | span (s : Span)
  | tuple (items : List Value)
  | namedTuple (typeName : Text) (fields : List (Text × Value)) (carries : Option (Except ForeignFault SpanLike))
  | range (r : IndexRange)
  | carrier (typeName : Text) (outcome : Except ForeignFault SpanLike)
  | plain (v : Value)

/-- The ways in which bounds fail to make a range of indices at all. -/
inductive IndexRangeFault where
  | notAnIndex (typeName : Text)
  | zeroStep
  | tooFew
  | tooMany (count : Nat)
deriving DecidableEq

/-- The wording of such a failure. -/
def IndexRangeFault.message : IndexRangeFault → Text
  | .notAnIndex typeName =>
    Text.of "'" ++ typeName ++ Text.of "' object cannot be interpreted as an integer"
  | .zeroStep => "range() arg 3 must not be zero"
  | .tooFew => "range expected at least 1 argument, got 0"
  | .tooMany count => Text.of "range expected at most 3 arguments, got " ++ Text.ofNat count

namespace IndexRange

/-- One bound; a boolean counts as zero or one. -/
def bound (v : Value) : Except IndexRangeFault Int :=
  match v.comparedInt? with
  | some n => .ok n
  | none => .error (.notAnIndex v.typeName)

/-- A range from its stop, from its start and stop, or from these and a step other than zero. -/
def ofValues : List Value → Except IndexRangeFault IndexRange
  | [] => .error .tooFew
  | [stop] => return ⟨0, ← bound stop, 1⟩
  | [start, stop] => return ⟨← bound start, ← bound stop, 1⟩
  | [start, stop, step] => do
    let r : IndexRange := ⟨← bound start, ← bound stop, ← bound step⟩
    if r.step = 0 then throw .zeroStep else return r
  | items => .error (.tooMany items.length)

/-- The bounds that a message shows; a step of one is left out. -/
def bounds (r : IndexRange) : List Value :=
  if r.step = 1 then [.int r.start, .int r.stop] else [.int r.start, .int r.stop, .int r.step]

/-- How many indices a range has. -/
def count (r : IndexRange) : Nat :=
  if 0 < r.step then ((r.stop - r.start + r.step - 1) / r.step).toNat
  else ((r.start - r.stop - r.step - 1) / (-r.step)).toNat

/-- Two ranges are equal when they have the same indices in the same order. -/
def equals (a b : IndexRange) : Bool :=
  a.count = b.count &&
    (a.count = 0 || (a.start = b.start && (a.count = 1 || a.step = b.step)))

end IndexRange

namespace SpanLike

/-- The name of the type of something that is not a span. -/
def typeName : SpanLike → Text
  | .span (.position _) => "Position"
  | .span (.octets _) => "Byte"
  | .span (.search _) => "Search"
  | .tuple _ => "tuple"
  | .namedTuple name _ _ => name
  | .range _ => "range"
  | .carrier name _ => name
  | .plain v => v.typeName

/-- A refusal, made up before it is raised: it shows some values, and one of them may be too long for that. -/
def refusal (shown : List Value) (fault : SpanFault) : Except SpanFault Span :=
  match Value.tooLongItem? shown with
  | some number => .error (.unwritable number)
  | none => .error fault

/-- The span of some numbers: two give an octet range, four a position. Else they are refused. -/
def ofItems (items : List Value) (fault : SpanFault) : Except SpanFault Span :=
  match items with
  | [.int start, .int length] =>
    if 0 ≤ start ∧ 1 ≤ length then
      (OctetRange.ofValues SpanField.read (.int start) (.int length)).map .octets
    else refusal items fault
  | [.int startLine, .int startColumn, .int endLine, .int endColumn] =>
    if 1 ≤ startLine ∧ 1 ≤ startColumn ∧ 1 ≤ endLine ∧ 1 ≤ endColumn then
      (Position.ofValues SpanField.read (.int startLine) (.int startColumn) (.int endLine) (.int endColumn)).map
        .position
    else refusal items fault
  | _ => refusal items fault

/-- The octets of an ascending range without gaps. -/
def ofRange (r : IndexRange) : Except SpanFault Span :=
  if r.step = 1 ∧ 0 ≤ r.start ∧ r.start < r.stop then
    (OctetRange.ofValues SpanField.read (.int r.start) (.int (r.stop - r.start))).map .octets
  else refusal r.bounds (.badRange r)

/-- The span that is meant, or the fault of what was given. -/
def toSpan : SpanLike → Except SpanFault Span
  | .span s => .ok s
  | .tuple items => ofItems items (.badTuple items)
  | .namedTuple name fields _ => ofItems (fields.map (·.2)) (.badNamedTuple name fields)
  | .range r => ofRange r
  | .carrier name outcome =>
    match outcome with
    | .error fault => .error (.raised fault)
    | .ok (.span s) => .ok s
    | .ok other => .error (.badCarrier name other.typeName)
  | .plain v => refusal [v] (.badValue v)

/-- The values that a conversion shows in messages, whether these are needed or not. -/
def shown : SpanLike → List Value
  | .span _ | .carrier _ _ => []
  | .tuple items => items
  | .namedTuple _ fields _ => fields.map (·.2)
  | .range r =>
    if r.step = 1 ∧ 0 ≤ r.start ∧ r.start < r.stop then [.int r.start, .int (r.stop - r.start)] else r.bounds
  | .plain v => [v]

/-- The fault of showing what was given: that of its first number that is too long to be written. -/
def tooLong? (given : SpanLike) : Option Numeral.WriteFault := Value.tooLongItem? given.shown

/-- A list, which is how a document writes a fixed sequence, settled into that sequence. -/
def settled : SpanLike → SpanLike
  | .plain (.list items) => .tuple items
  | other => other

/-- The items of a fixed sequence. -/
def items? : SpanLike → Option (List Value)
  | .tuple items => some items
  | .namedTuple _ fields _ => some (fields.map (·.2))
  | _ => none

/-- Equality of what was given. Spans are equal when they are the same span, fixed sequences when they have equal
    items, ranges when they have the same indices; two carriers are never equal. -/
def equals (a b : SpanLike) : Bool :=
  match a.items?, b.items? with
  | some items, some others => Value.equalItems items others
  | _, _ =>
    match a, b with
    | .span s, .span t => s = t
    | .range r, .range q => r.equals q
    | .plain v, .plain w => v.equals w
    | _, _ => false

end SpanLike

end Marginalia
