/-
Module: Marginalia.Source
Purpose: A named text that diagnostics point into. The content may be missing: such a source has a name to
  show and no lines. Lines are numbered from one and asked for under a contract (a number must be a positive
  integer, a range must not run backwards) whose breach is a fault, while a number past the last line is
  merely absent. `cellAt?` finds the cell of an octet offset by walking over the encoded content, and an
  offset inside a code point belongs to the start of that code point.
Main exports: Source, Source.lines, Source.line, Source.lineRange, Source.octetLength, Source.cellAt?,
  LineFault
-/

import Marginalia.Cell
import Marginalia.Value
import Marginalia.Text.Utf8

namespace Marginalia

/-- A name and, unless only the name is known, a content. -/
structure Source where
  name : Text
  content : Option Text
deriving DecidableEq

/-- The part that a line number plays in a question. -/
inductive LineRole where
  | line
  | start
  | stop
deriving DecidableEq, Repr

/-- The name of a part, as messages give it. -/
def LineRole.name : LineRole → Text
  | .line => "line"
  | .start => "start"
  | .stop => "end"

/-- A breach of the contract of line numbers. -/
inductive LineFault where
  | notAnInteger (role : LineRole) (typeName : Text)
  | belowOne (role : LineRole) (given : Int)
  | backwards (start stop : Int)
deriving DecidableEq

/-- The wording of a breach. -/
def LineFault.message : LineFault → Text
  | .notAnInteger role typeName => role.name ++ Text.of " must be an int, got " ++ typeName
  | .belowOne role given => role.name ++ Text.of " must be >= 1, got " ++ Text.ofInt given
  | .backwards start stop =>
    Text.of "line_range() end (" ++ Text.ofInt stop ++ Text.of ") must be >= start (" ++
      Text.ofInt start ++ Text.of ")"

namespace Source

/-- A source of which only the name is known. -/
def named (name : Text) : Source := ⟨name, none⟩

/-- A source with a content. -/
def ofText (name content : Text) : Source := ⟨name, some content⟩

/-- A source with the content that some octets encode. -/
def ofOctets (name : Text) (octets : Octets) : Except Utf8.DecodeFault Source :=
  (Utf8.decode octets).map (ofText name)

/-- Whether the content is known. -/
def hasContent (s : Source) : Bool := s.content.isSome

/-- The lines of the content. -/
def lines (s : Source) : Option (List Text) := s.content.map Text.lines

/-- The number of lines; a known content has at least one. -/
def lineCount (s : Source) : Option Nat := s.lines.map List.length

/-- The encoded content. -/
def octets (s : Source) : Option Octets := s.content.map Text.encode

/-- The length of the encoded content. -/
def octetLength (s : Source) : Option Nat := s.octets.map List.length

/-!
### Lines
-/

/-- A line number, checked: it must be an integer and at least one. -/
def lineNumber (role : LineRole) (given : Value) : Except LineFault Nat :=
  match given with
  | .int n => if 1 ≤ n then .ok n.toNat else .error (.belowOne role n)
  | other => .error (.notAnInteger role other.typeName)

/-- The line under a number of unknown type. -/
def lineOf (s : Source) (number : Value) : Except LineFault (Option Text) := do
  let n ← lineNumber .line number
  return s.lines.bind (·[n - 1]?)

/-- The line under a number; past the last line there is none. -/
def line (s : Source) (n : Int) : Except LineFault (Option Text) := s.lineOf (.int n)

/-- Consecutive lines with their numbers, from the given number on. -/
def numbered (first : Nat) : List Text → List (Nat × Text)
  | [] => []
  | text :: rest => (first, text) :: numbered (first + 1) rest

/-- The lines between two numbers of unknown type, both included. -/
def lineRangeOf (s : Source) (start stop : Value) : Except LineFault (List (Nat × Text)) := do
  let first ← lineNumber .start start
  let last ← lineNumber .stop stop
  if last < first then throw (.backwards first last)
  match s.lines with
  | none => return []
  | some lines => return numbered first ((lines.take last).drop (first - 1))

/-- The lines between two numbers, both included, with their numbers; those past the last line are left
    out. -/
def lineRange (s : Source) (start stop : Int) : Except LineFault (List (Nat × Text)) :=
  s.lineRangeOf (.int start) (.int stop)

/-!
### Cells of offsets
-/

/-- Walk over octets while a budget lasts. `skip` counts the octets of the present code point that are
    still to be passed; a code point that would overrun the budget is not entered. -/
def walk (skip budget : Nat) (cell : Cell) : Octets → Cell
  | [] => cell
  | octet :: rest =>
    match skip with
    | skip + 1 => walk skip budget cell rest
    | 0 =>
      if budget = 0 then cell
      else if octet = 0x0A then walk 0 (budget - 1) cell.nextLine rest
      else
        let width := Utf8.leadWidth octet.toNat
        if budget < width then cell
        else walk (width - 1) (budget - width) cell.nextColumn rest

/-- The cell of an offset into the encoded content; none if there is no content or the offset lies
    outside. The offset just past the last octet is inside. -/
def cellAt? (s : Source) (offset : Int) : Option Cell :=
  match s.octets with
  | none => none
  | some octets =>
    if offset < 0 ∨ (octets.length : Int) < offset then none
    else some (walk 0 offset.toNat Cell.first octets)

end Source

end Marginalia
