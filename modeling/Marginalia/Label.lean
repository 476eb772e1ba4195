/-
Module: Marginalia.Label
Purpose: A place in a source with something to say about it. The place is kept as it was given and becomes a
  span only when the label is drawn, so that a diagnostic can be built from unchecked data; a list is
  settled into a fixed sequence at once. A primary label marks the fault itself, a secondary one what has to
  do with it.
Main exports: Priority, Label, Label.make, Label.primary, Label.secondary, Label.toSpan, Label.equals
-/

import Marginalia.Span.Like

namespace Marginalia

/-- Whether a label marks the fault or something around it. -/
inductive Priority where
  | primary
  | secondary
deriving DecidableEq, Repr

/-- The name of a priority in documents. -/
def Priority.name : Priority → Text
  | .primary => "primary"
  | .secondary => "secondary"

/-- The priority that a value names. -/
def Priority.ofValue? (v : Value) : Option Priority :=
  match v with
  | .text t => [Priority.primary, .secondary].find? fun p => p.name = t
  | _ => none

/-- A place with an optional message. A source named here differs from the diagnostic's own. -/
structure Label where
  span : SpanLike
  message : Option Text
  priority : Priority
  source : Option Text

namespace Label

/-- A label from its parts. -/
def make (span : SpanLike) (message : Option Text) (priority : Priority) (source : Option Text) : Label :=
  ⟨span.settled, message, priority, source⟩

/-- A label on the fault itself. -/
def primary (span : SpanLike) (message source : Option Text) : Label := make span message .primary source

/-- A label on something around the fault. -/
def secondary (span : SpanLike) (message source : Option Text) : Label :=
  make span message .secondary source

/-- Whether the label marks the fault itself. -/
def isPrimary (l : Label) : Bool := l.priority = .primary

/-- Whether the label marks something around the fault. -/
def isSecondary (l : Label) : Bool := l.priority = .secondary

/-- The span that the label is on. -/
def toSpan (l : Label) : Except SpanFault Span := l.span.toSpan

/-- Equality part by part. -/
def equals (a b : Label) : Bool :=
  a.span.equals b.span && a.message = b.message && a.priority = b.priority && a.source = b.source

end Label

end Marginalia
