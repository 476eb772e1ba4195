/-
Module: Marginalia.SyntaxNode
Purpose: Spans of syntax nodes. A parser that counts columns in octets gives every node its first line and
  offset and, if it knows them, its last ones. With a source at hand an offset becomes a column of code
  points; an offset inside a code point counts the code points before it, and one past the end of the line
  all of them. Without the line the offset itself serves, and the numbers that the node gives may be too long
  for the messages of the constructor.
Main exports: SyntaxNode, SyntaxNode.reader, SyntaxNode.span, SyntaxNode.leftmostSpan, NodeFault
-/

import Marginalia.Source
import Marginalia.Span.Basic

namespace Marginalia

/-- The attributes of a node; one that is missing is null. -/
structure SyntaxNode where
  line : Value := .null
  offset : Value := .null
  endLine : Value := .null
  endOffset : Value := .null

/-- Why a node has no span although it has a line. -/
inductive NodeFault where
  | line (fault : LineFault)
  | encode (fault : Utf8.EncodeFault)
  | span (fault : SpanFault)

/-- The wording of a fault. -/
def NodeFault.message : NodeFault → Text
  | .line fault => fault.message
  | .encode fault => fault.message
  | .span fault => fault.message

namespace SyntaxNode

/-- The octets in front of an offset; a negative offset counts from the end. -/
def frontOctets (octets : Octets) (offset : Int) : Octets :=
  if 0 ≤ offset then octets.take offset.toNat
  else octets.take (octets.length + offset).toNat

/-- An attribute as a number. One that is absent counts as zero. -/
def offsetOf (v : Value) : Int := v.comparedInt?.getD 0

/-- The column of an offset into a line. -/
def column (source : Option Source) (line : Value) (offset : Int) : Except NodeFault Int := do
  let text ← match source with
    | none => pure none
    | some source => (source.lineOf line).mapError .line
  match text with
  | none => return offset + 1
  | some text =>
    let octets ← (Utf8.encodeStrict text).mapError .encode
    return (Utf8.decodeSkipping (frontOctets octets offset)).length + 1

/-- Whether a value can be the line of a node: an integer, or a boolean standing for one, from one on. -/
def isLine (v : Value) : Bool :=
  match v.comparedInt? with
  | some n => 1 ≤ n
  | none => false

/-- Whether a source has a line, so that columns are counted in it. -/
def hasLine (source : Option Source) (line : Value) : Bool :=
  match source with
  | none => false
  | some source =>
    match source.lineOf line with
    | .ok (some _) => true
    | _ => false

/-- The line on which a number of a node's span is. -/
def lineUnder (node : SyntaxNode) : SpanField → Value
  | .endLine | .endColumn => node.endLine
  | _ => node.line

/-- How the constructor takes the numbers of a node. The number of a line that the source has, and a column that is
    counted in it, are no larger than the content is long, and that is written in far fewer digits than a number may
    have; so the limit matters only for numbers that the node itself gives. -/
def reader (node : SyntaxNode) (source : Option Source) : SpanReader := fun field given =>
  if hasLine source (node.lineUnder field) then field.check given else field.read given

/-- The span of a node: none if it has no line, a point if its end is not known. -/
def span (node : SyntaxNode) (source : Option Source) : Except NodeFault (Option Position) := do
  if !isLine node.line then return none
  let start ← column source node.line (offsetOf node.offset)
  let position ← match node.endLine, node.endOffset with
    | .null, _ | _, .null => pure (Position.ofValues (node.reader source) node.line (.int start) .null .null)
    | endLine, endOffset => do
      let stop ← column source endLine (offsetOf endOffset)
      pure (Position.ofValues (node.reader source) node.line (.int start) endLine (.int stop))
  return some (← position.mapError .span)

/-- The span of the first node that has one. -/
def leftmostSpan (source : Option Source) : List (Option SyntaxNode) → Except NodeFault (Option Position)
  | [] => .ok none
  | none :: rest => leftmostSpan source rest
  | some node :: rest => do
    match ← node.span source with
    | some position => return some position
    | none => leftmostSpan source rest

end SyntaxNode

end Marginalia
