/-
Module: Marginalia.Span.Resolve
Purpose: From a span to the cells it names in a source. A position names its cells itself. An octet range is
  looked up in the encoded content: one that starts outside becomes the first cell, one that runs past the
  end keeps its start only. A search takes the first match in its window of lines and falls back to the
  place where it began. Whatever is not found leaves a notice; without a source there is nothing to look up
  and nothing to note.
Main exports: OctetRange.resolve, Search.resolve, Search.scan, Span.resolve
-/

import Marginalia.Notice
import Marginalia.Source
import Marginalia.Span.Basic

namespace Marginalia

/-- The position of an octet range in a source. -/
def OctetRange.resolve (r : OctetRange) (source : Option Source) : Logged Position :=
  match source with
  | none => pure (.point Cell.first)
  | some source =>
    match source.cellAt? r.start with
    | none => do
      Logged.note (.offsetOutside r.start source.name)
      pure (.point Cell.first)
    | some start =>
      match source.cellAt? r.stop with
      | none => do
        Logged.note (.rangeRunsPast r.start r.length source.name)
        pure (.point start)
      | some stop => pure (.between start stop)

namespace Search

/-- The position of a match: `index` code points into a line, as long as the pattern. -/
def found (s : Search) (line : Nat) (line_pos : 1 ≤ line) (index : Nat) : Position :=
  .between ⟨line, index + 1, line_pos, by omega⟩
    ⟨line, index + 1 + s.pattern.length, line_pos, by omega⟩

/-- Search up to `count` lines from a given one on, the first of them from index `start` on. The scan ends
    at the first match and at the end of the source. -/
def scan (s : Search) (source : Source) (line : Nat) (line_pos : 1 ≤ line) (start : Nat) :
    Nat → Except LineFault (Option Position)
  | 0 => .ok none
  | count + 1 => do
    match ← source.line line with
    | none => return none
    | some text =>
      match Text.firstIndexFrom? s.pattern text start with
      | some index => return some (s.found line line_pos index)
      | none => scan s source (line + 1) (by omega) 0 count

/-- The position of the first match in a source. -/
def resolve (s : Search) (source : Option Source) : Checked LineFault Position :=
  match source with
  | none => pure s.fallback
  | some source => do
    match ← Checked.ofExcept id (s.scan source s.line s.line_pos (s.afterColumn - 1) s.maxLines) with
    | some position => return position
    | none =>
      Checked.ofLogged (Logged.note (.patternMissing s.pattern source.name s.line s.lastLine))
      return s.fallback

end Search

/-- The position of a span in a source. -/
def Span.resolve (s : Span) (source : Option Source) : Checked LineFault Position :=
  match s with
  | .position p => pure p
  | .octets r => Checked.ofLogged (r.resolve source)
  | .search pattern => pattern.resolve source

end Marginalia
