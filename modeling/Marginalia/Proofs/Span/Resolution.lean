/-
Module: Marginalia.Proofs.Span.Resolution
Purpose: What a span becomes in a source. Resolving never breaks the contract of line numbers, so every span
  has a position in every source. A search that finds its pattern gives a stretch of one line on which the
  pattern stands; a range of octets that ends inside the content gives the stretch between the cells of its
  two ends, and wherever it starts, its first line is one of the content's.
Main exports: Text.isPrefix_drop_of_firstIndex?, Search.scan_succ, Search.scan_succeeds,
  Search.exists_found_of_scan, Span.resolve_succeeds, Span.succeeds_resolve, OctetRange.line_le_of_resolve
-/

import Marginalia.Proofs.Outcome
import Marginalia.Proofs.Source.Boundaries
import Marginalia.Span.Resolve

namespace Marginalia

namespace Text

/-- Where a pattern is found it stands. -/
theorem isPrefix_drop_of_firstIndex? {pattern : Text} :
    ∀ {t : Text} {index : Nat}, firstIndex? pattern t = some index → pattern <+: t.drop index
  | [], index, found => by
      rw [firstIndex?] at found
      split at found
      next empty =>
        rw [empty]
        exact List.nil_prefix
      next => simp at found
  | c :: rest, index, found => by
      rw [firstIndex?] at found
      split at found
      next here =>
        obtain rfl : 0 = index := by simpa using found
        exact List.isPrefixOf_iff_prefix.1 here
      next =>
        rcases Option.map_eq_some_iff.1 found with ⟨later, in_rest, rfl⟩
        rw [List.drop_succ_cons]
        exact isPrefix_drop_of_firstIndex? in_rest

theorem isPrefix_drop_of_firstIndexFrom? {pattern t : Text} {start index : Nat}
    (found : firstIndexFrom? pattern t start = some index) : pattern <+: t.drop index := by
  rcases Option.map_eq_some_iff.1 found with ⟨offset, in_rest, rfl⟩
  have stands := isPrefix_drop_of_firstIndex? in_rest
  rwa [List.drop_drop, Nat.add_comm] at stands

end Text

namespace Search

variable (s : Search) (source : Source)

/-- One line of a scan: it ends at the end of the source or at a match and goes on otherwise. -/
theorem scan_succ (line : Nat) (line_pos : 1 ≤ line) (start count : Nat) (next_pos : 1 ≤ line + 1) :
    s.scan source line line_pos start (count + 1) =
      match source.lines.bind (·[line - 1]?) with
      | none => .ok none
      | some text =>
        match Text.firstIndexFrom? s.pattern text start with
        | some index => .ok (some (s.found line line_pos index))
        | none => s.scan source (line + 1) next_pos 0 count := by
  have step : s.scan source line line_pos start (count + 1) = source.line line >>= fun found =>
      match found with
      | none => .ok none
      | some text =>
        match Text.firstIndexFrom? s.pattern text start with
        | some index => .ok (some (s.found line line_pos index))
        | none => s.scan source (line + 1) next_pos 0 count := rfl
  rw [step, Source.line_eq source line_pos]
  rfl

theorem scan_succeeds (line : Nat) (line_pos : 1 ≤ line) (start count : Nat) :
    Succeeds (s.scan source line line_pos start count) := by
  induction count generalizing line start with
  | zero => exact ⟨none, rfl⟩
  | succ count ih =>
      have next_pos : 1 ≤ line + 1 := Nat.le_add_left 1 line
      rw [s.scan_succ source line line_pos start count next_pos]
      split
      · exact succeeds_ok _
      · split
        · exact succeeds_ok _
        · exact ih (line + 1) next_pos 0

/-- What a scan finds is the pattern, on one line of the source. -/
theorem exists_found_of_scan {position : Position} (line : Nat) (line_pos : 1 ≤ line) (start count : Nat)
    (scanned : s.scan source line line_pos start count = .ok (some position)) :
    ∃ at_line, ∃ at_line_pos : 1 ≤ at_line, ∃ index text, position = s.found at_line at_line_pos index ∧
      source.lines.bind (·[at_line - 1]?) = some text ∧ s.pattern <+: text.drop index := by
  induction count generalizing line start with
  | zero =>
      have none_found : (Except.ok none : Except LineFault (Option Position)) = .ok (some position) := scanned
      cases none_found
  | succ count ih =>
      have next_pos : 1 ≤ line + 1 := Nat.le_add_left 1 line
      rw [s.scan_succ source line line_pos start count next_pos] at scanned
      split at scanned
      next => simp at scanned
      next text at_line =>
        split at scanned
        next index found =>
          obtain rfl : s.found line line_pos index = position := by simpa using scanned
          exact ⟨line, line_pos, index, text, rfl, at_line, Text.isPrefix_drop_of_firstIndexFrom? found⟩
        next => exact ih (line + 1) next_pos 0 scanned

theorem resolve_of_scan {position : Position}
    (scanned : s.scan source s.line s.line_pos (s.afterColumn - 1) s.maxLines = .ok (some position)) :
    (s.resolve (some source)).outcome = .ok position := by
  simp only [resolve, Checked.outcome_bind, Checked.outcome_ofExcept, scanned]
  rfl

theorem resolve_succeeds : Succeeds (s.resolve (some source)).outcome := by
  rcases s.scan_succeeds source s.line s.line_pos (s.afterColumn - 1) s.maxLines with ⟨found, scanned⟩
  simp only [resolve, Checked.outcome_bind, Checked.outcome_ofExcept, scanned]
  cases found with
  | none => exact ⟨s.fallback, rfl⟩
  | some position => exact ⟨position, rfl⟩

end Search

/-- Every span has a position in every source. -/
theorem Span.resolve_succeeds (span : Span) (source : Source) :
    Succeeds (span.resolve (some source)).outcome := by
  cases span with
  | position p => exact ⟨p, rfl⟩
  | octets r => exact ⟨(r.resolve (some source)).value, rfl⟩
  | search s => exact s.resolve_succeeds source

/-- Where there is no source to look anything up in, every span still has a position. -/
theorem Span.succeeds_resolve (span : Span) (source : Option Source) :
    Succeeds (span.resolve source).outcome := by
  cases source with
  | some source => exact span.resolve_succeeds source
  | none =>
      cases span with
      | position p => exact ⟨p, rfl⟩
      | octets r => exact ⟨.point Cell.first, rfl⟩
      | search s => exact ⟨s.fallback, rfl⟩

namespace OctetRange

variable (r : OctetRange) (name : Text) {content : Text}

/-- A range between two boundaries goes from the cell of the one to the cell of the other. -/
theorem resolve_of_boundaries {front upTo : Text} (starts : front <+: content) (stops : upTo <+: content)
    (start : front.encode.length = r.start) (stop : upTo.encode.length = r.stop) :
    (r.resolve (some (.ofText name content))).value = .between (Cell.after front) (Cell.after upTo) := by
  simp only [resolve, ← start, ← stop, Source.cellAt?_length_encode name starts,
    Source.cellAt?_length_encode name stops]
  rfl

/-- A range of octets starts on a line of the content, also when it names octets outside. -/
theorem line_le_of_resolve :
    (r.resolve (some (.ofText name content))).value.start.line ≤ content.lines.length := by
  have some_line : 1 ≤ content.lines.length := List.length_pos_iff.2 (Text.lines_ne_nil content)
  rw [resolve]
  split
  next => exact some_line
  next start at_start =>
    have on_line := (Source.hasCell_of_cellAt? name at_start).2.line_le
    split <;> exact on_line

end OctetRange

end Marginalia
