/-
Module: Marginalia.Proofs.Source.Boundaries
Purpose: Octet offsets and cells as two views of one text. The walk over the encoded content reaches the cell
  behind the longest prefix that the offset has room for. The offsets at which a prefix ends are boundaries;
  on them the walk is strictly increasing and reaches every cell of the text exactly once, and on all
  offsets it never goes back.
Main exports: Source.walk_encode, Source.cellAt?_of_le, Source.cellAt?_length_encode, Text.IsBoundary,
  Source.HasCell, Source.cellAt?_bijOn_boundaries
-/

import Mathlib.Data.Set.Function
import Marginalia.Proofs.Source.Cells
import Marginalia.Proofs.Source.Lines
import Marginalia.Proofs.Text.Encoding

namespace Marginalia

namespace Source

/-!
### The walk
-/

/-- The octets of a code point that is passed are skipped. -/
theorem walk_skip {skipped : Octets} {skip : Nat} (all : skipped.length = skip) (budget : Nat) (cell : Cell)
    (rest : Octets) : walk skip budget cell (skipped ++ rest) = walk 0 budget cell rest := by
  induction skipped generalizing skip with
  | nil =>
      subst all
      rfl
  | cons octet skipped ih =>
      subst all
      rw [List.length_cons, List.cons_append, walk]
      exact ih rfl

/-- The walk over the octets of a text passes the code points of the longest prefix that the budget has room
    for, and no others. -/
theorem walk_encode (t : Text) (budget : Nat) (cell : Cell) :
    walk 0 budget cell t.encode = (t.prefixWithin budget).foldl Cell.past cell := by
  induction t generalizing budget cell with
  | nil => rfl
  | cons c rest ih =>
      rcases c.encode_eq_cons with ⟨lead, tail, split, length, width, feed⟩
      have room := c.width_pos
      rw [Text.encode_cons, split, List.cons_append, walk, Text.prefixWithin]
      by_cases spent : budget = 0
      · rw [if_pos spent, if_neg (by omega)]
        rfl
      rw [if_neg spent]
      by_cases line_feed : lead = 0x0A
      · have same := feed.1 line_feed
        subst same
        have no_tail : tail = [] := List.length_eq_zero_iff.1 (by simpa using length)
        rw [if_pos line_feed, no_tail, List.nil_append, CodePoint.width_newline, if_pos (by omega), ih]
        rfl
      · have other : c ≠ CodePoint.newline := fun same => line_feed (feed.2 same)
        simp only [if_neg line_feed, width]
        by_cases fits : c.width ≤ budget
        · rw [if_neg (by omega), if_pos fits, walk_skip (by omega), ih, List.foldl_cons, Cell.past,
            if_neg other]
        · rw [if_pos (by omega), if_neg fits]
          rfl

variable (name : Text) (content : Text)

/-- An offset inside the content leads to the cell behind the longest prefix that it has room for. -/
theorem cellAt?_of_le {content : Text} {offset : Nat} (inside : offset ≤ content.encode.length) :
    (ofText name content).cellAt? offset = some (Cell.after (content.prefixWithin offset)) := by
  simp only [cellAt?, octets, ofText, Option.map_some, Int.toNat_natCast]
  rw [if_neg (by omega), walk_encode]
  rfl

/-- The offset at which a prefix ends leads to the cell behind this prefix. -/
theorem cellAt?_length_encode {content p : Text} (start : p <+: content) :
    (ofText name content).cellAt? p.encode.length = some (Cell.after p) := by
  rcases start with ⟨rest, rfl⟩
  rw [cellAt?_of_le name (by simp), Text.prefixWithin_length_encode (List.prefix_append p rest)]

/-- An offset that leads to a cell lies inside the content, and the cell is one of the content's. -/
theorem hasCell_of_cellAt? {content : Text} {offset : Nat} {cell : Cell}
    (found : (ofText name content).cellAt? offset = some cell) :
    offset ≤ content.encode.length ∧ content.HasCell cell := by
  have inside : offset ≤ content.encode.length := by
    by_contra outside
    simp only [cellAt?, octets, ofText, Option.map_some] at found
    rw [if_pos (by omega)] at found
    simp at found
  rw [cellAt?_of_le name inside, Option.some.injEq] at found
  exact ⟨inside, found ▸ Text.hasCell_after (Text.prefixWithin_isPrefix offset content)⟩

end Source

/-!
### Boundaries and cells
-/

/-- An offset is a boundary of a text if a prefix of the text ends there. -/
def Text.IsBoundary (t : Text) (offset : Nat) : Prop := ∃ p : Text, p <+: t ∧ p.encode.length = offset

/-- A cell is one of a source if it is on one of its lines, on a character or just behind the last one. -/
def Source.HasCell (s : Source) (cell : Cell) : Prop :=
  ∃ count text, s.lineCount = some count ∧ cell.line ≤ count ∧ s.line cell.line = .ok (some text) ∧
    cell.column ≤ text.length + 1

namespace Source

variable (name : Text) (content : Text)

theorem hasCell_ofText {cell : Cell} : (ofText name content).HasCell cell ↔ content.HasCell cell := by
  have at_line : (ofText name content).line cell.line = .ok content.lines[cell.line - 1]? :=
    line_eq _ cell.line_pos
  constructor
  · intro has
    rcases has with ⟨count, text, -, -, found, fits⟩
    rw [at_line, Except.ok.injEq] at found
    exact ⟨text, found, fits⟩
  · intro has
    rcases id has with ⟨text, found, fits⟩
    exact ⟨content.lines.length, text, rfl, has.line_le, by rw [at_line, found], fits⟩

/-- Shorter prefixes end at smaller offsets: of two boundaries the smaller one ends the shorter prefix. -/
theorem isPrefix_of_length_encode_le {content p q : Text} (hp : p <+: content) (hq : q <+: content)
    (le : p.encode.length ≤ q.encode.length) : p <+: q := by
  have longer := Text.prefixWithin_mono le content
  rwa [Text.prefixWithin_length_encode hp, Text.prefixWithin_length_encode hq] at longer

/-- Octet offsets and cells are two views of one text. From boundaries to cells the correspondence is one to
    one, reaches all cells of the text and keeps the order of reading strictly; between boundaries an offset
    never leads to an earlier cell than a smaller one. -/
theorem cellAt?_bijOn_boundaries :
    Set.BijOn (fun offset : Nat => (ofText name content).cellAt? offset)
        {offset | content.IsBoundary offset} (some '' {cell | (ofText name content).HasCell cell}) ∧
      (∀ a b, content.IsBoundary a → content.IsBoundary b → a < b →
        ∃ c d, (ofText name content).cellAt? (a : Nat) = some c ∧
          (ofText name content).cellAt? (b : Nat) = some d ∧ c < d) ∧
      ∀ a b length, (ofText name content).octetLength = some length → a ≤ b → b ≤ length →
        ∃ c d, (ofText name content).cellAt? (a : Nat) = some c ∧
          (ofText name content).cellAt? (b : Nat) = some d ∧ c ≤ d := by
  refine ⟨⟨?_, ?_, ?_⟩, ?_, ?_⟩
  · rintro offset ⟨p, start, rfl⟩
    exact ⟨Cell.after p, (hasCell_ofText name content).2 (Text.hasCell_after start),
      (cellAt?_length_encode name start).symm⟩
  · rintro a ⟨p, hp, rfl⟩ b ⟨q, hq, rfl⟩ same
    simp only [cellAt?_length_encode name hp, cellAt?_length_encode name hq, Option.some.injEq] at same
    rw [← Text.upTo_after hp, same, Text.upTo_after hq]
  · rintro place ⟨cell, of_source, rfl⟩
    have has := (hasCell_ofText name content).1 of_source
    refine ⟨(content.upTo cell).encode.length, ⟨_, Text.upTo_isPrefix has, rfl⟩, ?_⟩
    simp only [cellAt?_length_encode name (Text.upTo_isPrefix has), Text.after_upTo has]
  · rintro a b ⟨p, hp, rfl⟩ ⟨q, hq, rfl⟩ lt
    refine ⟨_, _, cellAt?_length_encode name hp, cellAt?_length_encode name hq, ?_⟩
    apply Cell.after_lt_after (isPrefix_of_length_encode_le hp hq lt.le)
    rintro rfl
    exact lt.false
  · intro a b length known le inside
    obtain rfl : content.encode.length = length := by simpa [octetLength, octets, ofText] using known
    exact ⟨_, _, cellAt?_of_le name (le.trans inside), cellAt?_of_le name inside,
      Cell.after_le_after (Text.prefixWithin_mono le content)⟩

end Source

end Marginalia
