/-
Module: Marginalia.Proofs.Source.Offsets
Purpose: The cell of an offset, counted in code points. An offset has room for a longest prefix of the
  content, and its cell is known by counting in this prefix: the line feeds give the line, the code points
  behind the last line feed the column. The walk that finds the cell looks at octets on its way; recorded
  beside the cell, these are exactly the boundaries in front of the offset, each looked at once, so that the
  walk ends, stays inside the content and never takes a continuation octet for a lead octet.
Main exports: Cell.line_after, Cell.column_after, Text.isGreatest_length_prefixWithin, Source.examine,
  Source.examine_fst, Source.cellAt?_counts_code_points
-/

import Mathlib.Order.Bounds.Basic
import Marginalia.Proofs.Source.Leads

namespace Marginalia

open CodePoint (newline)
open Utf8 (isContinuation)

/-!
### Cells by counting
-/

namespace Cell

@[simp] theorem line_nextLine (cell : Cell) : cell.nextLine.line = cell.line + 1 := rfl

@[simp] theorem column_nextLine (cell : Cell) : cell.nextLine.column = 1 := rfl

@[simp] theorem line_nextColumn (cell : Cell) : cell.nextColumn.line = cell.line := rfl

@[simp] theorem column_nextColumn (cell : Cell) : cell.nextColumn.column = cell.column + 1 := rfl

theorem after_concat (t : Text) (c : CodePoint) : after (t ++ [c]) = (after t).past c := by
  rw [after_append]
  rfl

/-- Every line feed in front of a cell leads to another line. -/
theorem line_after (t : Text) : (after t).line = 1 + t.count newline := by
  induction t using List.reverseRecOn with
  | nil => rfl
  | append_singleton t c ih =>
      rw [after_concat, past, List.count_append]
      split
      next feed => simp only [line_nextLine, ih, feed, List.count_singleton_self, Nat.add_assoc]
      next other => simp only [line_nextColumn, ih, List.count_singleton, beq_iff_eq, other, if_false, Nat.add_zero]

/-- Every code point behind the last line feed leads to another column. -/
theorem column_after (t : Text) : (after t).column = 1 + (t.rtakeWhile fun c => c ≠ newline).length := by
  induction t using List.reverseRecOn with
  | nil => rfl
  | append_singleton t c ih =>
      rw [after_concat, past]
      split
      next feed =>
        rw [List.rtakeWhile_concat_neg _ _ _ (by simpa using feed)]
        rfl
      next other =>
        rw [List.rtakeWhile_concat_pos _ _ _ (by simpa using other), column_nextColumn, ih, List.length_append,
          List.length_singleton, Nat.add_assoc]

end Cell

namespace Text

/-- The longest prefix that an offset has room for is as long as any prefix of so few octets can be. -/
theorem isGreatest_length_prefixWithin (t : Text) (n : Nat) :
    IsGreatest {k | k ≤ t.length ∧ (encode (t.take k)).length ≤ n} (t.prefixWithin n).length := by
  have start := prefixWithin_isPrefix n t
  refine ⟨⟨start.length_le, ?_⟩, ?_⟩
  · rw [← List.prefix_iff_eq_take.1 start]
    exact length_encode_prefixWithin_le n t
  · rintro k ⟨inside, fits⟩
    have longer := (isPrefix_prefixWithin (List.take_prefix k t) fits).length_le
    rwa [List.length_take, Nat.min_eq_left inside] at longer

end Text

/-!
### The octets that are looked at
-/

namespace Source

/-- The walk over octets, recording the offsets at which it looks for a lead octet. `here` is the offset of
    the first octet; where the octets end before the budget does, the offset behind them is recorded. -/
def examine (skip budget here : Nat) (cell : Cell) : Octets → Cell × List Nat
  | [] => (cell, if budget = 0 then [] else [here + skip])
  | octet :: rest =>
    match skip with
    | skip + 1 => examine skip budget (here + 1) cell rest
    | 0 =>
      if budget = 0 then (cell, [])
      else if octet = 0x0A then
        let later := examine 0 (budget - 1) (here + 1) cell.nextLine rest
        (later.1, here :: later.2)
      else
        let width := Utf8.leadWidth octet.toNat
        if budget < width then (cell, [here])
        else
          let later := examine (width - 1) (budget - width) (here + 1) cell.nextColumn rest
          (later.1, here :: later.2)

/-- Recording does not change where the walk ends. -/
theorem examine_fst (octets : Octets) (skip budget here : Nat) (cell : Cell) :
    (examine skip budget here cell octets).1 = walk skip budget cell octets := by
  induction octets generalizing skip budget here cell with
  | nil => rfl
  | cons octet rest ih =>
      cases skip with
      | succ skip =>
          rw [examine, walk]
          exact ih skip budget (here + 1) cell
      | zero =>
          rw [examine, walk]
          split
          · rfl
          split
          · exact ih ..
          simp only
          split
          · rfl
          · exact ih ..

/-- Octets that are skipped are not looked at. -/
theorem examine_skip {skipped : Octets} {skip : Nat} (all : skipped.length = skip) (budget here : Nat)
    (cell : Cell) (rest : Octets) :
    examine skip budget here cell (skipped ++ rest) = examine 0 budget (here + skip) cell rest := by
  induction skipped generalizing skip here with
  | nil =>
      subst all
      rfl
  | cons octet skipped ih =>
      subst all
      rw [List.length_cons, List.cons_append, examine, ih rfl]
      congr 1
      omega

/-- One code point of a walk: nothing is looked at when the budget is spent, else the lead octet is, and the
    walk goes on behind the code point if the budget has room for it. -/
theorem examine_encode_cons (c : CodePoint) (rest : Text) {budget : Nat} (left : budget ≠ 0) (here : Nat)
    (cell : Cell) :
    (examine 0 budget here cell (Text.encode (c :: rest))).2 =
      here :: if c.width ≤ budget then
        (examine 0 (budget - c.width) (here + c.width) (cell.past c) rest.encode).2
      else [] := by
  rcases c.encode_eq_cons with ⟨lead, tail, split, length, width, feed⟩
  rw [Text.encode_cons, split, List.cons_append, examine, if_neg left]
  by_cases line_feed : lead = 0x0A
  · have same := feed.1 line_feed
    subst same
    have no_tail : tail = [] := List.length_eq_zero_iff.1 (by simpa using length)
    rw [if_pos line_feed, no_tail, List.nil_append, CodePoint.width_newline, if_pos (by omega)]
    rfl
  · have other : c ≠ newline := fun same => line_feed (feed.2 same)
    simp only [if_neg line_feed, width]
    by_cases fits : c.width ≤ budget
    · rw [if_neg (by omega), if_pos fits, examine_skip (by omega), Cell.past, if_neg other,
        show here + 1 + (c.width - 1) = here + c.width by omega]
    · rw [if_pos (by omega), if_neg fits]

/-- The walk over a text looks at exactly the boundaries that the budget reaches. -/
theorem mem_examine_encode_iff (t : Text) {budget : Nat} (inside : budget ≤ t.encode.length) (here : Nat)
    (cell : Cell) (i : Nat) :
    i ∈ (examine 0 budget here cell t.encode).2 ↔
      ∃ n, t.IsBoundary n ∧ n < budget ∧ i = here + n := by
  induction t generalizing budget here cell with
  | nil =>
      obtain rfl : budget = 0 := Nat.le_zero.1 inside
      simp [examine]
  | cons c rest ih =>
      by_cases spent : budget = 0
      · subst spent
        rcases c.encode_eq_cons with ⟨lead, tail, split, -⟩
        simp [split, examine]
      have room := c.width_pos
      rw [examine_encode_cons c rest spent, List.mem_cons]
      simp only [Text.isBoundary_cons_iff]
      split
      next fits =>
        have shorter : budget - c.width ≤ (Text.encode rest).length := by
          rw [Text.encode_cons, List.length_append, CodePoint.length_encode] at inside
          omega
        rw [ih shorter]
        constructor
        · rintro (first | ⟨n, bound, below, behind⟩)
          · exact ⟨0, .inl rfl, Nat.pos_of_ne_zero spent, first⟩
          · exact ⟨c.width + n, .inr ⟨n, bound, rfl⟩, by omega, by omega⟩
        · rintro ⟨n, rfl | ⟨m, bound, rfl⟩, below, place⟩
          · exact .inl place
          · exact .inr ⟨m, bound, by omega, by omega⟩
      next cut =>
        constructor
        · rintro (first | none_left)
          · exact ⟨0, .inl rfl, Nat.pos_of_ne_zero spent, first⟩
          · exact absurd none_left List.not_mem_nil
        · rintro ⟨n, rfl | ⟨m, -, rfl⟩, below, place⟩
          · exact .inl place
          · omega

/-- The walk looks at later and later octets. -/
theorem pairwise_examine_encode (t : Text) {budget : Nat} (inside : budget ≤ t.encode.length) (here : Nat)
    (cell : Cell) : (examine 0 budget here cell t.encode).2.Pairwise (· < ·) := by
  induction t generalizing budget here cell with
  | nil =>
      obtain rfl : budget = 0 := Nat.le_zero.1 inside
      simp [examine]
  | cons c rest ih =>
      by_cases spent : budget = 0
      · subst spent
        rcases c.encode_eq_cons with ⟨lead, tail, split, -⟩
        simp [split, examine]
      have room := c.width_pos
      rw [examine_encode_cons c rest spent]
      split
      next fits =>
        have shorter : budget - c.width ≤ (Text.encode rest).length := by
          rw [Text.encode_cons, List.length_append, CodePoint.length_encode] at inside
          omega
        refine List.pairwise_cons.2 ⟨fun i mem => ?_, ih shorter _ _⟩
        rcases (mem_examine_encode_iff rest shorter _ _ i).1 mem with ⟨n, -, -, rfl⟩
        omega
      next => exact List.pairwise_singleton _ _

/-!
### The cell of an offset
-/

variable (name content : Text)

theorem cellAt?_eq_none_iff (offset : Int) :
    (ofText name content).cellAt? offset = none ↔ offset < 0 ∨ content.encode.length < offset := by
  simp only [cellAt?, octets, ofText, Option.map_some]
  split
  next outside => exact iff_of_true rfl outside
  next inside => exact iff_of_false (by simp) inside

/-- The cell of an offset is the one behind the longest prefix that the offset has room for. -/
theorem cellAt?_eq_some_iff (offset : Int) (cell : Cell) :
    (ofText name content).cellAt? offset = some cell ↔
      0 ≤ offset ∧ offset ≤ content.encode.length ∧
        Cell.after (content.prefixWithin offset.toNat) = cell := by
  by_cases outside : offset < 0 ∨ content.encode.length < offset
  · rw [(cellAt?_eq_none_iff name content offset).2 outside]
    refine iff_of_false (by simp) ?_
    intro inside
    omega
  · have start : 0 ≤ offset := by omega
    obtain ⟨n, rfl⟩ := Int.eq_ofNat_of_zero_le start
    have inside : n ≤ content.encode.length := by omega
    rw [cellAt?_of_le name inside, Option.some.injEq]
    exact ⟨fun same => ⟨start, by omega, same⟩, fun known => known.2.2⟩

/-- All offsets inside a code point lead to the cell of its start. -/
theorem cellAt?_within {content front rest : Text} {c : CodePoint} (split : content = front ++ c :: rest)
    {n : Nat} (start : front.encode.length ≤ n) (inside : n < (Text.encode (front ++ [c])).length) :
    (ofText name content).cellAt? n = (ofText name content).cellAt? front.encode.length := by
  have starts : front <+: content := ⟨c :: rest, split.symm⟩
  have whole : (Text.encode (front ++ [c])).length ≤ content.encode.length := by
    rw [split, List.append_cons front c rest, Text.encode_append (front ++ [c]) rest, List.length_append]
    exact Nat.le_add_right ..
  rw [cellAt?_of_le name (inside.le.trans whole), cellAt?_length_encode name starts]
  -- The prefix in front of the offset reaches the code point and does not include it.
  have reaches : front <+: content.prefixWithin n := Text.isPrefix_prefixWithin starts start
  have fits := Text.length_encode_prefixWithin_le n content
  have same : content.prefixWithin n = front := by
    rcases reaches with ⟨more, reached⟩
    have continues : front ++ more <+: front ++ c :: rest := by
      rw [reached, ← split]
      exact Text.prefixWithin_isPrefix n content
    cases more with
    | nil => rw [← reached, List.append_nil]
    | cons d more =>
        rcases List.cons_prefix_cons.1 ((List.prefix_append_right_inj front).1 continues) with ⟨rfl, -⟩
        rw [← reached, List.append_cons, Text.encode_append (front ++ [d]) more, List.length_append] at fits
        omega
  rw [same]

/-- The cell of an offset, counted in code points. There is one for the offsets from zero to the length of
    the encoded content and for no others. Its line and column are counted in the longest prefix of the
    content whose octets fit in front of the offset, in which a lone surrogate counts like any code point and
    takes three octets; so every offset inside a code point has the cell of its start. On its way the walk
    looks at the boundaries in front of the offset, at each of them once and from the first to the last, and
    at nothing else: it ends, it finds an octet there, and none of these octets continues a code point.
    A source without a content has no cells. -/
theorem cellAt?_counts_code_points :
    (∀ offset : Int, (ofText name content).cellAt? offset = none ↔
      offset < 0 ∨ ∃ length, (ofText name content).octetLength = some length ∧ length < offset) ∧
    (∀ (offset : Int) (cell : Cell), (ofText name content).cellAt? offset = some cell ↔
      0 ≤ offset ∧ offset ≤ content.encode.length ∧
        ∃ k, IsGreatest {k | k ≤ content.length ∧ (Text.encode (content.take k)).length ≤ offset} k ∧
          cell.line = 1 + (content.take k).count newline ∧
          cell.column = 1 + ((content.take k).rtakeWhile fun c => c ≠ newline).length) ∧
    (∀ front c rest, content = front ++ c :: rest → ∀ n : Nat, (Text.encode front).length ≤ n →
      n < (Text.encode (front ++ [c])).length →
        (ofText name content).cellAt? n = (ofText name content).cellAt? (Text.encode front).length) ∧
    (∀ c ∈ content, c.isSurrogate = true → c.encode.length = 3) ∧
    (∀ n : Nat, n ≤ content.encode.length → ∃ cell examined,
      examine 0 n 0 Cell.first content.encode = (cell, examined) ∧
        (ofText name content).cellAt? n = some cell ∧ examined.Pairwise (· < ·) ∧
        (∀ i, i ∈ examined ↔ content.IsBoundary i ∧ i < n) ∧
        ∀ i ∈ examined, ∃ octet, content.encode[i]? = some octet ∧ isContinuation octet = false) ∧
    ∀ offset : Int, (named name).cellAt? offset = none := by
  refine ⟨?_, ?_, ?_, ?_, ?_, ?_⟩
  · intro offset
    have length : (ofText name content).octetLength = some content.encode.length := rfl
    simp [cellAt?_eq_none_iff, length]
  · intro offset cell
    rw [cellAt?_eq_some_iff]
    refine and_congr_right fun start => and_congr_right fun inside => ?_
    obtain ⟨n, rfl⟩ := Int.eq_ofNat_of_zero_le start
    have greatest := content.isGreatest_length_prefixWithin n
    have taken : content.take (content.prefixWithin n).length = content.prefixWithin n :=
      (List.prefix_iff_eq_take.1 (Text.prefixWithin_isPrefix n content)).symm
    simp only [Int.toNat_natCast, Int.ofNat_le]
    constructor
    · rintro rfl
      exact ⟨_, greatest, by rw [taken, Cell.line_after], by rw [taken, Cell.column_after]⟩
    · rintro ⟨k, also, line, column⟩
      obtain rfl := also.unique greatest
      rw [taken] at line column
      exact Cell.ext_coordinates ((Cell.line_after _).trans line.symm) ((Cell.column_after _).trans column.symm)
  · intro front c rest split n start inside
    exact cellAt?_within name split start inside
  · intro c _ surrogate
    exact CodePoint.length_encode_of_isSurrogate surrogate
  · intro n inside
    have members : ∀ i, i ∈ (examine 0 n 0 Cell.first content.encode).2 ↔ content.IsBoundary i ∧ i < n := by
      intro i
      simp [mem_examine_encode_iff content inside]
    refine ⟨_, _, rfl, ?_, pairwise_examine_encode content inside 0 Cell.first, members, ?_⟩
    · rw [examine_fst, walk_encode, cellAt?_of_le name inside]
      rfl
    · intro i mem
      rcases (members i).1 mem with ⟨bound, below⟩
      rcases (content.isBoundary_iff_octet i).1 bound with at_end | leads
      · omega
      · exact leads
  · intro offset
    rfl

/-- A letter of two octets, a line feed, a lone surrogate and a letter. -/
def mixedSample : Text := [⟨0xE9, by decide⟩, newline, ⟨0xDCFF, by decide⟩, 'z']

theorem cellAt?_counts_code_points_surrogate :
    (∃ c ∈ mixedSample, c.isSurrogate = true ∧ c.encode.length = 3) ∧
      (ofText [] mixedSample).cellAt? 5 = some Cell.first.nextLine ∧
      examine 0 5 0 Cell.first mixedSample.encode = (Cell.first.nextLine, [0, 2, 3]) := by
  obtain ⟨-, -, within, widths, examined, -⟩ := cellAt?_counts_code_points [] mixedSample
  have surrogate : (⟨0xDCFF, by decide⟩ : CodePoint) ∈ mixedSample := by decide
  refine ⟨⟨_, surrogate, by decide, widths _ surrogate (by decide)⟩, ?_, ?_⟩
  · exact (within [⟨0xE9, by decide⟩, newline] ⟨0xDCFF, by decide⟩ ['z'] rfl 5 (by decide) (by decide)).trans
      (by decide)
  · rcases examined 5 (by decide) with ⟨cell, places, recorded, -⟩
    rw [recorded]
    exact recorded.symm.trans (by decide)

end Source

end Marginalia
