/-
Module: Marginalia.Proofs.Span.Searching
Purpose: What a search finds. The window of a search has the cells of its lines, of the first line only those
  from a column on, and a match is a cell of the window at which the pattern stands. The leftmost occurrence in
  a line is the least index of one, and the scan takes line after line, so that it ends at the least match in
  the order of reading; without a match the search falls back to the place where it began. Recorded beside its
  outcome, the lines that the scan reads are lines of the source, each at most once, however far the window
  reaches.
Main exports: Text.firstIndexFrom?_eq_some_iff, Search.MatchesAt, Search.foundAt, Search.scan_first_match,
  Search.outcome_resolve, Search.examine, Search.resolve_finds_first_match
-/

import Mathlib.Data.Nat.Find
import Mathlib.Order.Bounds.Basic
import Marginalia.Proofs.Span.Resolution

namespace Marginalia

open CodePoint (newline)

/-!
### Occurrences in a text
-/

namespace Text

variable {pattern t : Text} {start index : Nat}

/-- A pattern is found at the least index at which it stands. -/
theorem firstIndex?_eq_some_iff :
    firstIndex? pattern t = some index ↔ IsLeast {i | pattern <+: t.drop i} index := by
  induction t generalizing index with
  | nil =>
      rw [firstIndex?]
      split
      next empty =>
        have everywhere : IsLeast {i | pattern <+: ([] : Text).drop i} 0 :=
          ⟨by simp [empty], fun i _ => Nat.zero_le i⟩
        rw [Option.some.injEq]
        constructor
        · rintro rfl
          exact everywhere
        · exact everywhere.unique
      next some_pattern =>
        refine iff_of_false (by simp) ?_
        intro least
        have stands : pattern <+: ([] : Text).drop index := least.1
        rw [List.drop_nil, List.prefix_nil] at stands
        exact some_pattern stands
  | cons c rest ih =>
      rw [firstIndex?]
      split
      next here =>
        have at_start : IsLeast {i | pattern <+: (c :: rest).drop i} 0 :=
          ⟨List.isPrefixOf_iff_prefix.1 here, fun i _ => Nat.zero_le i⟩
        rw [Option.some.injEq]
        constructor
        · rintro rfl
          exact at_start
        · exact at_start.unique
      next not_here =>
        rw [List.isPrefixOf_iff_prefix] at not_here
        simp only [Option.map_eq_some_iff, ih]
        constructor
        · rintro ⟨later, ⟨stands, least⟩, rfl⟩
          refine ⟨stands, ?_⟩
          rintro (- | i) there
          · exact absurd there not_here
          · exact Nat.succ_le_succ (least there)
        · rintro ⟨stands, least⟩
          rcases index with - | later
          · exact absurd stands not_here
          · exact ⟨later, ⟨stands, fun i there => Nat.le_of_succ_le_succ (least there)⟩, rfl⟩

/-- Looked for from an index on, a pattern is found at the least index from there at which it stands. -/
theorem firstIndexFrom?_eq_some_iff :
    firstIndexFrom? pattern t start = some index ↔ IsLeast {i | start ≤ i ∧ pattern <+: t.drop i} index := by
  simp only [firstIndexFrom?, Option.map_eq_some_iff, firstIndex?_eq_some_iff, List.drop_drop]
  constructor
  · rintro ⟨offset, ⟨stands, least⟩, rfl⟩
    rw [Nat.add_comm]
    refine ⟨⟨Nat.le_add_right start offset, stands⟩, ?_⟩
    rintro i ⟨later, there⟩
    obtain ⟨further, rfl⟩ := Nat.exists_eq_add_of_le later
    exact Nat.add_le_add_left (least there) start
  · rintro ⟨⟨later, stands⟩, least⟩
    obtain ⟨offset, rfl⟩ := Nat.exists_eq_add_of_le later
    refine ⟨offset, ⟨stands, fun further there => ?_⟩, Nat.add_comm offset start⟩
    exact Nat.le_of_add_le_add_left (least ⟨Nat.le_add_right start further, there⟩)

/-- A pattern that is not found stands nowhere. -/
theorem not_isPrefix_drop_of_firstIndexFrom?_eq_none (missing : firstIndexFrom? pattern t start = none)
    (later : start ≤ index) : ¬ pattern <+: t.drop index := by
  intro stands
  -- Among the indices at which the pattern stands there is a least one, which would have been found.
  classical
  have some_index : ∃ i, start ≤ i ∧ pattern <+: t.drop i := ⟨index, later, stands⟩
  have found := firstIndexFrom?_eq_some_iff.2
    ⟨Nat.find_spec some_index, fun i there => Nat.find_min' some_index there⟩
  rw [missing] at found
  cases found

end Text

namespace Search

/-!
### Matches
-/

/-- The pattern of a search stands at a cell: the line reads as the pattern from there on. -/
def StandsAt (s : Search) (source : Source) (cell : Cell) : Prop :=
  ∃ text, source.line cell.line = .ok (some text) ∧
    (text.drop (cell.column - 1)).take s.pattern.length = s.pattern

/-- A match is a cell of the window at which the pattern stands. The window is bounded on the left on its
    first line only. -/
structure MatchesAt (s : Search) (source : Source) (cell : Cell) : Prop where
  first : s.line ≤ cell.line
  last : cell.line ≤ s.lastLine
  column : cell.line = s.line → s.afterColumn ≤ cell.column
  stands : s.StandsAt source cell

/-- The position of a match: from its cell on, as long as the pattern. -/
def foundAt (s : Search) (cell : Cell) : Position :=
  .between cell ⟨cell.line, cell.column + s.pattern.length, cell.line_pos,
    Nat.le_add_right_of_le cell.column_pos⟩

/-- The matches on some lines from a given one on, of this line those behind some columns. -/
def matchesFrom (s : Search) (source : Source) (line start count : Nat) : Set Cell :=
  {cell | line ≤ cell.line ∧ cell.line < line + count ∧ (cell.line = line → start < cell.column) ∧
    s.StandsAt source cell}

variable {s : Search} {source : Source} {cell : Cell} {line start count : Nat}

theorem standsAt_iff {text : Text} (at_line : source.lines.bind (·[cell.line - 1]?) = some text) :
    s.StandsAt source cell ↔ s.pattern <+: text.drop (cell.column - 1) := by
  have same : source.line cell.line = .ok (some text) := by rw [source.line_eq cell.line_pos, at_line]
  rw [List.prefix_iff_eq_take, eq_comm]
  constructor
  · rintro ⟨other, at_other, stands⟩
    obtain rfl : text = other := Option.some.inj (Except.ok.inj (same.symm.trans at_other))
    exact stands
  · intro stands
    exact ⟨text, same, stands⟩

/-- Behind the last line there are no lines, hence no matches. -/
theorem matchesFrom_eq_empty (behind : source.lines.bind (·[line - 1]?) = none) :
    s.matchesFrom source line start count = ∅ := by
  rw [Set.eq_empty_iff_forall_notMem]
  rintro cell ⟨from_line, -, -, text, at_line, -⟩
  rw [source.line_eq cell.line_pos, Except.ok.injEq] at at_line
  cases known : source.lines with
  | none =>
      rw [known] at at_line
      cases at_line
  | some lines =>
      rw [known, Option.bind_some] at at_line behind
      have inside := (List.getElem?_eq_some_iff.1 at_line).1
      have outside := List.getElem?_eq_none_iff.1 behind
      omega

/-- A match on the first line comes before all others. -/
theorem isLeast_of_firstIndexFrom? {text : Text} {index : Nat} (line_pos : 1 ≤ line)
    (at_line : source.lines.bind (·[line - 1]?) = some text)
    (found : Text.firstIndexFrom? s.pattern text start = some index) :
    IsLeast (s.matchesFrom source line start (count + 1)) ⟨line, index + 1, line_pos, Nat.le_add_left 1 index⟩ := by
  rcases Text.firstIndexFrom?_eq_some_iff.1 found with ⟨⟨later, stands⟩, least⟩
  refine ⟨⟨le_rfl, by simp, fun _ => Nat.lt_succ_of_le later, (standsAt_iff at_line).2 stands⟩, ?_⟩
  rintro other ⟨from_line, -, column, also_stands⟩
  rcases from_line.lt_or_eq with below | rfl
  · exact (Cell.lt_iff.2 (.inl below)).le
  · have column_pos := other.column_pos
    have behind := column rfl
    have le := least ⟨Nat.le_sub_one_of_lt behind, (standsAt_iff at_line).1 also_stands⟩
    rw [← not_lt, Cell.lt_iff]
    rintro (below | ⟨-, before⟩)
    · exact below.false
    · simp only at before
      omega

/-- Where the first line has no match, the matches are those on the lines that follow. -/
theorem matchesFrom_succ {text : Text} (at_line : source.lines.bind (·[line - 1]?) = some text)
    (missing : Text.firstIndexFrom? s.pattern text start = none) :
    s.matchesFrom source line start (count + 1) = s.matchesFrom source (line + 1) 0 count := by
  ext cell
  constructor
  · rintro ⟨from_line, to_line, column, stands⟩
    rcases from_line.lt_or_eq with below | rfl
    · exact ⟨below, by omega, fun _ => cell.column_pos, stands⟩
    · have behind := Nat.le_sub_one_of_lt (column rfl)
      exact absurd ((standsAt_iff at_line).1 stands)
        (Text.not_isPrefix_drop_of_firstIndexFrom?_eq_none missing behind)
  · rintro ⟨from_line, to_line, -, stands⟩
    exact ⟨by omega, by omega, fun same => absurd same (by omega), stands⟩

/-- A scan ends at the least match on its lines, and with nothing if there is none. -/
theorem scan_first_match (s : Search) (source : Source) (line : Nat) (line_pos : 1 ≤ line) (start count : Nat) :
    (∃ cell, IsLeast (s.matchesFrom source line start count) cell ∧
      s.scan source line line_pos start count = .ok (some (s.foundAt cell))) ∨
    s.matchesFrom source line start count = ∅ ∧ s.scan source line line_pos start count = .ok none := by
  induction count generalizing line start with
  | zero =>
      refine .inr ⟨Set.eq_empty_iff_forall_notMem.2 ?_, rfl⟩
      rintro cell ⟨from_line, to_line, -⟩
      exact absurd from_line (Nat.not_le.2 to_line)
  | succ count ih =>
      have next_pos : 1 ≤ line + 1 := Nat.le_add_left 1 line
      rw [s.scan_succ source line line_pos start count next_pos]
      cases at_line : source.lines.bind (·[line - 1]?) with
      | none => exact .inr ⟨matchesFrom_eq_empty at_line, rfl⟩
      | some text =>
          simp only
          cases found : Text.firstIndexFrom? s.pattern text start with
          | some index => exact .inl ⟨_, isLeast_of_firstIndexFrom? line_pos at_line found, rfl⟩
          | none =>
              rw [matchesFrom_succ at_line found]
              exact ih (line + 1) next_pos 0

/-- The matches of a search are those on the lines of its window. -/
theorem setOf_matchesAt (s : Search) (source : Source) :
    {cell | s.MatchesAt source cell} = s.matchesFrom source s.line (s.afterColumn - 1) s.maxLines := by
  have column_pos := s.afterColumn_pos
  have some_lines := s.maxLines_pos
  ext cell
  constructor
  · rintro ⟨first, last, column, stands⟩
    rw [lastLine] at last
    exact ⟨first, by omega, fun same => by have := column same; omega, stands⟩
  · rintro ⟨first, last, column, stands⟩
    exact ⟨first, by rw [lastLine]; omega, fun same => by have := column same; omega, stands⟩

/-- A search resolves to its least match, and to the place where it began if it has none. -/
theorem outcome_resolve (s : Search) (source : Source) :
    (∃ cell, IsLeast {cell | s.MatchesAt source cell} cell ∧
      (s.resolve (some source)).outcome = .ok (s.foundAt cell)) ∨
    (∀ cell, ¬ s.MatchesAt source cell) ∧ (s.resolve (some source)).outcome = .ok s.fallback := by
  have scanned := s.scan_first_match source s.line s.line_pos (s.afterColumn - 1) s.maxLines
  rw [← setOf_matchesAt] at scanned
  rcases scanned with ⟨cell, least, found⟩ | ⟨none_left, missed⟩
  · exact .inl ⟨cell, least, s.resolve_of_scan source found⟩
  · refine .inr ⟨Set.eq_empty_iff_forall_notMem.1 none_left, ?_⟩
    simp only [resolve, Checked.outcome_bind, Checked.outcome_ofExcept, missed]
    rfl

/-- A search without a source or in one without a content resolves to the place where it began. -/
theorem outcome_resolve_of_content_eq_none {source : Option Source} (unknown : source.bind Source.content = none) :
    (s.resolve source).outcome = .ok s.fallback := by
  cases source with
  | none => rfl
  | some source =>
      have no_content : source.content = none := unknown
      have no_lines : source.lines = none := by rw [Source.lines, no_content, Option.map_none]
      rcases s.outcome_resolve source with ⟨cell, ⟨found, -⟩, -⟩ | ⟨-, resolved⟩
      · rcases found.stands with ⟨text, at_line, -⟩
        rw [source.line_eq cell.line_pos, no_lines] at at_line
        cases at_line
      · exact resolved

/-- Lines have no line feeds, and so no line holds a pattern with one. -/
theorem not_matchesAt_of_newline_mem (mem : newline ∈ s.pattern) : ¬ s.MatchesAt source cell := by
  rintro ⟨-, -, -, text, at_line, stands⟩
  rw [source.line_eq cell.line_pos, Except.ok.injEq] at at_line
  rcases Option.bind_eq_some_iff.1 at_line with ⟨lines, known, of_line⟩
  rcases Option.map_eq_some_iff.1 known with ⟨content, -, rfl⟩
  apply Text.newline_not_mem_of_mem_lines (List.mem_of_getElem? of_line)
  rw [← stands] at mem
  exact List.mem_of_mem_drop (List.mem_of_mem_take mem)

/-!
### The lines that are read
-/

/-- The scan of some lines, recording the numbers of the lines that are searched. -/
def examine (s : Search) (source : Source) (line : Nat) (line_pos : 1 ≤ line) (start : Nat) :
    Nat → Except LineFault (Option Position) × List Nat
  | 0 => (.ok none, [])
  | count + 1 =>
    match source.line line with
    | .error fault => (.error fault, [])
    | .ok none => (.ok none, [])
    | .ok (some text) =>
      match Text.firstIndexFrom? s.pattern text start with
      | some index => (.ok (some (s.found line line_pos index)), [line])
      | none =>
        let later := examine s source (line + 1) (Nat.le_add_left 1 line) 0 count
        (later.1, line :: later.2)

/-- Recording does not change what the scan gives. -/
theorem examine_fst (s : Search) (source : Source) (line : Nat) (line_pos : 1 ≤ line) (start count : Nat) :
    (s.examine source line line_pos start count).1 = s.scan source line line_pos start count := by
  induction count generalizing line start with
  | zero => rfl
  | succ count ih =>
      have next_pos : 1 ≤ line + 1 := Nat.le_add_left 1 line
      rw [s.scan_succ source line line_pos start count next_pos, examine, source.line_eq line_pos]
      cases source.lines.bind (·[line - 1]?) with
      | none => rfl
      | some text =>
          simp only
          cases Text.firstIndexFrom? s.pattern text start with
          | some index => rfl
          | none => exact ih (line + 1) next_pos 0

/-- The lines that are searched are consecutive lines of the window, and all of them exist. -/
theorem exists_examine_eq_range' (s : Search) {source : Source} {lines : List Text} (known : source.lines = some lines)
    (line : Nat) (line_pos : 1 ≤ line) (start count : Nat) :
    ∃ read, (s.examine source line line_pos start count).2 = List.range' line read ∧ read ≤ count ∧
      read ≤ lines.length + 1 - line := by
  induction count generalizing line start with
  | zero => exact ⟨0, rfl, le_rfl, Nat.zero_le _⟩
  | succ count ih =>
      rw [examine, source.line_eq line_pos, known, Option.bind_some]
      cases at_line : lines[line - 1]? with
      | none => exact ⟨0, rfl, Nat.zero_le _, Nat.zero_le _⟩
      | some text =>
          have inside := (List.getElem?_eq_some_iff.1 at_line).1
          simp only
          cases Text.firstIndexFrom? s.pattern text start with
          | some index => exact ⟨1, rfl, Nat.le_add_left 1 count, by omega⟩
          | none =>
              rcases ih (line + 1) (Nat.le_add_left 1 line) 0 with ⟨read, later, few, existing⟩
              refine ⟨read + 1, ?_, Nat.succ_le_succ few, by omega⟩
              simp only [later, List.range'_succ]

/-!
### Resolution
-/

/-- Resolution finds exactly the first match of a search. In a source with a content there is always a position:
    of the least match in the order of reading, as long as the pattern, or, if there is no match, the point where
    the search began, which is the only case of a point. A pattern with a line feed has no match. Without a source
    or without a content the search resolves to the place where it began. The scan reads lines of the source only,
    each at most once and in order, so never more than there are, however large the numbers of the search
    are. -/
theorem resolve_finds_first_match (s : Search) (name content : Text) :
    (∃ position, (s.resolve (some (.ofText name content))).outcome = .ok position ∧
      ((∃ cell, IsLeast {cell | s.MatchesAt (.ofText name content) cell} cell ∧
          position = .between cell ⟨cell.line, cell.column + s.pattern.length, cell.line_pos,
            Nat.le_add_right_of_le cell.column_pos⟩) ∨
        (∀ cell, ¬ s.MatchesAt (.ofText name content) cell) ∧
          position = .point ⟨s.line, s.afterColumn, s.line_pos, s.afterColumn_pos⟩) ∧
      (position.isPoint = true ↔ ∀ cell, ¬ s.MatchesAt (.ofText name content) cell) ∧
      (newline ∈ s.pattern → position = .point ⟨s.line, s.afterColumn, s.line_pos, s.afterColumn_pos⟩)) ∧
    (∀ source : Option Source, source.bind Source.content = none →
      (s.resolve source).outcome = .ok (.point ⟨s.line, s.afterColumn, s.line_pos, s.afterColumn_pos⟩)) ∧
    ∃ read, s.examine (.ofText name content) s.line s.line_pos (s.afterColumn - 1) s.maxLines =
        (s.scan (.ofText name content) s.line s.line_pos (s.afterColumn - 1) s.maxLines, List.range' s.line read) ∧
      read ≤ s.maxLines ∧ ∀ count, (Source.ofText name content).lineCount = some count → read ≤ count := by
  refine ⟨?_, fun source unknown => outcome_resolve_of_content_eq_none unknown, ?_⟩
  · rcases s.outcome_resolve (.ofText name content) with ⟨cell, least, resolved⟩ | ⟨no_match, resolved⟩
    · refine ⟨_, resolved, .inl ⟨cell, least, rfl⟩, iff_of_false Bool.false_ne_true ?_, fun mem => ?_⟩
      · intro no_match
        exact no_match cell least.1
      · exact absurd least.1 (not_matchesAt_of_newline_mem mem)
    · exact ⟨_, resolved, .inr ⟨no_match, rfl⟩, iff_of_true rfl no_match, fun _ => rfl⟩
  · have known : (Source.ofText name content).lines = some content.lines := rfl
    rcases s.exists_examine_eq_range' known s.line s.line_pos (s.afterColumn - 1) s.maxLines with
      ⟨read, lines, few, existing⟩
    refine ⟨read, Prod.ext (s.examine_fst _ _ _ _ _) lines, few, ?_⟩
    intro count counted
    obtain rfl : content.lines.length = count := Option.some.inj counted
    have line_pos := s.line_pos
    omega

/-- A search for a doubled letter behind the first column, over a window that leaves the source. -/
def overlapSample : Search where
  line := 1
  pattern := ['a', 'a']
  afterColumn := 3
  maxLines := 1000000
  line_pos := Cell.first.line_pos
  pattern_ne := by decide
  afterColumn_pos := Cell.first.nextColumn.nextColumn.column_pos
  maxLines_pos := by decide

/-- A run of three, and a second line. -/
def overlapSource : Source := .ofText ['s'] ['b', 'a', 'a', 'a', '\n', 'a', 'a']

/-- The search starts in the middle of the run, past its first match, and finds the one that overlaps it. Of a
    million lines it reads at most the two that there are. -/
theorem resolve_finds_first_match_overlap :
    (overlapSample.resolve (some overlapSource)).outcome =
        .ok (.between ⟨1, 3, by decide, by decide⟩ ⟨1, 5, by decide, by decide⟩) ∧
      IsLeast {cell | overlapSample.MatchesAt overlapSource cell} ⟨1, 3, by decide, by decide⟩ ∧
      ∃ read ≤ 2, (overlapSample.examine overlapSource 1 le_rfl 2 1000000).2 = List.range' 1 read := by
  have evaluated : (overlapSample.resolve (some overlapSource)).outcome =
      .ok (.between ⟨1, 3, by decide, by decide⟩ ⟨1, 5, by decide, by decide⟩) := by rfl
  obtain ⟨⟨position, resolved, first, -⟩, -, read, examined, -, few⟩ :=
    overlapSample.resolve_finds_first_match ['s'] ['b', 'a', 'a', 'a', '\n', 'a', 'a']
  obtain rfl := Except.ok.inj (evaluated.symm.trans resolved)
  refine ⟨evaluated, ?_, read, few 2 (by rfl), congrArg Prod.snd examined⟩
  rcases first with ⟨cell, least, same⟩ | ⟨-, same⟩
  · rw [← show _ = cell from congrArg Position.start same] at least
    exact least
  · cases same

end Search

end Marginalia
