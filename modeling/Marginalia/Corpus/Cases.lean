/-
Module: Marginalia.Corpus.Cases
Purpose: Made-up sources with reports about them, to try a renderer on. Lines are made of words of several
  scripts and now and then too long to be shown; labels point into the source in every way there is, some
  of them a little past its end. The cases of a seed are numbered, and each is drawn after the one before
  it, so that a longer corpus starts with a shorter one. Beside each draw stands what it yields: no bound
  is empty, sources and spans stay small, and so no constructor of spans refuses a number or finds it too
  long.
Main exports: Corpus.Case, Corpus.SpanKind, Corpus.PointsInto, Corpus.IsDrawn, Corpus.drawCase,
  Corpus.drawCases, Corpus.cases
-/

import Marginalia.Corpus.Draw
import Marginalia.Corpus.Twister
import Marginalia.Report
import Marginalia.Source

namespace Marginalia.Corpus

open Draw

/-- A source and a report about it. -/
structure Case where
  source : Source
  report : Report

/-- Probabilities, in parts of `2 ^ 53`. -/
structure Odds where
  longLine : Nat := 450359962737050
  finalNewline : Nat := 4503599627370496
  codeSpan : Nat := 4503599627370496
  primaryLabel : Nat := 5404319552844595
  code : Nat := 6305039478318694
  labelMessage : Nat := 7205759403792794
  sourceGiven : Nat := 8106479329266893
  sourceMatches : Nat := 8106479329266893

/-- The probabilities in force: 0.05, 0.5, 0.5, 0.6, 0.7, 0.8, 0.9 and 0.9, rounded to the grid. -/
def odds : Odds := {}

section

variable {σ : Type} (s : Sampler σ)

/-!
### Words, lines and sources
-/

/-- The first of the words. -/
def firstWord : Text := Text.of "let"

/-- The words after the first. -/
def otherWords : List Text :=
  ["fn", "return", "if", "else", "match", "value", "count", "naïve", "größe", "π", "→", "日本"].map Text.of

/-- A word that no line has. -/
def missingWord : Text := Text.of "missing"

/-- One of the words. -/
def drawWord : Draw σ Text := s.choose firstWord otherWords

theorem yields_drawWord : (drawWord s).Yields fun word => word.length ≤ 6 := by
  have short : ∀ word ∈ firstWord :: otherWords, word.length ≤ 6 := by decide
  exact (s.yields_choose firstWord otherWords).mono short

/-- Up to twelve words, now and then with a long one at the end. -/
def drawWords : Draw σ (List Text) := do
  let count ← s.between 0 12
  let words ← collect (drawWord s) count
  if ← s.chance odds.longLine then
    let length ← s.between 60 140
    return words ++ [List.replicate length (CodePoint.ofChar 'x')]
  else return words

/-- A line: an indent and some words. -/
def drawLine : Draw σ Text := do
  let indent ← s.choose 0 [0, 2, 4, 8]
  let words ← drawWords s
  return Text.blanks indent ++ [CodePoint.blank].intercalate words

/-- Pieces with a mark between them are not longer than pieces with a mark behind each. -/
theorem length_intercalate_le (mark : CodePoint) {pieces : List Text} {longest : Nat}
    (short : ∀ piece ∈ pieces, piece.length ≤ longest) :
    ([mark].intercalate pieces).length ≤ pieces.length * (longest + 1) := by
  induction pieces with
  | nil => exact Nat.zero_le _
  | cons first rest ih =>
      rw [List.forall_mem_cons] at short
      have others := ih short.2
      cases rest with
      | nil => simpa [List.intercalate] using Nat.le_succ_of_le short.1
      | cons second further =>
          have step : [mark].intercalate (first :: second :: further) =
              first ++ mark :: [mark].intercalate (second :: further) := by
            simp [List.intercalate, List.intersperse]
          rw [step, List.length_append, List.length_cons, List.length_cons, Nat.add_mul]
          have here := short.1
          omega

theorem yields_drawWords : (drawWords s).Yields fun words => words.length ≤ 13 ∧ ∀ word ∈ words, word.length ≤ 140 := by
  apply (s.yields_between (Nat.zero_le 12)).bind
  intro count count_le
  apply ((yields_drawWord s).collect count).bind
  intro words drawn
  have short : ∀ word ∈ words, word.length ≤ 140 := fun word mem => Nat.le_trans (drawn.2 word mem) (by decide)
  apply (s.yields_chance odds.longLine).bind
  intro long _
  apply Yields.ite
  · apply (s.yields_between (by decide)).bind
    intro length length_le
    refine yields_pure ⟨?_, List.forall_mem_append.2 ⟨short, ?_⟩⟩
    · rw [List.length_append, List.length_singleton]
      omega
    · rw [List.forall_mem_singleton, List.length_replicate]
      exact length_le.2
  · exact yields_pure ⟨by omega, short⟩

theorem yields_drawLine : (drawLine s).Yields fun line => line.length ≤ 1841 := by
  apply (s.yields_choose 0 [0, 2, 4, 8]).bind
  intro indent indent_mem
  have indent_le : ∀ n ∈ [0, 0, 2, 4, 8], n ≤ 8 := by decide
  apply (yields_drawWords s).bind
  intro words drawn
  refine yields_pure ?_
  have joined := length_intercalate_le CodePoint.blank drawn.2
  rw [List.length_append, Text.blanks, List.length_replicate]
  have indented := indent_le indent indent_mem
  omega

/-- A source of up to thirty lines, with or without a final line feed. -/
def drawSource (name : Text) : Draw σ Source := do
  let count ← s.between 1 30
  let lines ← collect (drawLine s) count
  let trailer : Text := if ← s.chance odds.finalNewline then [CodePoint.newline] else []
  return .ofText name ([CodePoint.newline].intercalate lines ++ trailer)

theorem yields_drawSource (name : Text) :
    (drawSource s name).Yields fun source =>
      ∃ content, source = .ofText name content ∧ content.length ≤ 55261 := by
  apply (s.yields_between (by decide)).bind
  intro count count_le
  apply ((yields_drawLine s).collect count).bind
  intro lines drawn
  have joined := length_intercalate_le CodePoint.newline drawn.2
  apply (s.yields_chance odds.finalNewline).bind
  intro ends _
  refine yields_pure ⟨_, rfl, ?_⟩
  have trailer : (if ends = true then [CodePoint.newline] else []).length ≤ 1 := by split <;> decide
  rw [List.length_append]
  omega

/-!
### Spans
-/

/-- The kinds of spans that labels are given. -/
inductive SpanKind where
  | octets
  | position
  | point
  | search
  | tuple
  | range
deriving DecidableEq, Repr

/-- The lines of a source as far as spans are drawn for them; there is always a first one. -/
def lineLimit (source : Source) : Nat := (source.lineCount.filter (· ≠ 0)).getD 1

/-- The octets of a source as far as spans are drawn for them. -/
def octetLimit (source : Source) : Nat := source.octetLength.getD 0

/-- Spans are drawn for no more lines than the content has code points, and one more. -/
theorem lineLimit_le (name content : Text) : lineLimit (.ofText name content) ≤ content.length + 1 := by
  have counted : (Source.ofText name content).lineCount = some (content.count CodePoint.newline + 1) :=
    congrArg some (Text.length_lines content)
  have feeds := List.count_le_length (l := content) (a := CodePoint.newline)
  rw [lineLimit, counted]
  exact Nat.succ_le_succ feeds

/-- A source in which only small numbers are drawn for spans. -/
structure IsSmall (source : Source) : Prop where
  lines : lineLimit source ≤ 300000
  octets : octetLimit source ≤ 300000

theorem IsSmall.of_length_le {content : Text} (name : Text) (short : content.length ≤ 55261) :
    IsSmall (.ofText name content) := by
  have lines := lineLimit_le name content
  have octets : octetLimit (.ofText name content) ≤ 4 * content.length := Text.length_encode_le content
  exact ⟨by omega, by omega⟩

/-- A constructor of spans takes every number that is drawn for it. -/
theorem writable_of_le {numbers : List (SpanField × Nat)} (small : ∀ number ∈ numbers, number.2 ≤ 300100) :
    SpanField.AllWritable numbers := by
  intro number mem
  exact Numeral.writable_of_ten_digits (Nat.lt_of_le_of_lt (small number mem) (by decide))

theorem octets_built {start length : Nat} (some_octets : 1 ≤ length) (start_le : start ≤ 300100)
    (length_le : length ≤ 300100) :
    OctetRange.ofValues SpanField.read (.int start) (.int length) = .ok ⟨start, length, some_octets⟩ :=
  OctetRange.ofValues_of_writable ⟨start, length, some_octets⟩
    (writable_of_le (by simpa [OctetRange.numbers] using And.intro start_le length_le))

/-- Something that stands for a span in a source. Octets may run a little past the end and lines may lie
    past it. -/
def drawSpan (source : Source) : Draw σ SpanLike := do
  let lines := lineLimit source
  let octets := octetLimit source
  match ← s.choose SpanKind.octets [.position, .point, .search, .tuple, .range] with
  | .octets =>
    let start ← s.between 0 (octets + 3)
    let length ← s.between 1 12
    let range ← ofExcept (OctetRange.ofValues SpanField.read (.int start) (.int length))
    return .span (.octets range)
  | .position =>
    let line ← s.between 1 (lines + 2)
    let column ← s.between 1 40
    let further ← s.between 0 10
    let position ← ofExcept
      (Position.ofValues SpanField.read (.int line) (.int column) (.int line) (.int (column + further : Nat)))
    return .span (.position position)
  | .point =>
    let line ← s.between 1 lines
    let column ← s.between 1 40
    let position ← ofExcept (Position.ofValues SpanField.read (.int line) (.int column) .null .null)
    return .span (.position position)
  | .search =>
    let line ← s.between 1 lines
    let pattern ← s.choose firstWord (otherWords ++ [missingWord])
    let afterColumn ← s.between 1 10
    let maxLines ← s.between 1 4
    let search ← ofExcept
      (Search.ofValues SpanField.read (.int line) (.text pattern) (.int afterColumn) (.int maxLines))
    return .span (.search search)
  | .tuple =>
    let start ← s.between 0 (octets + 2)
    let length ← s.between 1 6
    return .tuple [.int start, .int length]
  | .range =>
    let start ← s.between 0 (octets + 2)
    let length ← s.between 1 6
    return .range ⟨start, (start + length : Nat), 1⟩

/-- What is drawn to stand for a span in a source, by the kinds of spans. -/
inductive PointsInto (source : Source) : SpanLike → Prop where
  | octets (r : OctetRange) (start : r.start ≤ octetLimit source + 3) (length : r.length ≤ 12) :
      PointsInto source (.span (.octets r))
  | position (start stop : Cell) (line : start.line ≤ lineLimit source + 2) (column : start.column ≤ 40)
      (one_line : stop.line = start.line) (ordered : start.column ≤ stop.column)
      (further : stop.column ≤ start.column + 10) : PointsInto source (.span (.position (.between start stop)))
  | point (cell : Cell) (line : cell.line ≤ lineLimit source) (column : cell.column ≤ 40) :
      PointsInto source (.span (.position (.point cell)))
  | search (search : Search) (line : search.line ≤ lineLimit source) (afterColumn : search.afterColumn ≤ 10)
      (maxLines : search.maxLines ≤ 4) : PointsInto source (.span (.search search))
  | tuple (start length : Nat) (start_le : start ≤ octetLimit source + 2) (some_octets : 1 ≤ length)
      (length_le : length ≤ 6) : PointsInto source (.tuple [.int start, .int length])
  | range (start length : Nat) (start_le : start ≤ octetLimit source + 2) (some_octets : 1 ≤ length)
      (length_le : length ≤ 6) : PointsInto source (.range ⟨start, (start + length : Nat), 1⟩)

/-- None of the kinds is a list, so a label keeps what was drawn. -/
theorem PointsInto.settled_eq {source : Source} {given : SpanLike} (points : PointsInto source given) :
    given.settled = given := by
  cases points <;> rfl

theorem one_le_lineLimit (source : Source) : 1 ≤ lineLimit source := by
  rw [lineLimit]
  cases counted : source.lineCount.filter (· ≠ 0) with
  | none => exact Nat.le_refl 1
  | some count =>
      have nonzero := (Option.filter_eq_some_iff.1 counted).2
      simp only [ne_eq, decide_not, Bool.not_eq_eq_eq_not, Bool.not_true, decide_eq_false_iff_not] at nonzero
      exact Nat.one_le_iff_ne_zero.2 nonzero

/-- No bound of a span is empty, and no constructor refuses the numbers that are drawn for it. -/
theorem yields_drawSpan {source : Source} (small : IsSmall source) :
    (drawSpan s source).Yields (PointsInto source) := by
  have some_line := one_le_lineLimit source
  rcases small with ⟨lines, octets⟩
  apply (s.yields_choose SpanKind.octets [.position, .point, .search, .tuple, .range]).bind
  intro kind _
  cases kind with
  | octets =>
      apply (s.yields_between (Nat.zero_le _)).bind
      intro start start_le
      apply (s.yields_between (by decide)).bind
      intro length length_le
      apply (yields_ofExcept (octets_built length_le.1 (by omega) (by omega))).bind
      rintro - rfl
      exact yields_pure (.octets _ start_le.2 length_le.2)
  | position =>
      apply (s.yields_between (by omega)).bind
      intro line line_le
      apply (s.yields_between (by decide)).bind
      intro column column_le
      apply (s.yields_between (by decide)).bind
      intro further further_le
      have stop_pos : 1 ≤ column + further := by omega
      have built := Position.ofValues_of_writable (.between ⟨line, column, line_le.1, column_le.1⟩
        ⟨line, column + further, line_le.1, stop_pos⟩)
        (writable_of_le (by simp [Position.numbers, Position.between]; omega))
      apply (yields_ofExcept built).bind
      rintro - rfl
      exact yields_pure (.position _ _ line_le.2 column_le.2 rfl (Nat.le_add_right ..)
        (Nat.add_le_add_left further_le.2 column))
  | point =>
      apply (s.yields_between some_line).bind
      intro line line_le
      apply (s.yields_between (by decide)).bind
      intro column column_le
      have built := Position.ofValues_of_writable (.point ⟨line, column, line_le.1, column_le.1⟩)
        (writable_of_le (by simp [Position.numbers, Position.point]; omega))
      apply (yields_ofExcept built).bind
      rintro - rfl
      exact yields_pure (.point _ line_le.2 column_le.2)
  | search =>
      apply (s.yields_between some_line).bind
      intro line line_le
      apply (s.yields_choose firstWord (otherWords ++ [missingWord])).bind
      intro pattern pattern_mem
      have some_text : ∀ word ∈ firstWord :: (otherWords ++ [missingWord]), word ≠ [] := by decide
      apply (s.yields_between (by decide)).bind
      intro afterColumn afterColumn_le
      apply (s.yields_between (by decide)).bind
      intro maxLines maxLines_le
      have built := Search.ofValues_of_writable ⟨line, pattern, afterColumn, maxLines, line_le.1,
        some_text pattern pattern_mem, afterColumn_le.1, maxLines_le.1⟩
        (writable_of_le (by simp [Search.numbers]; omega))
      apply (yields_ofExcept built).bind
      rintro - rfl
      exact yields_pure (.search _ line_le.2 afterColumn_le.2 maxLines_le.2)
  | tuple =>
      apply (s.yields_between (Nat.zero_le _)).bind
      intro start start_le
      apply (s.yields_between (by decide)).bind
      intro length length_le
      exact yields_pure (.tuple _ _ start_le.2 length_le.1 length_le.2)
  | range =>
      apply (s.yields_between (Nat.zero_le _)).bind
      intro start start_le
      apply (s.yields_between (by decide)).bind
      intro length length_le
      exact yields_pure (.range _ _ start_le.2 length_le.1 length_le.2)

/-!
### Messages, labels and reports
-/

/-- A text as a code span. -/
def codeSpan (t : Text) : Text := CodePoint.backtick :: t ++ [CodePoint.backtick]

/-- Words of which, half the time, one is made a code span. -/
def markWord (words : List Text) : Draw σ (List Text) := do
  if ← s.chance odds.codeSpan then
    let i ← s.index words.length
    return words.modify i codeSpan
  else return words

/-- There is a word to be marked as soon as there are words. -/
theorem yields_markWord {words : List Text} (some_words : 0 < words.length) :
    (markWord s words).Yields fun _ => True := by
  apply (s.yields_chance odds.codeSpan).bind
  intro marks _
  apply Yields.ite
  · apply (s.yields_index some_words).bind
    intro i _
    exact yields_pure trivial
  · exact yields_pure trivial

/-- A message of up to six words. -/
def drawMessage : Draw σ Text := do
  let count ← s.between 1 6
  let words ← collect (drawWord s) count
  let words ← markWord s words
  return [CodePoint.blank].intercalate words

theorem yields_drawMessage : (drawMessage s).Yields fun _ => True := by
  apply (s.yields_between (by decide)).bind
  intro count count_le
  apply ((yields_drawWord s).collect count).bind
  intro words drawn
  apply (yields_markWord s (by omega)).bind
  intro marked _
  exact yields_pure trivial

/-- A label on something in a source. -/
def drawLabel (source : Source) : Draw σ Label := do
  let priority : Priority := if ← s.chance odds.primaryLabel then .primary else .secondary
  let span ← drawSpan s source
  let message ← s.perhaps odds.labelMessage (drawMessage s)
  return .make span message priority none

theorem yields_drawLabel {source : Source} (small : IsSmall source) :
    (drawLabel s source).Yields fun label => PointsInto source label.span := by
  apply (s.yields_chance odds.primaryLabel).bind
  intro primary _
  apply (yields_drawSpan s small).bind
  intro span points
  apply (s.yields_perhaps odds.labelMessage (yields_drawMessage s)).bind
  intro message _
  refine yields_pure ?_
  show PointsInto source span.settled
  rw [points.settled_eq]
  exact points

/-- A letter and four digits. -/
def drawCode : Draw σ Text := do
  let letter ← s.choose 'E' ['W', 'I', 'H']
  let digits ← collect (s.choose '0' ['1', '2', '3', '4', '5', '6', '7', '8', '9']) 4
  return CodePoint.ofChar letter :: digits.map CodePoint.ofChar

theorem yields_drawCode : (drawCode s).Yields fun _ => True := by
  apply (s.yields_choose 'E' ['W', 'I', 'H']).bind
  intro letter _
  apply ((s.yields_choose '0' ['1', '2', '3', '4', '5', '6', '7', '8', '9']).collect 4).bind
  intro digits _
  exact yields_pure trivial

/-- The source that a report about a source names: that one most of the time, and sometimes another one. -/
def drawName (source : Source) : Draw σ Text := do
  if ← s.chance odds.sourceMatches then return source.name else return Text.of "elsewhere.txt"

theorem yields_drawName (source : Source) : (drawName s source).Yields fun _ => True := by
  apply (s.yields_chance odds.sourceMatches).bind
  intro same _
  exact (yields_pure trivial).ite (yields_pure trivial)

/-- A report about a source. -/
def drawReport (source : Source) : Draw σ Report := do
  let severity ← s.choose Severity.error [.error, .warning, .info, .hint]
  let message ← drawMessage s
  let code ← s.perhaps odds.code (drawCode s)
  let name ← s.perhaps odds.sourceGiven (drawName s source)
  let labelCount ← s.between 0 4
  let labels ← collect (drawLabel s source) labelCount
  let noteCount ← s.between 0 2
  let notes ← collect (drawMessage s) noteCount
  let helpCount ← s.between 0 2
  let help ← collect (drawMessage s) helpCount
  return { message, severity, code, source := name, labels, help, notes }

theorem yields_drawReport {source : Source} (small : IsSmall source) :
    (drawReport s source).Yields fun report => ∀ label ∈ report.labels, PointsInto source label.span := by
  apply (s.yields_choose Severity.error [.error, .warning, .info, .hint]).bind
  intro severity _
  apply (yields_drawMessage s).bind
  intro message _
  apply (s.yields_perhaps odds.code (yields_drawCode s)).bind
  intro code _
  apply (s.yields_perhaps odds.sourceGiven (yields_drawName s source)).bind
  intro name _
  apply (s.yields_between (Nat.zero_le 4)).bind
  intro labelCount _
  apply ((yields_drawLabel s small).collect labelCount).bind
  intro labels drawn
  apply (s.yields_between (Nat.zero_le 2)).bind
  intro noteCount _
  apply ((yields_drawMessage s).collect noteCount).bind
  intro notes _
  apply (s.yields_between (Nat.zero_le 2)).bind
  intro helpCount _
  apply ((yields_drawMessage s).collect helpCount).bind
  intro help _
  exact yields_pure drawn.2

/-!
### Cases
-/

/-- The name of the source of a numbered case; the number has at least four digits. -/
def caseName (index : Nat) : Text :=
  let numeral := Text.ofNat index
  Text.of "case_" ++ List.replicate (4 - numeral.length) (CodePoint.ofChar '0') ++ numeral ++ Text.of ".txt"

/-- A numbered case. -/
def drawCase (index : Nat) : Draw σ Case := do
  let source ← drawSource s (caseName index)
  let report ← drawReport s source
  return ⟨source, report⟩

/-- What is drawn as a numbered case: a short source under the name of its number, and a report whose labels
    point into it. -/
structure IsDrawn (index : Nat) (c : Case) : Prop where
  source : ∃ content, c.source = .ofText (caseName index) content ∧ content.length ≤ 55261
  labels : ∀ label ∈ c.report.labels, PointsInto c.source label.span

theorem yields_drawCase (index : Nat) : (drawCase s index).Yields (IsDrawn index) := by
  apply (yields_drawSource s (caseName index)).bind
  rintro source ⟨content, rfl, short⟩
  apply (yields_drawReport s (.of_length_le _ short)).bind
  intro report labels
  exact yields_pure ⟨⟨content, rfl, short⟩, labels⟩

/-- A number of cases, numbered from an index on. -/
def drawCases (index : Nat) : Nat → Draw σ (List Case)
  | 0 => return []
  | count + 1 => do
    let first ← drawCase s index
    let rest ← drawCases (index + 1) count
    return first :: rest

/-- As many cases are drawn as were asked for, each with its number. -/
theorem yields_drawCases (index count : Nat) :
    (drawCases s index count).Yields fun cases =>
      cases.length = count ∧ ∀ i c, cases[i]? = some c → IsDrawn (index + i) c := by
  induction count generalizing index with
  | zero => exact yields_pure ⟨rfl, fun i c found => by simp at found⟩
  | succ count ih =>
      apply (yields_drawCase s index).bind
      intro first drawn
      apply (ih (index + 1)).bind
      intro rest others
      refine yields_pure ⟨congrArg Nat.succ others.1, ?_⟩
      intro i c found
      cases i with
      | zero => exact Option.some.inj found ▸ drawn
      | succ i =>
          have later := others.2 i c found
          rwa [Nat.add_right_comm] at later

end

/-- The cases of a seed; a negative number of them is none. -/
def cases (seed count : Int) : List Case :=
  (drawCases Twister.sampler 0 count.toNat).value (yields_drawCases _ 0 count.toNat) (Twister.ofSeed seed)

end Marginalia.Corpus
