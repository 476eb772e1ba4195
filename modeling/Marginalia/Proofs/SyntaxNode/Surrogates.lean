/-
Module: Marginalia.Proofs.SyntaxNode.Surrogates
Purpose: For which sources a node has a span. A source keeps lone surrogates and counts three octets for each, but
  a line is written out anew, and strictly, when a column is counted in it. A node whose numbers keep their bounds
  therefore has a span exactly if no lone surrogate stands in a line that it begins or ends in, wherever in the
  line that is, and if a line or a column past the end of the content, which is taken from the node as it is, can be
  written; otherwise the first run of surrogates of the first such line is refused, or else the first number that
  is too long. Where there is a span, its columns stay within their lines.
Main exports: Utf8.SurrogateRun, Utf8.encodeStrict_eq_error_iff, SyntaxNode.ofNumbers, SyntaxNode.linesRead,
  SyntaxNode.numbersGiven, SyntaxNode.CellIn, SyntaxNode.span_of_numbers, SyntaxNode.span_lone_surrogate
-/

import Marginalia.Proofs.Outcome
import Marginalia.Proofs.SyntaxNode
import Marginalia.Proofs.Text.Numerals
import Marginalia.Proofs.Text.Runs

namespace Marginalia

/-!
### Strict writing
-/

namespace Utf8

variable {t : Text} {fault : EncodeFault}

/-- A fault names the first run of lone surrogates in a text. -/
inductive SurrogateRun : Text → EncodeFault → Prop where
  | run {front run rest : Text} {first : CodePoint} (clean : ∀ c ∈ front, c.isSurrogate = false)
      (starts : first.isSurrogate) (lone : ∀ c ∈ run, c.isSurrogate) (ends : ∀ c ∈ rest.head?, c.isSurrogate = false) :
      SurrogateRun (front ++ first :: run ++ rest) ⟨front.length, first, 1 + run.length⟩

theorem encodeStrict_of_surrogateRun (run : SurrogateRun t fault) : encodeStrict t = .error fault := by
  cases run with
  | @run front run rest first clean starts lone ends =>
      have front_clean : ∀ c ∈ front, !c.isSurrogate := fun c mem => by simp [clean c mem]
      have stops : ∀ c ∈ (first :: (run ++ rest)).head?, (!c.isSurrogate) = false := by simpa using starts
      rw [encodeStrict, List.append_assoc, List.cons_append, dropWhile_append_of_stops front_clean stops,
        takeWhile_append_of_stops front_clean stops]
      simp only [takeWhile_append_of_stops lone ends]

/-- Either a text holds no lone surrogate, or there is a first run of them. -/
theorem exists_surrogateRun_iff : (∃ fault, SurrogateRun t fault) ↔ ∃ c ∈ t, c.isSurrogate := by
  constructor
  · rintro ⟨fault, run⟩
    cases run with
    | @run front run rest first clean starts lone ends => exact ⟨first, by simp, starts⟩
  · rintro ⟨c, mem, surrogate⟩
    rcases exists_run_append (fun d : CodePoint => !d.isSurrogate) t with ⟨front, behind, rfl, clean, stops⟩
    rcases behind with - | ⟨first, behind⟩
    · rw [List.append_nil] at mem
      simpa [surrogate] using clean c mem
    rcases exists_run_append CodePoint.isSurrogate behind with ⟨run, rest, rfl, lone, ends⟩
    rw [← List.cons_append, ← List.append_assoc]
    exact ⟨_, .run (by simpa using clean) (by simpa using stops) lone ends⟩

theorem encodeStrict_eq_error_iff : encodeStrict t = .error fault ↔ SurrogateRun t fault := by
  constructor
  · intro fails
    by_cases surrogates : ∃ c ∈ t, c.isSurrogate
    · rcases exists_surrogateRun_iff.2 surrogates with ⟨other, run⟩
      have same := (encodeStrict_of_surrogateRun run).symm.trans fails
      cases same
      exact run
    · rw [SyntaxNode.encodeStrict_eq_ok (by simpa using surrogates)] at fails
      cases fails
  · exact encodeStrict_of_surrogateRun

theorem succeeds_encodeStrict : Succeeds (encodeStrict t) ↔ ∀ c ∈ t, c.isSurrogate = false := by
  rw [← not_iff_not, not_succeeds_iff]
  simp only [encodeStrict_eq_error_iff, exists_surrogateRun_iff]
  simp

end Utf8

/-!
### Nodes with numbers
-/

/-- The text of a line; where there is none it is empty. -/
def Text.lineAt (t : Text) (n : Nat) : Text := (t.lines[n - 1]?).getD []

/-- A number that may be absent. -/
def Value.ofNat? : Option Nat → Value
  | none => .null
  | some n => .int n

namespace SyntaxNode

/-- The node with the given numbers. -/
def ofNumbers (line : Nat) (offset endLine endOffset : Option Nat) : SyntaxNode :=
  ⟨.int line, .ofNat? offset, .ofNat? endLine, .ofNat? endOffset⟩

/-- The end of a node, if both of its numbers are given. -/
def stop? (endLine endOffset : Option Nat) : Option (Nat × Nat) :=
  endLine.bind fun m => endOffset.map fun e => (m, e)

/-- The lines in which columns are counted, in this order. -/
def linesRead (line : Nat) (stop : Option (Nat × Nat)) : List Nat := line :: (stop.map (·.1)).toList

/-- The numbers that are left as they are for an offset into a line: its own and that of the column, if a text does not
    have the line. -/
def numbersLeft (content : Text) (n offset : Nat) : List Nat :=
  if content.lines[n - 1]?.isNone then [n, offset + 1] else []

/-- The numbers of a node that are left as they are, in the order in which they are shown. -/
def numbersGiven (content : Text) (n offset : Nat) (stop : Option (Nat × Nat)) : List Nat :=
  numbersLeft content n offset ++ stop.elim [] fun numbers => numbersLeft content numbers.1 numbers.2

/-- The cell of an offset into a line of a text. Its column counts the code points that the offset has room for,
    and is the offset itself where there is no such line. -/
structure CellIn (content : Text) (n offset : Nat) (cell : Cell) : Prop where
  line : cell.line = n
  inside : ∀ text, content.lines[n - 1]? = some text →
    cell.column = (text.prefixWithin offset).length + 1 ∧ cell.column ≤ text.length + 1
  beyond : content.lines[n - 1]? = none → cell.column = offset + 1

/-- The cells of a node's span. -/
structure SpanIn (content : Text) (n offset : Nat) (stop : Option (Nat × Nat)) (p : Position) : Prop where
  start : CellIn content n offset p.start
  stop : Option.Rel (fun numbers cell => CellIn content numbers.1 numbers.2 cell) stop p.stop

/-- The check that a line must pass for a column to be counted in it. -/
def checkLine (content : Text) (m : Nat) : Except Utf8.EncodeFault Octets := Utf8.encodeStrict (content.lineAt m)

variable {n : Nat}

/-- A column is counted in a line without lone surrogates, and refused in one that holds some. -/
theorem column_outcome (name content : Text) (n_pos : 1 ≤ n) (offset : Nat) :
    (∃ cell, CellIn content n offset cell ∧ Succeeds (checkLine content n) ∧
        column (some (.ofText name content)) (.int n) offset = .ok cell.column) ∨
      ∃ fault, checkLine content n = .error fault ∧
        column (some (.ofText name content)) (.int n) offset = .error (.encode fault) := by
  have looked_up : (Source.ofText name content).lineOf (.int n) = .ok content.lines[n - 1]? :=
    Source.line_eq (.ofText name content) n_pos
  cases found : content.lines[n - 1]? with
  | none =>
      -- The check sees the empty text, which passes; the column does not depend on it.
      refine .inl ⟨⟨n, offset + 1, n_pos, Nat.le_add_left 1 offset⟩, ⟨rfl, ?_, fun _ => rfl⟩, ?_, ?_⟩
      · intro text at_line
        rw [found] at at_line
        cases at_line
      · rw [checkLine, Text.lineAt, found]
        exact succeeds_ok _
      · rw [found] at looked_up
        simp only [column, looked_up]
        rfl
  | some text =>
      have line_at : content.lineAt n = text := by rw [Text.lineAt, found, Option.getD_some]
      rw [found] at looked_up
      rw [checkLine, line_at]
      cases encoded : Utf8.encodeStrict text with
      | error fault =>
          refine .inr ⟨fault, rfl, ?_⟩
          simp only [column, looked_up, bind, Except.bind, Except.mapError, encoded]
      | ok octets =>
          have scalars := Utf8.succeeds_encodeStrict.1 ⟨octets, encoded⟩
          refine .inl ⟨text.cellInLine n n_pos offset, ⟨rfl, ?_, ?_⟩, succeeds_ok _,
            column_eq looked_up scalars offset⟩
          · intro other at_line
            rw [found] at at_line
            cases at_line
            exact ⟨rfl, Nat.succ_le_succ (Text.prefixWithin_isPrefix offset text).length_le⟩
          · intro absent
            rw [found] at absent
            cases absent

/-- The constructor shows the two numbers of a cell, and only those that are left as they are can be too long. -/
theorem findSome?_refusal_eq (name : Text) (node : SyntaxNode) (lineField columnField : SpanField) {content : Text}
    {offset : Nat} {cell : Cell} (n_pos : 1 ≤ n) (in_line : CellIn content n offset cell)
    (at_line : node.lineUnder lineField = .int n) (at_column : node.lineUnder columnField = .int n) :
    ([(lineField, cell.line), (columnField, cell.column)].findSome? fun number =>
        node.refusal? (some (.ofText name content)) number.1 number.2) =
      ((numbersLeft content n offset).findSome? fun k : Nat => Numeral.tooLong? k).map .unwritable := by
  have looked_up : (Source.ofText name content).line n = .ok content.lines[n - 1]? := Source.line_eq _ n_pos
  cases found : content.lines[n - 1]? with
  | some text =>
      -- Of a line that is there no number is left as it is, and none is shown.
      rw [found] at looked_up
      simp [refusal?, at_line, at_column, hasLine_of_line looked_up, numbersLeft, found]
  | none =>
      have no_line : hasLine (some (Source.ofText name content)) (.int n) = false := by
        have looked_up : (Source.ofText name content).lineOf (.int n) = .ok none := found ▸ looked_up
        simp only [hasLine, looked_up]
      simp only [List.findSome?_cons, List.findSome?_nil, refusal?, at_line, at_column, no_line, Bool.false_eq_true,
        if_false, numbersLeft, found, Option.isNone_none, if_true, in_line.line, in_line.beyond found]
      cases Numeral.tooLong? n with
      | some number => rfl
      | none => cases Numeral.tooLong? (offset + 1 : Nat) <;> rfl

/-- The constructor gives the position of some cells unless a number that is left as it is is too long. -/
theorem ofValues_of_spanIn (name : Text) (node : SyntaxNode) {content : Text} {offset : Nat}
    {stop : Option (Nat × Nat)} {p : Position} (n_pos : 1 ≤ n) (cells : SpanIn content n offset stop p)
    (at_line : node.line = .int n)
    (at_stop : ∀ numbers, stop = some numbers → 1 ≤ numbers.1 ∧ node.endLine = .int numbers.1) :
    Position.ofValues (node.reader (some (.ofText name content))) (.int p.start.line) (.int p.start.column)
        (p.stopValue Cell.line) (p.stopValue Cell.column) =
      match (numbersGiven content n offset stop).findSome? fun k : Nat => Numeral.tooLong? k with
      | some number => .error (.unwritable number)
      | none => .ok p := by
  have start_read := findSome?_refusal_eq name node .startLine .startColumn n_pos cells.start at_line at_line
  have shown : (p.numbers.findSome? fun number => node.refusal? (some (.ofText name content)) number.1 number.2) =
      ((numbersGiven content n offset stop).findSome? fun k : Nat => Numeral.tooLong? k).map .unwritable := by
    rw [Position.numbers, numbersGiven, List.findSome?_append, List.findSome?_append, start_read, Option.map_or]
    rcases p with ⟨start, last⟩
    cases cells.stop with
    | none => rfl
    | @some numbers last in_last =>
        have stop_read := at_stop numbers rfl
        rw [Option.elim_some,
          ← findSome?_refusal_eq name node .endLine .endColumn stop_read.1 in_last stop_read.2 stop_read.2]
  rw [Position.ofValues_eq (reader_refuses node _), shown]
  cases (numbersGiven content n offset stop).findSome? fun k : Nat => Numeral.tooLong? k <;> rfl

theorem offsetOf_ofNat? (offset : Option Nat) : offsetOf (.ofNat? offset) = (offset.getD 0 : Nat) := by
  cases offset <;> rfl

theorem stop?_eq_some_iff {endLine endOffset : Option Nat} {m e : Nat} :
    stop? endLine endOffset = some (m, e) ↔ endLine = some m ∧ endOffset = some e := by
  rcases endLine with - | k <;> rcases endOffset with - | i <;> simp [stop?]

section Numbers

variable (source : Option Source) (n_pos : 1 ≤ n) (offset : Option Nat) {endLine endOffset : Option Nat}
include n_pos

theorem span_eq_of_no_stop (no_stop : stop? endLine endOffset = none) :
    span (ofNumbers n offset endLine endOffset) source =
      column source (.int n) (offset.getD 0 : Nat) >>= fun start =>
        ((Position.ofValues ((ofNumbers n offset endLine endOffset).reader source) (.int n) (.int start) .null
          .null).mapError .span).map some := by
  have has_line : isLine (.int n) = true := decide_eq_true (Int.ofNat_le.2 n_pos)
  simp only [span, ofNumbers, has_line, Bool.not_true, Bool.false_eq_true, if_false, offsetOf_ofNat?]
  rcases endLine with - | m
  · rfl
  rcases endOffset with - | e
  · rfl
  cases no_stop

theorem span_eq_of_stop (m e : Nat) :
    span (ofNumbers n offset (some m) (some e)) source =
      column source (.int n) (offset.getD 0 : Nat) >>= fun start =>
        column source (.int m) e >>= fun stop =>
          ((Position.ofValues ((ofNumbers n offset (some m) (some e)).reader source) (.int n) (.int start) (.int m)
            (.int stop)).mapError .span).map some := by
  have has_line : isLine (.int n) = true := decide_eq_true (Int.ofNat_le.2 n_pos)
  simp only [span, ofNumbers, has_line, Bool.not_true, Bool.false_eq_true, if_false, offsetOf_ofNat?]
  rfl

end Numbers

/-- A node of which the lines that it reads pass the check has the span of its numbers, unless one that is left as it
    is is too long; otherwise it is refused with the fault of the first line that does not pass. -/
theorem span_outcome (name content : Text) (n_pos : 1 ≤ n) (offset : Option Nat) {endLine endOffset : Option Nat}
    (end_pos : ∀ m ∈ endLine, 1 ≤ m) :
    (∃ p, SpanIn content n (offset.getD 0) (stop? endLine endOffset) p ∧
        (∀ m ∈ linesRead n (stop? endLine endOffset), Succeeds (checkLine content m)) ∧
        span (ofNumbers n offset endLine endOffset) (some (.ofText name content)) =
          match (numbersGiven content n (offset.getD 0) (stop? endLine endOffset)).findSome?
            fun k : Nat => Numeral.tooLong? k with
          | some number => .error (.span (.unwritable number))
          | none => .ok (some p)) ∨
      ∃ cause, FirstFailure (checkLine content) (linesRead n (stop? endLine endOffset)) cause ∧
        span (ofNumbers n offset endLine endOffset) (some (.ofText name content)) = .error (.encode cause) := by
  rcases stop : stop? endLine endOffset with - | ⟨m, e⟩
  · rw [span_eq_of_no_stop _ n_pos offset stop]
    rcases column_outcome name content n_pos (offset.getD 0) with
      ⟨cell, in_line, passes, counted⟩ | ⟨cause, fails, refused⟩
    · have cells : SpanIn content n (offset.getD 0) none (.point cell) := ⟨in_line, .none⟩
      have built := ofValues_of_spanIn name (ofNumbers n offset endLine endOffset) n_pos cells rfl (by simp)
      refine .inl ⟨.point cell, cells, by simpa [linesRead] using passes, ?_⟩
      simp only [Position.point, Position.stopValue, in_line.line] at built
      rw [counted]
      simp only [bind, Except.bind, built]
      split <;> rfl
    · refine .inr ⟨cause, firstFailure_cons_iff.2 (.inl fails), ?_⟩
      rw [refused]
      rfl
  · obtain ⟨rfl, rfl⟩ := stop?_eq_some_iff.1 stop
    have m_pos := end_pos m rfl
    rw [span_eq_of_stop _ n_pos offset]
    -- The start is counted first, so a start that is refused is reported whatever the end is.
    rcases column_outcome name content n_pos (offset.getD 0) with
      ⟨cell, in_line, passes, counted⟩ | ⟨cause, fails, refused⟩
    · rcases column_outcome name content m_pos e with
        ⟨last, in_last, last_passes, last_counted⟩ | ⟨cause, fails, refused⟩
      · have cells : SpanIn content n (offset.getD 0) (some (m, e)) (.between cell last) :=
          ⟨in_line, .some in_last⟩
        have built := ofValues_of_spanIn name (ofNumbers n offset (some m) (some e)) n_pos cells rfl (by
          rintro numbers ⟨⟩
          exact ⟨m_pos, rfl⟩)
        refine .inl ⟨.between cell last, cells, ?_, ?_⟩
        · simpa [linesRead] using And.intro passes last_passes
        · simp only [Position.between, Position.stopValue, in_line.line, in_last.line] at built
          rw [counted]
          simp only [bind, Except.bind, last_counted, built]
          split <;> rfl
      · refine .inr ⟨cause, firstFailure_cons_iff.2 (.inr ⟨passes, firstFailure_cons_iff.2 (.inl fails)⟩), ?_⟩
        rw [counted]
        simp only [bind, Except.bind, refused]
    · refine .inr ⟨cause, firstFailure_cons_iff.2 (.inl fails), ?_⟩
      rw [refused]
      rfl

theorem firstFailure_checkLine_iff {content : Text} {read : List Nat} {cause : Utf8.EncodeFault} :
    FirstFailure (checkLine content) read cause ↔
      ∃ before m after, read = before ++ m :: after ∧
        (∀ k ∈ before, ∀ c ∈ content.lineAt k, c.isSurrogate = false) ∧
        Utf8.SurrogateRun (content.lineAt m) cause := by
  simp only [FirstFailure, checkLine, Utf8.succeeds_encodeStrict, Utf8.encodeStrict_eq_error_iff]

section Limit

variable {numbers : List Nat}

theorem findSome?_tooLong?_eq_none_iff :
    (numbers.findSome? fun k : Nat => Numeral.tooLong? k) = none ↔
      ∀ k ∈ numbers, Numeral.Writable k := by
  simp only [List.findSome?_eq_none_iff, Numeral.tooLong?_eq_none_iff, Int.natAbs_natCast]

theorem findSome?_tooLong?_eq_some_iff {number : Numeral.WriteFault} :
    (numbers.findSome? fun k : Nat => Numeral.tooLong? k) = some number ↔
      ∃ before k after, numbers = before ++ k :: after ∧ (∀ i ∈ before, Numeral.Writable i) ∧
        ¬ Numeral.Writable k ∧ number = ⟨k⟩ := by
  simp only [List.findSome?_eq_some_iff, Numeral.tooLong?_eq_some_iff, Numeral.tooLong?_eq_none_iff,
    Numeral.write_eq_error_iff, Int.natAbs_natCast]
  constructor
  · rintro ⟨before, k, after, split, ⟨long, same⟩, short⟩
    exact ⟨before, k, after, split, short, long, same⟩
  · rintro ⟨before, k, after, split, short, long, same⟩
    exact ⟨before, k, after, split, ⟨long, same⟩, short⟩

end Limit

/-- A node whose numbers keep their bounds has a span exactly if no lone surrogate stands in the lines in which its
    columns are counted, and if the numbers that are left as they are can be written. The span has the cells of its
    numbers. Otherwise the first run of lone surrogates in the first of these lines that holds some is refused; and
    where none of them does, the first of these numbers that is too long. -/
theorem span_of_numbers (name content : Text) {n : Nat} (n_pos : 1 ≤ n) (offset endLine endOffset : Option Nat)
    (end_pos : ∀ m ∈ endLine, 1 ≤ m) :
    (Succeeds (span (ofNumbers n offset endLine endOffset) (some (.ofText name content))) ↔
      (∀ m ∈ linesRead n (stop? endLine endOffset), ∀ c ∈ content.lineAt m, c.isSurrogate = false) ∧
        ∀ k ∈ numbersGiven content n (offset.getD 0) (stop? endLine endOffset), Numeral.Writable k) ∧
    (∀ result, span (ofNumbers n offset endLine endOffset) (some (.ofText name content)) = .ok result →
      ∃ p, result = some p ∧ SpanIn content n (offset.getD 0) (stop? endLine endOffset) p) ∧
    ∀ fault, span (ofNumbers n offset endLine endOffset) (some (.ofText name content)) = .error fault ↔
      (∃ cause, fault = .encode cause ∧
        ∃ before m after, linesRead n (stop? endLine endOffset) = before ++ m :: after ∧
          (∀ k ∈ before, ∀ c ∈ content.lineAt k, c.isSurrogate = false) ∧
          Utf8.SurrogateRun (content.lineAt m) cause) ∨
      (∀ m ∈ linesRead n (stop? endLine endOffset), ∀ c ∈ content.lineAt m, c.isSurrogate = false) ∧
        ∃ cause, fault = .span (.unwritable cause) ∧
          ∃ before k after, numbersGiven content n (offset.getD 0) (stop? endLine endOffset) = before ++ k :: after ∧
            (∀ i ∈ before, Numeral.Writable i) ∧ ¬ Numeral.Writable k ∧ cause = ⟨k⟩ := by
  simp only [← firstFailure_checkLine_iff, ← findSome?_tooLong?_eq_some_iff]
  simp only [← Utf8.succeeds_encodeStrict, ← findSome?_tooLong?_eq_none_iff]
  rcases span_outcome name content n_pos offset end_pos with ⟨p, cells, passes, spans⟩ | ⟨cause, first, fails⟩
  · have no_failure : ∀ cause, ¬ FirstFailure (checkLine content) (linesRead n (stop? endLine endOffset)) cause :=
      fun cause first => exists_firstFailure_iff.1 ⟨cause, first⟩ passes
    rw [spans]
    cases (numbersGiven content n (offset.getD 0) (stop? endLine endOffset)).findSome?
        fun k : Nat => Numeral.tooLong? k with
    | some number =>
        refine ⟨iff_of_false (not_succeeds_error _) (fun passed => by cases passed.2), by simp, fun fault => ?_⟩
        simp only [no_failure, and_false, exists_false, false_or, Except.error.injEq, Option.some.injEq]
        constructor
        · rintro rfl
          exact ⟨passes, number, rfl, rfl⟩
        · rintro ⟨-, cause, rfl, rfl⟩
          rfl
    | none =>
        refine ⟨iff_of_true (succeeds_ok _) ⟨passes, rfl⟩, ?_, fun fault => ?_⟩
        · rintro result ⟨⟩
          exact ⟨p, rfl, cells⟩
        · simp [no_failure]
  · have not_passed := exists_firstFailure_iff.1 ⟨cause, first⟩
    rw [fails]
    refine ⟨iff_of_false (not_succeeds_error _) (fun passed => not_passed passed.1), by simp, fun fault => ?_⟩
    constructor
    · rintro ⟨⟩
      exact .inl ⟨cause, rfl, first⟩
    · rintro (⟨other, rfl, also⟩ | ⟨passes, -⟩)
      · rw [first.unique also]
      · exact absurd passes not_passed

/-- A node that begins inside a symbol of the first line and ends behind the second. -/
theorem span_of_numbers_two_lines : ∃ p,
    span (ofNumbers 1 (some 5) (some 2) (some 1)) (some (.ofText ['s'] columnSample)) = .ok (some p) ∧
      SpanIn columnSample 1 5 (some (2, 1)) p := by
  have first_line : 1 ≤ 1 := Nat.le_refl 1
  rcases span_of_numbers ['s'] columnSample first_line (some 5) (some 2) (some 1) (by simp) with ⟨succeeds, cells, -⟩
  rcases succeeds.2 ⟨by decide, by decide⟩ with ⟨result, spans⟩
  rcases cells result spans with ⟨p, rfl, in_cells⟩
  exact ⟨p, spans, in_cells⟩

/-- A lone surrogate is all that there is: the source counts three octets for it, and a node at the first of them
    has no span. -/
theorem span_lone_surrogate :
    (Source.ofText ['s'] [⟨0xDCFF, by decide⟩]).octetLength = some 3 ∧
      span (ofNumbers 1 (some 0) none none) (some (.ofText ['s'] [⟨0xDCFF, by decide⟩])) =
        .error (.encode ⟨0, ⟨0xDCFF, by decide⟩, 1⟩) := ⟨rfl, rfl⟩

end SyntaxNode

end Marginalia
