/-
Module: Marginalia.Proofs.SyntaxNode
Purpose: Spans of syntax nodes and offsets into the content are two ways to one place. A node counts octets
  from the start of a line; the octets of the lines above, each with its line feed, turn that into an offset
  into the content. The one way encodes the line, cuts it and reads what is left, the other walks over the
  whole content: both pass the code points of the longest prefix that the offset has room for, also where the
  offset lies inside a code point.
Main exports: Text.lineStart, Source.cellAt?_lineStart_add, SyntaxNode.column_eq, SyntaxNode.span_eq,
  SyntaxNode.span_agrees_with_offsets
-/

import Mathlib.Data.List.TakeWhile
import Marginalia.Proofs.Source.Boundaries
import Marginalia.Proofs.Span.Construction
import Marginalia.Proofs.Text.Skipping
import Marginalia.Span.Resolve
import Marginalia.SyntaxNode

namespace Marginalia

/-!
### Offsets into lines
-/

/-- The offset of the first octet of a line. The lines above stand in front of it, each with its line feed. -/
def Text.lineStart (t : Text) (n : Nat) : Nat := (terminated (t.lines.take (n - 1))).encode.length

/-- The cell of an offset into a line, counted in the code points that the offset has room for. -/
def Text.cellInLine (line : Text) (n : Nat) (n_pos : 1 ≤ n) (offset : Nat) : Cell :=
  ⟨n, (line.prefixWithin offset).length + 1, n_pos, Nat.le_add_left 1 _⟩

theorem Text.column_cellInLine_of_le {line : Text} {n offset : Nat} (n_pos : 1 ≤ n)
    (past : line.encode.length ≤ offset) : (line.cellInLine n n_pos offset).column = line.length + 1 := by
  simp only [cellInLine, prefixWithin_of_length_encode_le past]

namespace Source

variable {name content line : Text} {n offset : Nat}

theorem exists_getElem?_of_line (at_line : (ofText name content).line n = .ok (some line)) :
    1 ≤ n ∧ content.lines[n - 1]? = some line := by
  have n_pos : 1 ≤ n := by
    by_contra below
    rw [Source.line, lineOf, lineNumber, if_neg (by omega)] at at_line
    cases at_line
  rw [line_eq _ n_pos, Except.ok.injEq] at at_line
  exact ⟨n_pos, at_line⟩

/-- From the first octet of a line on, offsets lead to the cells of that line. -/
theorem cellAt?_lineStart_add (name : Text) (n_pos : 1 ≤ n) (at_line : content.lines[n - 1]? = some line)
    (inside : offset ≤ line.encode.length) :
    (ofText name content).cellAt? (content.lineStart n + offset : Nat) =
      some (line.cellInLine n n_pos offset) := by
  rcases Text.exists_eq_terminated_append at_line with ⟨rest, whole⟩
  have above_free : ∀ l ∈ content.lines.take (n - 1), CodePoint.newline ∉ l := fun _ mem =>
    Text.newline_not_mem_of_mem_take mem
  have above_length : (content.lines.take (n - 1)).length = n - 1 :=
    List.length_take_of_le (List.getElem?_eq_some_iff.1 at_line).1.le
  have front_free : CodePoint.newline ∉ line.prefixWithin offset := by
    intro mem
    apply Text.newline_not_mem_of_mem_lines (List.mem_of_getElem? at_line)
    exact (Text.prefixWithin_isPrefix offset line).subset mem
  rw [Text.lineStart]
  generalize content.lines.take (n - 1) = above at whole above_free above_length
  have inside_content : (Text.terminated above).encode.length + offset ≤ content.encode.length := by
    rw [whole]
    simp only [Text.encode_append, List.length_append]
    omega
  have within : content.prefixWithin ((Text.terminated above).encode.length + offset) =
      Text.terminated above ++ line.prefixWithin offset := by
    rw [whole, Text.prefixWithin_length_encode_add, Text.prefixWithin_append_of_le inside]
  rw [cellAt?_of_le name inside_content, within, Cell.after_terminated_append above_free front_free]
  congr 1
  apply Cell.ext_coordinates
  · simp only [above_length, Text.cellInLine]
    omega
  · rfl

end Source

/-!
### Nodes
-/

namespace SyntaxNode

variable {source : Source} {first last : Text} {n m : Nat}

theorem encodeStrict_eq_ok {t : Text} (scalars : ∀ c ∈ t, c.isSurrogate = false) :
    Utf8.encodeStrict t = .ok t.encode := by
  have no_surrogate : t.dropWhile (fun c => !c.isSurrogate) = [] :=
    List.dropWhile_eq_nil_iff.2 fun c mem => by simp [scalars c mem]
  simp only [Utf8.encodeStrict, no_surrogate]

/-- The column of an offset into a line is counted in the code points that the offset has room for. -/
theorem column_eq (at_line : source.line n = .ok (some first)) (scalars : ∀ c ∈ first, c.isSurrogate = false)
    (offset : Nat) :
    column (some source) (.int n) offset = .ok ((first.prefixWithin offset).length + 1) := by
  have looked_up : source.lineOf (.int n) = .ok (some first) := at_line
  have front : frontOctets first.encode offset = first.encode.take offset := by
    rw [frontOctets, if_pos (Int.natCast_nonneg offset), Int.toNat_natCast]
  simp only [column, looked_up, encodeStrict_eq_ok scalars, front, Utf8.decodeSkipping_take_encode scalars,
    bind, Except.bind, Except.mapError, pure, Except.pure]

/-- Why a number of a node's span is refused, if it is: numbers that the node gives itself can be too long for the
    constructor, those of lines that are there cannot. -/
def refusal? (node : SyntaxNode) (source : Option Source) (field : SpanField) (n : Nat) : Option SpanFault :=
  if hasLine source (node.lineUnder field) then none else (Numeral.tooLong? n).map .unwritable

theorem reader_refuses (node : SyntaxNode) (source : Option Source) :
    (node.reader source).Refuses (node.refusal? source) := by
  intro field n keeps
  simp only [reader, refusal?]
  split
  next => exact SpanField.check_refuses field n keeps
  next => exact SpanField.read_refuses field n keeps

theorem hasLine_of_line (at_line : source.line n = .ok (some first)) : hasLine (some source) (.int n) = true := by
  have looked_up : source.lineOf (.int n) = .ok (some first) := at_line
  simp only [hasLine, looked_up]

/-- The span of a node whose lines exist goes from the cell of the one offset to the cell of the other. -/
theorem span_eq (n_pos : 1 ≤ n) (m_pos : 1 ≤ m) (at_first : source.line n = .ok (some first))
    (at_last : source.line m = .ok (some last)) (first_scalars : ∀ c ∈ first, c.isSurrogate = false)
    (last_scalars : ∀ c ∈ last, c.isSurrogate = false) (b e : Nat) :
    SyntaxNode.span ⟨.int n, .int b, .int m, .int e⟩ (some source) =
      .ok (some (.between (first.cellInLine n n_pos b) (last.cellInLine m m_pos e))) := by
  have has_line : isLine (.int n) = true := decide_eq_true (Int.ofNat_le.2 n_pos)
  have constructed := Position.ofValues_eq (reader_refuses ⟨.int n, .int b, .int m, .int e⟩ (some source))
    (.between (first.cellInLine n n_pos b) (last.cellInLine m m_pos e))
  simp only [Position.between, Position.numbers, refusal?, lineUnder, hasLine_of_line at_first,
    hasLine_of_line at_last, if_true, List.cons_append, List.nil_append, List.findSome?_cons,
    List.findSome?_nil] at constructed
  simp only [Position.stopValue, Text.cellInLine, Int.natCast_add, Int.natCast_one] at constructed
  simp only [span, has_line, offsetOf, Value.comparedInt?, Option.getD_some, column_eq at_first first_scalars,
    column_eq at_last last_scalars, bind, Except.bind, pure, Except.pure, Bool.not_true, Bool.false_eq_true, if_false,
    constructed, Except.mapError]
  rfl

/-- The span of a node agrees with the offsets into the content. In a content without surrogates, let a node
    begin in an existing line at some offset of octets and end in one. Its span is the stretch between two cells
    of these lines. As long as an offset stays in its line, its cell is the one that the walk over the content
    finds at the offset counted from the start of the content, inside a code point as well as between two;
    an offset at or past the end of its line gives the column behind the last one. Where both stay in their
    lines, a range of octets from the one to the other resolves to the same position. -/
theorem span_agrees_with_offsets (name content : Text) (scalars : ∀ c ∈ content, c.isSurrogate = false)
    {n m : Nat} {first last : Text} (at_first : (Source.ofText name content).line n = .ok (some first))
    (at_last : (Source.ofText name content).line m = .ok (some last)) (b e : Nat) :
    ∃ start stop, SyntaxNode.span ⟨.int n, .int b, .int m, .int e⟩ (some (.ofText name content)) =
        .ok (some (.between start stop)) ∧
      start.line = n ∧ stop.line = m ∧
      (b ≤ first.encode.length →
        (Source.ofText name content).cellAt? (content.lineStart n + b : Nat) = some start) ∧
      (e ≤ last.encode.length →
        (Source.ofText name content).cellAt? (content.lineStart m + e : Nat) = some stop) ∧
      (first.encode.length ≤ b → start.column = first.length + 1) ∧
      (last.encode.length ≤ e → stop.column = last.length + 1) ∧
      (b ≤ first.encode.length → e ≤ last.encode.length →
        ∀ some_octets : 1 ≤ content.lineStart m + e - (content.lineStart n + b),
          (OctetRange.resolve ⟨content.lineStart n + b, content.lineStart m + e - (content.lineStart n + b),
            some_octets⟩ (some (.ofText name content))).value = .between start stop) := by
  rcases Source.exists_getElem?_of_line at_first with ⟨n_pos, of_first⟩
  rcases Source.exists_getElem?_of_line at_last with ⟨m_pos, of_last⟩
  have scalars_of_line : ∀ line ∈ content.lines, ∀ c ∈ line, c.isSurrogate = false := by
    intro line mem c of_line
    rcases List.getElem?_of_mem mem with ⟨i, at_line⟩
    rcases Text.exists_eq_terminated_append at_line with ⟨rest, whole⟩
    apply scalars
    rw [whole]
    exact List.mem_append_right _ (List.mem_append_left rest of_line)
  have start_cell : b ≤ first.encode.length → (Source.ofText name content).cellAt? (content.lineStart n + b : Nat) =
      some (first.cellInLine n n_pos b) := Source.cellAt?_lineStart_add name n_pos of_first
  have stop_cell : e ≤ last.encode.length → (Source.ofText name content).cellAt? (content.lineStart m + e : Nat) =
      some (last.cellInLine m m_pos e) := Source.cellAt?_lineStart_add name m_pos of_last
  refine ⟨first.cellInLine n n_pos b, last.cellInLine m m_pos e,
    span_eq n_pos m_pos at_first at_last (scalars_of_line first (List.mem_of_getElem? of_first))
      (scalars_of_line last (List.mem_of_getElem? of_last)) b e,
    rfl, rfl, start_cell, stop_cell, Text.column_cellInLine_of_le n_pos, Text.column_cellInLine_of_le m_pos, ?_⟩
  intro begins ends some_octets
  have stop : OctetRange.stop ⟨content.lineStart n + b, content.lineStart m + e - (content.lineStart n + b),
      some_octets⟩ = content.lineStart m + e := by
    rw [OctetRange.stop]
    simp only
    omega
  simp only [OctetRange.resolve, start_cell begins, stop, stop_cell ends]
  rfl

/-- A first line that ends in a letter of two octets and a symbol of four, and a second one. -/
def columnSample : Text := ['a', CodePoint.ofNat 0xE9, CodePoint.ofNat 0x1F600, '\n', 'b']

/-- An offset inside the symbol belongs to its start, and one past the end of the second line to the column
    behind it. -/
theorem span_agrees_with_offsets_inside : ∃ start stop,
    SyntaxNode.span ⟨.int 1, .int 5, .int 2, .int 1⟩ (some (.ofText ['s'] columnSample)) =
        .ok (some (.between start stop)) ∧
      (Source.ofText ['s'] columnSample).cellAt? 5 = some start ∧
      (Source.ofText ['s'] columnSample).cellAt? 9 = some stop ∧ stop.column = 2 ∧
      (OctetRange.resolve ⟨5, 4, by decide⟩ (some (.ofText ['s'] columnSample))).value = .between start stop := by
  have first_line : (Source.ofText ['s'] columnSample).line (1 : Nat) = .ok (some (columnSample.take 3)) := by rfl
  have second_line : (Source.ofText ['s'] columnSample).line (2 : Nat) = .ok (some ['b']) := by rfl
  obtain ⟨start, stop, spans, -, -, start_cell, stop_cell, -, past, range⟩ :=
    span_agrees_with_offsets ['s'] columnSample (by decide) first_line second_line 5 1
  exact ⟨start, stop, spans, start_cell (by decide), stop_cell (by decide), past (by decide),
    range (by decide) (by decide) (by decide)⟩

end SyntaxNode

end Marginalia
