/-
Module: Marginalia.Text.Basic
Purpose: Text as diagnostics count it. A `Text` is a list of code points, so a length, a column and a cut
  are all counted in code points and never in encoded octets. Lone surrogates are code points like any
  other: a file name or a source read from a careless tool may hold them, and a renderer must be able to
  carry them through. The operations here are the ones every later layer shares: literals, decimal
  numerals, line splitting, leftmost substring search and padding.
Main exports: CodePoint, Text, Text.of, Text.lines, Text.pieces, Text.firstIndex?, Text.ofNat, Text.ofInt, Text.padLeft,
  Text.cut?, CodePoint.inRanges
-/

namespace Marginalia

/-- A Unicode code point. Surrogates are included: the bound is the only condition. -/
structure CodePoint where
  val : Nat
  isLt : val < 0x110000
deriving DecidableEq

namespace CodePoint

/-- Every scalar value is a code point. -/
def ofChar (c : Char) : CodePoint :=
  ⟨c.toNat, by
    have valid := c.valid
    simp only [UInt32.isValidChar, Nat.isValidChar] at valid
    show c.val.toNat < 0x110000
    omega⟩

instance : Coe Char CodePoint := ⟨ofChar⟩

/-- The code point with a given number; a number past the last code point gives the replacement
    character, a case that a reader of well-formed input never meets. -/
def ofNat (n : Nat) : CodePoint :=
  if h : n < 0x110000 then ⟨n, h⟩ else ⟨0xFFFD, by decide⟩

/-- The line feed, the only code point that ends a line of a source. -/
def newline : CodePoint := ⟨0x0A, by decide⟩

/-- The plain space. -/
def blank : CodePoint := ⟨0x20, by decide⟩

/-- The mark that delimits a code span inside a message. -/
def backtick : CodePoint := ⟨0x60, by decide⟩

/-- The surrogates are the code points that are no scalar values. -/
def isSurrogate (c : CodePoint) : Bool := 0xD800 ≤ c.val && c.val ≤ 0xDFFF

/-- Membership in a table of closed ranges, the form in which properties of code points are stored. -/
def inRanges (table : List (Nat × Nat)) (c : CodePoint) : Bool :=
  table.any fun range => range.1 ≤ c.val && c.val ≤ range.2

end CodePoint

/-- Text is a list of code points. -/
abbrev Text := List CodePoint

namespace Text

/-- The text of a literal. -/
def of (s : String) : Text := s.toList.map CodePoint.ofChar

instance : Coe String Text := ⟨of⟩

/-- A run of plain spaces. -/
def blanks (n : Nat) : Text := List.replicate n CodePoint.blank

/-- The decimal numeral of a number, without leading zeros. -/
def ofNat (n : Nat) : Text := (Nat.toDigits 10 n).map CodePoint.ofChar

/-- The decimal numeral of an integer; a minus sign stands before a negative one. -/
def ofInt : Int → Text
  | .ofNat n => ofNat n
  | .negSucc n => CodePoint.ofChar '-' :: ofNat (n + 1)

/-- Pad with blanks on the left up to a width; a longer text is kept whole. -/
def padLeft (width : Nat) (t : Text) : Text := blanks (width - t.length) ++ t

/-- The pieces of a text between the occurrences of a mark, in order; a text without the mark is one
    piece, and a final mark yields a final empty piece. -/
def pieces (mark : CodePoint) : Text → List Text
  | [] => [[]]
  | c :: rest =>
    if c = mark then [] :: pieces mark rest
    else
      match pieces mark rest with
      | [] => [[c]]
      | first :: others => (c :: first) :: others

/-- There is one piece more than there are marks. -/
theorem length_pieces (mark : CodePoint) (t : Text) : (pieces mark t).length = t.count mark + 1 := by
  induction t with
  | nil => rfl
  | cons c rest ih =>
      rw [pieces]
      split
      next same => rw [List.length_cons, ih, same, List.count_cons_self]
      next differs =>
        cases split : pieces mark rest with
        | nil => simp [split] at ih
        | cons first others => rw [List.length_cons, List.count_cons_of_ne differs, ← ih, split, List.length_cons]

/-- The lines of a text: its pieces between line feeds. A final line feed yields a final empty line, and
    the empty text has one empty line. -/
def lines (t : Text) : List Text := pieces CodePoint.newline t

theorem length_lines (t : Text) : t.lines.length = t.count CodePoint.newline + 1 := length_pieces _ t

/-- The index of the leftmost occurrence of a pattern, if there is one. -/
def firstIndex? (pattern : Text) : Text → Option Nat
  | [] => if pattern = [] then some 0 else none
  | c :: rest =>
    if pattern.isPrefixOf (c :: rest) then some 0
    else (firstIndex? pattern rest).map (· + 1)

/-- The index of the leftmost occurrence that starts at `start` or later. -/
def firstIndexFrom? (pattern text : Text) (start : Nat) : Option Nat :=
  (firstIndex? pattern (text.drop start)).map (· + start)

/-- Cut a text at the first occurrence of a mark: what stands before it and what stands after. -/
def cut? (mark : CodePoint) : Text → Option (Text × Text)
  | [] => none
  | c :: rest =>
    if c = mark then some ([], rest)
    else (cut? mark rest).map fun parts => (c :: parts.1, parts.2)

end Text

end Marginalia
