/-
Module: Marginalia.Text.Blank
Purpose: White space at the ends of a text. Every code point that the character database calls white space
  counts, and so do the four information separators below the plain space.
Main exports: CodePoint.isBlank, Text.trim
-/

import Marginalia.Text.Basic

namespace Marginalia

/-- The closed ranges of white space, in increasing order. -/
def CodePoint.blankRanges : List (Nat × Nat) := [
    (0x0009, 0x000D), (0x001C, 0x0020), (0x0085, 0x0085), (0x00A0, 0x00A0), (0x1680, 0x1680),
    (0x2000, 0x200A), (0x2028, 0x2029), (0x202F, 0x202F), (0x205F, 0x205F), (0x3000, 0x3000)]

/-- Whether a code point is white space. -/
def CodePoint.isBlank (c : CodePoint) : Bool := c.inRanges blankRanges

/-- A text without the white space at its end. -/
def Text.trimRight (t : Text) : Text := (t.reverse.dropWhile CodePoint.isBlank).reverse

/-- A text without the white space at its two ends. -/
def Text.trim (t : Text) : Text := Text.trimRight (t.dropWhile CodePoint.isBlank)

end Marginalia
