/-
Module: Marginalia.Text.Quoted
Purpose: Text inside a message, quoted so that its ends and its invisible characters can be seen. Single
  quotes are used unless the text has a single quote and no double one. The quote in use and the backslash
  are escaped, line feed, carriage return and tab have short escapes, and every other unprintable code
  point is written by number in two, four or eight hexadecimal digits.
Main exports: Text.quoted
-/

import Marginalia.Text.Utf8
import Marginalia.Text.Printable

namespace Marginalia.Text

/-- The quote that needs the fewest escapes. -/
def quoteFor (t : Text) : CodePoint :=
  if t.contains '\'' && !t.contains '"' then '"' else '\''

/-- An escape that names a code point by number. -/
def numericEscape (c : CodePoint) : Text :=
  if c.val < 0x100 then Text.of "\\x" ++ Utf8.hexadecimal 2 c.val
  else if c.val < 0x10000 then Text.of "\\u" ++ Utf8.hexadecimal 4 c.val
  else Text.of "\\U" ++ Utf8.hexadecimal 8 c.val

/-- One code point inside a given quote. -/
def quotedPoint (quote c : CodePoint) : Text :=
  if c = quote ∨ c = '\\' then ['\\', c]
  else if c = '\t' then "\\t"
  else if c = '\n' then "\\n"
  else if c = '\r' then "\\r"
  else if c.isPrintable then [c]
  else numericEscape c

/-- A text between quotes. -/
def quoted (t : Text) : Text :=
  let quote := quoteFor t
  quote :: t.flatMap (quotedPoint quote) ++ [quote]

end Marginalia.Text
