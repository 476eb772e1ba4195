/-
Module: Marginalia.Json.Reader
Purpose: Reading JSON text. The grammar is the usual one with three additions: `NaN`, `Infinity` and
  `-Infinity` are numbers, an escaped surrogate may stand alone, and of two members with one key the last
  value wins in the first one's place. A number with a fraction or an exponent is a binary one, all others
  are integers of any size up to the numeral limit. Lists and objects may stand in each other up to a limit.
  A fault names what was expected and the offset of the code point where it was missing.
Main exports: Json.read, Json.Fault, Json.Cause, Json.NestingFault, Json.nestingLimit
-/

import Marginalia.Cell
import Marginalia.Value
import Marginalia.Text.Numeral

namespace Marginalia.Json

/-- What is wrong with a text that is not JSON. -/
inductive Cause where
  | expectingValue
  | expectingName
  | expectingColon
  | expectingComma
  | extraData
  | unterminatedString
  | controlCharacter
  | invalidEscape
  | invalidNumericEscape
  | byteOrderMark
deriving DecidableEq, Repr

/-- The wording of a cause. -/
def Cause.message : Cause → Text
  | .expectingValue => "Expecting value"
  | .expectingName => "Expecting property name enclosed in double quotes"
  | .expectingColon => "Expecting ':' delimiter"
  | .expectingComma => "Expecting ',' delimiter"
  | .extraData => "Extra data"
  | .unterminatedString => "Unterminated string starting at"
  | .controlCharacter => "Invalid control character at"
  | .invalidEscape => "Invalid \\escape"
  | .invalidNumericEscape => "Invalid \\uXXXX escape"
  | .byteOrderMark => "Unexpected UTF-8 BOM (decode using utf-8-sig)"

/-- A list or an object stands inside more others than are allowed. -/
inductive NestingFault where
  | list
  | object
deriving DecidableEq, Repr

/-- The wording of the fault. -/
def NestingFault.message (fault : NestingFault) : Text :=
  Text.of "maximum recursion depth exceeded while decoding a JSON " ++
    Text.of (match fault with
      | .list => "array"
      | .object => "object") ++
    Text.of " from a unicode string"

/-- How many lists and objects may stand in each other. -/
def nestingLimit : Nat := 990

/-- A text is refused for its form, at an offset, for a numeral that is too long, or for its nesting. -/
inductive Fault where
  | malformed (cause : Cause) (offset : Nat)
  | numeral (fault : Numeral.Fault)
  | nesting (fault : NestingFault)
deriving DecidableEq

/-- The text still to be read and the offset at which it starts. -/
structure Cursor where
  rest : Text
  offset : Nat

namespace Cursor

/-- Refuse the text at the cursor. -/
def refuse {α : Type} (cursor : Cursor) (cause : Cause) : Except Fault α :=
  .error (.malformed cause cursor.offset)

/-- The cursor some code points further on. -/
def skip (cursor : Cursor) (n : Nat) : Cursor := ⟨cursor.rest.drop n, cursor.offset + n⟩

/-- Only these four code points may stand between tokens. -/
def isSpace (c : CodePoint) : Bool := c = ' ' || c = '\t' || c = '\n' || c = '\r'

/-- The cursor behind the space in front of it. -/
def skipSpace (cursor : Cursor) : Cursor := cursor.skip (cursor.rest.takeWhile isSpace).length

/-- Whether a given code point stands at the cursor. -/
def at? (cursor : Cursor) (c : CodePoint) : Bool := cursor.rest.head? = some c

end Cursor

/-!
### Strings
-/

/-- The value of a hexadecimal digit. -/
def hexValue? (c : CodePoint) : Option Nat :=
  if 0x30 ≤ c.val ∧ c.val ≤ 0x39 then some (c.val - 0x30)
  else if 0x41 ≤ c.val ∧ c.val ≤ 0x46 then some (c.val - 0x41 + 10)
  else if 0x61 ≤ c.val ∧ c.val ≤ 0x66 then some (c.val - 0x61 + 10)
  else none

/-- The value of four hexadecimal digits. -/
def hexNumber? (a b c d : CodePoint) : Option Nat := do
  return (((← hexValue? a) * 16 + (← hexValue? b)) * 16 + (← hexValue? c)) * 16 + (← hexValue? d)

/-- The code point that a short escape stands for. -/
def shortEscape? (c : CodePoint) : Option CodePoint :=
  if c = '"' ∨ c = '\\' ∨ c = '/' then some c
  else if c = 'b' then some (CodePoint.ofNat 0x08)
  else if c = 'f' then some (CodePoint.ofNat 0x0C)
  else if c = 'n' then some (CodePoint.ofNat 0x0A)
  else if c = 'r' then some (CodePoint.ofNat 0x0D)
  else if c = 't' then some (CodePoint.ofNat 0x09)
  else none

/-- Whether a number is that of a leading surrogate. -/
def isLeading (n : Nat) : Bool := 0xD800 ≤ n && n < 0xDC00

/-- Whether a number is that of a trailing surrogate. -/
def isTrailing (n : Nat) : Bool := 0xDC00 ≤ n && n < 0xE000

/-- The code point of a surrogate pair. -/
def joinSurrogates (leading trailing : Nat) : CodePoint :=
  CodePoint.ofNat (0x10000 + (leading - 0xD800) * 0x400 + (trailing - 0xDC00))

/-- What stands at one place inside a string: its end, a code point together with how many more code
    points of the text belong to it, or a fault some places further on. -/
inductive StringPiece where
  | closing
  | point (c : CodePoint) (further : Nat)
  | faulty (cause : Cause) (further : Nat)
  | breaksOff
deriving DecidableEq

/-- The number of a numeric escape whose backslash is already read; its mark and its four digits must be
    followed by something. -/
def numericEscape? (t : Text) : Option Nat :=
  match t with
  | mark :: a :: b :: c :: d :: _ :: _ => if mark = 'u' then hexNumber? a b c d else none
  | _ => none

/-- The trailing surrogate that a text escapes, if it starts with one. -/
def trailingEscape? (t : Text) : Option Nat :=
  match t with
  | c :: rest => if c = '\\' then (numericEscape? rest).filter isTrailing else none
  | [] => none

/-- The piece behind a backslash. Two escaped surrogates that form a pair give one code point. -/
def escapedPiece (t : Text) : StringPiece :=
  match t with
  | [] => .breaksOff
  | mark :: _ =>
    if mark = 'u' then
      match numericEscape? t with
      | none => .faulty .invalidNumericEscape 1
      | some n =>
        match if isLeading n then trailingEscape? (t.drop 5) else none with
        | some m => .point (joinSurrogates n m) 11
        | none => .point (CodePoint.ofNat n) 5
    else
      match shortEscape? mark with
      | some c => .point c 1
      | none => .faulty .invalidEscape 0

/-- The piece that starts with a code point. -/
def stringPiece (c : CodePoint) (rest : Text) : StringPiece :=
  if c = '"' then .closing
  else if c = '\\' then escapedPiece rest
  else if c.val < 0x20 then .faulty .controlCharacter 0
  else .point c 0

/-- The rest of a string that opened at offset `opened`, from a place inside it. -/
def readString (opened : Nat) (t : Text) (offset : Nat) : Except Fault (Text × Cursor) :=
  match t with
  | [] => .error (.malformed .unterminatedString opened)
  | c :: rest =>
    match stringPiece c rest with
    | .closing => .ok ([], ⟨rest, offset + 1⟩)
    | .point p further =>
      (readString opened (rest.drop further) (offset + 1 + further)).map fun (t, cursor) =>
        (p :: t, cursor)
    | .faulty cause further => .error (.malformed cause (offset + further))
    | .breaksOff => .error (.malformed .unterminatedString opened)
termination_by t.length
decreasing_by simp only [List.length_drop, List.length_cons]; omega

/-!
### Numbers
-/

/-- Whether a code point is one of the ten plain digits. -/
def isDigit (c : CodePoint) : Bool := 0x30 ≤ c.val && c.val ≤ 0x39

/-- The values of plain digits. -/
def digitValues (t : Text) : List Nat := t.map fun c => c.val - 0x30

/-- The digits of a fraction, when a point and at least one digit stand in front. -/
def fractionOf (t : Text) : Text :=
  match t with
  | point :: rest => if point = '.' then rest.takeWhile isDigit else []
  | [] => []

/-- The power of ten of an exponent and the length of its text, when it has at least one digit. -/
def exponentOf? (t : Text) : Option (Int × Nat) :=
  match t with
  | mark :: rest =>
    let negative := rest.head? = some '-'
    let signed := negative ∨ rest.head? = some '+'
    let digits := (if signed then rest.tail else rest).takeWhile isDigit
    if (mark = 'e' ∨ mark = 'E') ∧ digits ≠ [] then
      let n : Int := Numeral.ofDigits (digitValues digits)
      some (if negative then -n else n, digits.length + (if signed then 2 else 1))
    else none
  | [] => none

/-- The number at the cursor. A leading zero ends the integer part, so that what follows it is not part of
    the number. -/
def readNumber (cursor : Cursor) : Except Fault (Value × Cursor) :=
  let negative := cursor.at? '-'
  let unsigned := if negative then cursor.skip 1 else cursor
  let whole :=
    if unsigned.at? '0' then unsigned.rest.take 1 else unsigned.rest.takeWhile isDigit
  if whole = [] then cursor.refuse .expectingValue
  else
    let afterWhole := unsigned.skip whole.length
    let fraction := fractionOf afterWhole.rest
    let afterFraction := if fraction = [] then afterWhole else afterWhole.skip (fraction.length + 1)
    match exponentOf? afterFraction.rest with
    | some (power, length) =>
      let digits := Numeral.ofDigits (digitValues (whole ++ fraction))
      .ok (.float (Binary64.ofDecimal negative digits (power - fraction.length)), afterFraction.skip length)
    | none =>
      if fraction ≠ [] then
        let digits := Numeral.ofDigits (digitValues (whole ++ fraction))
        .ok (.float (Binary64.ofDecimal negative digits (-(fraction.length : Int))), afterFraction)
      else if whole.length > Numeral.digitLimit then .error (.numeral (.tooLong whole.length))
      else
        let n : Int := Numeral.ofDigits (digitValues whole)
        .ok (.int (if negative then -n else n), afterWhole)

/-!
### Values

Every value, element and member takes at least one code point, so a fuel of the text's length is never
used up.
-/

/-- The words that stand for values. -/
def words : List (Text × Value) :=
  [(Text.of "null", .null), (Text.of "true", .bool true), (Text.of "false", .bool false),
    (Text.of "NaN", .float .nan), (Text.of "Infinity", .float (.infinite false)),
    (Text.of "-Infinity", .float (.infinite true))]

/-- The word at the cursor, or else the number. -/
def readWordOrNumber (cursor : Cursor) : Except Fault (Value × Cursor) :=
  match words.find? fun word => word.1.isPrefixOf cursor.rest with
  | some word => .ok (word.2, cursor.skip word.1.length)
  | none => readNumber cursor

mutual

/-- The value at the cursor, which may hold so many lists and objects in each other. -/
def readValue (room : Nat) : Nat → Cursor → Except Fault (Value × Cursor)
  | 0, cursor => cursor.refuse .expectingValue
  | fuel + 1, cursor =>
    if cursor.at? '"' then
      (readString cursor.offset (cursor.rest.drop 1) (cursor.offset + 1)).map fun (t, cursor) =>
        (.text t, cursor)
    else if cursor.at? '[' then
      let inside := (cursor.skip 1).skipSpace
      if room = 0 then .error (.nesting .list)
      else if inside.at? ']' then .ok (.list [], inside.skip 1)
      else (readItems (room - 1) fuel inside).map fun (items, cursor) => (.list items, cursor)
    else if cursor.at? '\x7b' then
      let inside := (cursor.skip 1).skipSpace
      if room = 0 then .error (.nesting .object)
      else if inside.at? '\x7d' then .ok (.object [], inside.skip 1)
      else (readMembers (room - 1) fuel inside).map fun (members, cursor) =>
        (.object (members.foldl (fun kept entry => Value.putMember kept entry.1 entry.2) []), cursor)
    else readWordOrNumber cursor

/-- The items of a list from the first one on, with the closing bracket. -/
def readItems (room : Nat) : Nat → Cursor → Except Fault (List Value × Cursor)
  | 0, cursor => cursor.refuse .expectingValue
  | fuel + 1, cursor => do
    let (item, cursor) ← readValue room fuel cursor
    let cursor := cursor.skipSpace
    if cursor.at? ']' then .ok ([item], cursor.skip 1)
    else if cursor.at? ',' then
      let (items, cursor) ← readItems room fuel (cursor.skip 1).skipSpace
      .ok (item :: items, cursor)
    else cursor.refuse .expectingComma

/-- The members of an object from the first one on, with the closing brace. -/
def readMembers (room : Nat) : Nat → Cursor → Except Fault (List (Text × Value) × Cursor)
  | 0, cursor => cursor.refuse .expectingName
  | fuel + 1, cursor => do
    if !cursor.at? '"' then cursor.refuse .expectingName
    else
      let (key, cursor) ← readString cursor.offset (cursor.rest.drop 1) (cursor.offset + 1)
      let cursor := cursor.skipSpace
      if !cursor.at? ':' then cursor.refuse .expectingColon
      else
        let (value, cursor) ← readValue room fuel (cursor.skip 1).skipSpace
        let cursor := cursor.skipSpace
        if cursor.at? '\x7d' then .ok ([(key, value)], cursor.skip 1)
        else if cursor.at? ',' then
          let (members, cursor) ← readMembers room fuel (cursor.skip 1).skipSpace
          .ok ((key, value) :: members, cursor)
        else cursor.refuse .expectingComma

end

/-- The value that a whole text writes. -/
def read (t : Text) : Except Fault Value := do
  let start : Cursor := ⟨t, 0⟩
  if start.at? (CodePoint.ofNat 0xFEFF) then start.refuse .byteOrderMark
  else
    let (value, cursor) ← readValue nestingLimit (2 * t.length + 1) start.skipSpace
    let cursor := cursor.skipSpace
    if cursor.rest = [] then .ok value else cursor.refuse .extraData

/-- The place of an offset in a text. -/
def place (t : Text) (offset : Nat) : Cell := Cell.after (t.take offset)

end Marginalia.Json
