/-
Module: Marginalia.Text.Numeral
Purpose: Reading an integer that a person wrote. White space may surround it, one sign may lead it, digits
  of any script may be mixed, and a single underscore may stand between two digits. A numeral of more than
  4300 digits is refused for its length alone, and a number that would take one is not written either.
Main exports: Numeral.read, Numeral.write, Numeral.tooLong?, Numeral.Writable, Numeral.Fault,
  Numeral.WriteFault, Numeral.digitLimit
-/

import Marginalia.Text.Blank
import Marginalia.Text.Digit
import Marginalia.Text.Quoted

namespace Marginalia.Numeral

/-- The most digits that a numeral may have. -/
def digitLimit : Nat := 4300

/-- Why a text is no numeral, or too long a one. -/
inductive Fault where
  | malformed (text : Text)
  | tooLong (digits : Nat)
deriving DecidableEq

/-- How much of a quoted text a message shows. -/
def shownLength : Nat := 200

/-- What messages about the limit start with. -/
def limitExceeded : Text :=
  Text.of "Exceeds the limit (" ++ Text.ofNat digitLimit ++ Text.of " digits) for integer string conversion"

/-- What messages about the limit end with. -/
def limitAdvice : Text := "; use sys.set_int_max_str_digits() to increase the limit"

/-- The wording of a fault. -/
def Fault.message : Fault → Text
  | .malformed text =>
    Text.of "invalid literal for int() with base 10: " ++ text.quoted.take shownLength
  | .tooLong digits =>
    limitExceeded ++ Text.of ": value has " ++ Text.ofNat digits ++ Text.of " digits" ++ limitAdvice

/-- A number is too long to be written. -/
structure WriteFault where
  number : Nat
deriving DecidableEq

/-- The wording of the fault. -/
def WriteFault.message (_ : WriteFault) : Text := limitExceeded ++ limitAdvice

/-- Whether a number can be written. -/
def Writable (n : Nat) : Prop := (Text.ofNat n).length ≤ digitLimit

instance (n : Nat) : Decidable (Writable n) := inferInstanceAs (Decidable (_ ≤ _))

/-- The numeral of a number, if the number is not too long. -/
def write (n : Nat) : Except WriteFault Text :=
  let numeral := Text.ofNat n
  if digitLimit < numeral.length then .error ⟨n⟩ else .ok numeral

/-- The fault of writing a number, if it is too long; its sign does not count. -/
def tooLong? (n : Int) : Option WriteFault :=
  match write n.natAbs with
  | .ok _ => none
  | .error fault => some fault

theorem tooLong?_eq_none_iff {n : Int} : tooLong? n = none ↔ Writable n.natAbs := by
  rw [tooLong?, write, Writable]
  by_cases fits : (Text.ofNat n.natAbs).length ≤ digitLimit
  · simp [fits, Nat.not_lt.2 fits]
  · simp [fits, Nat.not_le.1 fits]

/-- Numbers of up to ten digits can be written. -/
theorem writable_of_ten_digits {n : Nat} (small : n < 10000000000) : Writable n := by
  have short : (Nat.toDigits 10 n).length ≤ 10 := (Nat.length_toDigits_le_iff (by decide) (by decide)).2 small
  rw [Writable, Text.ofNat, List.length_map]
  exact Nat.le_trans short (by decide)

/-- What a code point means in a numeral. -/
inductive Mark where
  | space
  | plus
  | minus
  | underscore
  | digit (value : Nat)
  | other
deriving DecidableEq, Repr

/-- The meaning of a code point. Below the delete character only the six usual spaces count as space;
    above it every white space does. -/
def Mark.of (c : CodePoint) : Mark :=
  if c.val < 0x7F then
    if c.val = 0x20 ∨ (0x09 ≤ c.val ∧ c.val ≤ 0x0D) then .space
    else if c = '+' then .plus
    else if c = '-' then .minus
    else if c = '_' then .underscore
    else match c.digitValue? with
      | some value => .digit value
      | none => .other
  else if c.isBlank then .space
  else match c.digitValue? with
    | some value => .digit value
    | none => .other

/-- Whether a mark may stand in the body of a numeral. -/
def Mark.isBody : Mark → Bool
  | .underscore | .digit _ => true
  | _ => false

/-- The value of a digit mark. -/
def Mark.value? : Mark → Option Nat
  | .digit value => some value
  | _ => none

/-- Whether every underscore stands between two digits. `between` says that a digit stands before. -/
def wellSeparated (between : Bool) : List Mark → Bool
  | [] => between
  | .underscore :: rest => between && wellSeparated false rest
  | _ :: rest => wellSeparated true rest

/-- The number that a list of digit values writes. -/
def ofDigits (digits : List Nat) : Nat := digits.foldl (fun value digit => 10 * value + digit) 0

/-- The integer that a text writes. The length of the digits is judged before anything that follows them. -/
def read (text : Text) : Except Fault Int :=
  let marks := (text.map Mark.of).dropWhile (· = .space)
  let negative := marks.head? = some .minus
  let unsigned := if marks.head? = some .minus ∨ marks.head? = some .plus then marks.tail else marks
  let body := unsigned.takeWhile Mark.isBody
  let digits := body.filterMap Mark.value?
  if !wellSeparated false body then .error (.malformed text)
  else if digits.length > digitLimit then .error (.tooLong digits.length)
  else if (unsigned.dropWhile Mark.isBody).all (· = .space) then
    .ok (if negative then -(ofDigits digits : Int) else ofDigits digits)
  else .error (.malformed text)

end Marginalia.Numeral
