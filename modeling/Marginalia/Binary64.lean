/-
Module: Marginalia.Binary64
Purpose: Numbers with a fraction, as documents hold them: the values of the 64-bit binary format. A decimal
  is read as the nearest value, a tie going to the even mantissa and what is too large to infinity; a value
  is written with the fewest digits that read back as it. All arithmetic is exact.
Main exports: Binary64, Binary64.ofDecimal, Binary64.shortest, Binary64.text, Binary64.equalsInt
-/

import Marginalia.Text.Basic

namespace Marginalia

/-- A value of the format. A finite one is `mantissa * 2 ^ exponent`; its mantissa is below `2 ^ 53` and at
    least `2 ^ 52` unless the exponent is the least one, so that every value but zero has one form. -/
inductive Binary64 where
  | nan
  | infinite (negative : Bool)
  | finite (negative : Bool) (mantissa : Nat) (exponent : Int)
deriving DecidableEq, Repr

namespace Binary64

/-- A power of two. -/
def twoTo (n : Nat) : Nat := Nat.pow 2 n

/-- A power of ten. -/
def tenTo (n : Nat) : Nat := Nat.pow 10 n

/-- The first number that is too large for a mantissa. -/
def mantissaLimit : Nat := twoTo 53

/-- The least mantissa of a value that is not among the finest. -/
def leastFullMantissa : Nat := twoTo 52

/-- The exponent of the finest values. -/
def leastExponent : Int := -1074

/-- The exponent of the coarsest values. -/
def greatestExponent : Int := 971

/-- A quotient rounded to the nearest integer; a tie goes to the even one. -/
def roundedQuotient (numerator denominator : Nat) : Nat :=
  let quotient := numerator / denominator
  let twice := 2 * (numerator % denominator)
  if twice < denominator then quotient
  else if twice = denominator then quotient + quotient % 2
  else quotient + 1

/-- Numerator and denominator of a quotient divided by a power of two. -/
def scaledDown (numerator denominator : Nat) (exponent : Int) : Nat × Nat :=
  if 0 ≤ exponent then (numerator, denominator * twoTo exponent.toNat)
  else (numerator * twoTo (-exponent).toNat, denominator)

/-- The value nearest to a positive quotient. The exponent is the one that leaves 53 binary digits, or the
    least one. -/
def ofQuotient (negative : Bool) (numerator denominator : Nat) : Binary64 :=
  let guess : Int := max ((numerator.log2 : Int) - denominator.log2 - 53) leastExponent
  let trial := scaledDown numerator denominator guess
  let exponent := if mantissaLimit ≤ trial.1 / trial.2 then guess + 1 else guess
  let scaled := scaledDown numerator denominator exponent
  let mantissa := roundedQuotient scaled.1 scaled.2
  let carried := mantissa = mantissaLimit
  let exponent := if carried then exponent + 1 else exponent
  if greatestExponent < exponent then .infinite negative
  else .finite negative (if carried then leastFullMantissa else mantissa) exponent

/-- The value nearest to `digits * 10 ^ exponent`. A power of ten that is surely out of range is not
    computed. -/
def ofDecimal (negative : Bool) (digits : Nat) (exponent : Int) : Binary64 :=
  let magnitude : Int := (Nat.toDigits 10 digits).length + exponent
  if digits = 0 ∨ magnitude < -400 then .finite negative 0 leastExponent
  else if 400 < magnitude then .infinite negative
  else if 0 ≤ exponent then ofQuotient negative (digits * tenTo exponent.toNat) 1
  else ofQuotient negative digits (tenTo (-exponent).toNat)

/-!
### Shortest digits

The reals that read as a given value form an interval around it, its ends included when the mantissa is
even. On the grid of numbers with one significant digit, then two, and so on, the two neighbours of the
value are tested; the first grid with a neighbour in the interval gives the digits.
-/

/-- The interval of a positive value: `value`, `low` and `high` over the common denominator. -/
structure Interval where
  value : Nat
  low : Nat
  high : Nat
  denominator : Nat
  closed : Bool

/-- The interval of `mantissa * 2 ^ exponent`. Below a power of two the neighbours are closer by half. -/
def interval (mantissa : Nat) (exponent : Int) : Interval :=
  let unit := twoTo (exponent - 2).toNat
  let below := if mantissa = leastFullMantissa ∧ leastExponent < exponent then 1 else 2
  { value := 4 * mantissa * unit
    low := (4 * mantissa - below) * unit
    high := (4 * mantissa + 2) * unit
    denominator := twoTo (2 - exponent).toNat
    closed := mantissa % 2 = 0 }

/-- Numerator and denominator of a power of ten. -/
def powerOfTen (exponent : Int) : Nat × Nat := (tenTo exponent.toNat, tenTo (-exponent).toNat)

/-- Whether `digits * 10 ^ exponent` lies in an interval. -/
def Interval.admits (i : Interval) (digits : Nat) (exponent : Int) : Bool :=
  let power := powerOfTen exponent
  let point := digits * power.1 * i.denominator
  let low := i.low * power.2
  let high := i.high * power.2
  (low < point && point < high) || (i.closed && (point = low || point = high))

/-- Whether the value of an interval is less than a power of ten. -/
def Interval.isBelow (i : Interval) (exponent : Int) : Bool :=
  let power := powerOfTen exponent
  i.value * power.2 < power.1 * i.denominator

/-- The neighbour to take on the grid of step `10 ^ exponent`, if one lies in the interval. Of two the
    nearer is taken, and of two equally near the even one. -/
def Interval.onGrid? (i : Interval) (exponent : Int) : Option Nat :=
  let power := powerOfTen exponent
  let numerator := i.value * power.2
  let step := power.1 * i.denominator
  let below := numerator / step
  let nearest := roundedQuotient numerator step
  match i.admits below exponent, i.admits (below + 1) exponent with
  | true, true => some nearest
  | true, false => some below
  | false, true => some (below + 1)
  | false, false => none

/-- The place of the decimal point: the least power of ten above the value. -/
def decimalPoint (i : Interval) (mantissa : Nat) (exponent : Int) : Int :=
  let guess := ((mantissa.log2 : Int) + exponent) * 30103 / 100000
  if i.isBelow guess then guess
  else if i.isBelow (guess + 1) then guess + 1
  else guess + 2

/-- A number without the zeros at its end, and how many these were. -/
def dropZeros : Nat → Nat → Nat × Nat
  | 0, digits => (digits, 0)
  | fuel + 1, digits =>
    if digits ≠ 0 ∧ digits % 10 = 0 then
      let rest := dropZeros fuel (digits / 10)
      (rest.1, rest.2 + 1)
    else (digits, 0)

/-- The fewest digits that read back as a positive value, as `digits * 10 ^ exponent` without zeros at the
    end. Seventeen digits always suffice. -/
def shortest (mantissa : Nat) (exponent : Int) : Nat × Int :=
  let i := interval mantissa exponent
  let point := decimalPoint i mantissa exponent
  let found := (List.range 17).findSome? fun (k : Nat) =>
    let step : Int := point - (k + 1)
    (i.onGrid? step).map fun digits => (digits, step)
  match found with
  | none => (0, 0)
  | some (digits, step) =>
    let stripped := dropZeros 17 digits
    (stripped.1, step + stripped.2)

/-- How a decimal is laid out: between which places of the point it is written positionally, and how many
    digits its exponent has at least. -/
structure Layout where
  leastPoint : Int
  greatestPoint : Int
  exponentDigits : Nat

/-- Numbers from 0.0001 up to 16 digits before the point are positional. -/
def layout : Layout := ⟨-3, 16, 2⟩

/-- Zeros in front of a numeral up to a width. -/
def zeroPadded (width : Nat) (numeral : Text) : Text :=
  List.replicate (width - numeral.length) (CodePoint.ofChar '0') ++ numeral

/-- The text of `digits * 10 ^ exponent`. A positional number keeps one digit after the point. -/
def Layout.write (l : Layout) (digits : Nat) (exponent : Int) : Text :=
  let numeral := Text.ofNat digits
  let point : Int := numeral.length + exponent
  let zeros (n : Int) : Text := List.replicate n.toNat (CodePoint.ofChar '0')
  if l.leastPoint ≤ point ∧ point ≤ l.greatestPoint then
    if point ≤ 0 then Text.of "0." ++ zeros (-point) ++ numeral
    else if (numeral.length : Int) ≤ point then numeral ++ zeros (point - numeral.length) ++ Text.of ".0"
    else numeral.take point.toNat ++ Text.of "." ++ numeral.drop point.toNat
  else
    let power := point - 1
    let fraction := if numeral.length ≤ 1 then [] else CodePoint.ofChar '.' :: numeral.drop 1
    numeral.take 1 ++ fraction ++ Text.of (if power < 0 then "e-" else "e+") ++
      zeroPadded l.exponentDigits (Text.ofNat power.natAbs)

/-- The text of a value. -/
def text : Binary64 → Text
  | .nan => "nan"
  | .infinite negative => if negative then "-inf" else "inf"
  | .finite negative mantissa exponent =>
    let sign : Text := if negative then "-" else []
    if mantissa = 0 then sign ++ Text.of "0.0"
    else
      let decimal := shortest mantissa exponent
      sign ++ layout.write decimal.1 decimal.2

/-!
### Comparison
-/

/-- Equality of numbers: the two zeros are equal, and not-a-number differs from everything. -/
def equals : Binary64 → Binary64 → Bool
  | .nan, _ => false
  | .infinite a, b => b = .infinite a
  | .finite a m e, b =>
    if m = 0 then
      match b with
      | .finite _ n _ => n = 0
      | _ => false
    else b = .finite a m e

/-- Equality with an integer, exact at every size. -/
def equalsInt : Binary64 → Int → Bool
  | .finite negative mantissa exponent, n =>
    let signed : Int := if negative then -(mantissa : Int) else mantissa
    signed * (twoTo exponent.toNat : Int) = n * (twoTo (-exponent).toNat : Int)
  | _, _ => false

end Binary64

end Marginalia
