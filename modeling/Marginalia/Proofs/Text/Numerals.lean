/-
Module: Marginalia.Proofs.Text.Numerals
Purpose: White space, digits and numerals. Different numbers are written differently, and a number is written if
  it is below the power of ten that the limit of digits stands for. Trimming leaves what stands between the white
  space at the two ends of a text. No digit of either kind is white space, a sign or an underscore, so in a text of
  digits a numeral is read without skipping anything: its value is that of the decimal digits in front, and the
  first digit that only looks like one ends it.
Main exports: Text.ofNat_injective, Numeral.writable_iff, Text.Strips, Text.trim_eq_iff,
  CodePoint.isDigit_eq_inRanges, Numeral.Mark.of_digit, Numeral.Mark.of_ornament, Numeral.Values,
  Numeral.ofDigits_eq, Numeral.read_digits
-/

import Mathlib.Data.List.Forall2
import Mathlib.Data.Nat.Digits.Defs
import Marginalia.Proofs.Outcome
import Marginalia.Proofs.Text.Runs
import Marginalia.Text.Numeral

namespace Marginalia

/-!
### Written numerals
-/

theorem CodePoint.ofChar_injective : Function.Injective CodePoint.ofChar := by
  intro c d same
  exact Char.toNat_inj.1 (congrArg CodePoint.val same)

/-- Different numbers have different numerals. -/
theorem Text.ofNat_injective : Function.Injective Text.ofNat := by
  intro m n same
  have digits : Nat.toDigits 10 m = Nat.toDigits 10 n := List.map_injective_iff.2 CodePoint.ofChar_injective same
  rw [← Nat.ofDigitChars_ten_toDigits (n := m), digits, Nat.ofDigitChars_ten_toDigits]

namespace Numeral

theorem write_eq_error_iff {n : Nat} {fault : WriteFault} :
    write n = .error fault ↔ ¬ Writable n ∧ fault = ⟨n⟩ := by
  rw [write, Writable, Nat.not_le]
  by_cases long : digitLimit < (Text.ofNat n).length
  · simp [long, eq_comm]
  · simp [long]

/-- The numbers that can be written are those below the power of ten that the limit stands for. -/
theorem writable_iff {n : Nat} : Writable n ↔ n < 10 ^ digitLimit := by
  rw [Writable, Text.ofNat, List.length_map]
  exact Nat.length_toDigits_le_iff (by decide) (by decide)

theorem tooLong?_eq_some_iff {n : Int} {fault : WriteFault} :
    tooLong? n = some fault ↔ write n.natAbs = .error fault := by
  rw [tooLong?]
  cases write n.natAbs with
  | ok numeral => simp
  | error other => simp

end Numeral

/-!
### White space at the ends
-/

/-- A text is what is left of another without the white space at its two ends. -/
structure Text.Strips (t core : Text) : Prop where
  parts : ∃ front back, t = front ++ core ++ back ∧ (∀ c ∈ front, c.isBlank) ∧ ∀ c ∈ back, c.isBlank
  head : ∀ c ∈ core.head?, c.isBlank = false
  last : ∀ c ∈ core.getLast?, c.isBlank = false

theorem Text.strips_trim (t : Text) : t.Strips t.trim := by
  have right (u : Text) :
      u = u.trimRight ++ (u.reverse.takeWhile CodePoint.isBlank).reverse := by
    rw [trimRight, ← List.reverse_append, List.takeWhile_append_dropWhile, List.reverse_reverse]
  refine ⟨⟨t.takeWhile CodePoint.isBlank, ((t.dropWhile CodePoint.isBlank).reverse.takeWhile
    CodePoint.isBlank).reverse, ?_, fun c => List.mem_takeWhile_imp, ?_⟩, ?_, ?_⟩
  · rw [List.append_assoc, trim, ← right, List.takeWhile_append_dropWhile]
  · intro c mem
    exact List.mem_takeWhile_imp (List.mem_reverse.1 mem)
  · intro c head
    refine stops_dropWhile CodePoint.isBlank t c ?_
    rw [right (t.dropWhile CodePoint.isBlank), List.head?_append, Option.mem_def]
    rw [trim, Option.mem_def] at head
    rw [head]
    rfl
  · intro c last
    rw [trim, trimRight, List.getLast?_reverse] at last
    exact stops_dropWhile CodePoint.isBlank _ c last

theorem Text.trim_eq_iff {t core : Text} : t.trim = core ↔ t.Strips core := by
  constructor
  · rintro rfl
    exact t.strips_trim
  intro strips
  rcases strips with ⟨⟨front, back, rfl, blank_front, blank_back⟩, head, last⟩
  rw [trim, List.append_assoc, List.dropWhile_append_of_pos blank_front, trimRight]
  rcases core with - | ⟨c, rest⟩
  · rw [List.nil_append, List.dropWhile_eq_nil_iff.2 blank_back]
    rfl
  have stays : (c :: rest ++ back).dropWhile CodePoint.isBlank = c :: rest ++ back :=
    List.dropWhile_cons_of_neg (by simp [head c rfl])
  rw [stays, List.reverse_append, dropWhile_append_of_stops, List.reverse_reverse]
  · intro d mem
    exact blank_back d (List.mem_reverse.1 mem)
  · intro d mem
    rw [List.head?_reverse] at mem
    exact last d mem

/-!
### Digits among the other code points
-/

namespace CodePoint

variable {c : CodePoint}

/-- No code point is in two tables whose ranges lie apart. -/
theorem inRanges_eq_false_of_apart {table other : List (Nat × Nat)}
    (apart : ∀ r ∈ table, ∀ q ∈ other, r.2 < q.1 ∨ q.2 < r.1) (listed : c.inRanges table) :
    c.inRanges other = false := by
  simp only [inRanges, List.any_eq_true, Bool.and_eq_true, decide_eq_true_eq] at listed
  rcases listed with ⟨r, r_mem, above, below⟩
  simp only [inRanges, List.any_eq_false, Bool.and_eq_true, decide_eq_true_eq]
  intro q q_mem both
  have between := apart r r_mem q q_mem
  omega

/-- The ranges of the digits of either kind. -/
def digitRanges : List (Nat × Nat) := (decimalZeros.map fun first => (first, first + 9)) ++ ornamentalDigitRanges

theorem isDigit_eq_inRanges : c.isDigit = c.inRanges digitRanges := by
  rw [isDigit, digitRanges, inRanges, inRanges, List.any_append, List.any_map, digitValue?, Option.isSome_map]
  congr 1
  rw [Bool.eq_iff_iff, List.find?_isSome, List.any_eq_true]
  simp only [Bool.and_eq_true, decide_eq_true_eq, Function.comp_apply, Nat.lt_succ_iff]

theorem isBlank_eq_false_of_isDigit (digit : c.isDigit) : c.isBlank = false := by
  rw [isDigit_eq_inRanges] at digit
  exact inRanges_eq_false_of_apart (by decide) digit

theorem isDigit_of_isSome (decimal : c.digitValue?.isSome) : c.isDigit := by
  simp [isDigit, decimal]

end CodePoint

/-!
### Numerals of digits
-/

namespace Numeral

/-- The values of the decimal digits of a text. -/
def Values (t : Text) (values : List Nat) : Prop := List.Forall₂ (fun c value => c.digitValue? = some value) t values

variable {c : CodePoint} {digits rest : Text} {value : Nat} {values : List Nat}

namespace Mark

/-- A digit means what its value says. -/
theorem of_isDigit (digit : c.isDigit) : of c = (c.digitValue?.map Mark.digit).getD .other := by
  have no_space := CodePoint.isBlank_eq_false_of_isDigit digit
  have differs (d : CodePoint) (no_digit : d.isDigit = false) : c ≠ d := by
    rintro rfl
    rw [no_digit] at digit
    cases digit
  have no_plain_space : ¬ (c.val = 0x20 ∨ (0x09 ≤ c.val ∧ c.val ≤ 0x0D)) := by
    intro plain
    simp [CodePoint.isBlank, CodePoint.inRanges, CodePoint.blankRanges] at no_space
    omega
  rw [of, if_neg no_plain_space, if_neg (differs _ (by decide)), if_neg (differs _ (by decide)),
    if_neg (differs _ (by decide)), no_space, if_neg Bool.false_ne_true, ite_self]
  cases c.digitValue? <;> rfl

theorem of_digit (decimal : c.digitValue? = some value) : of c = .digit value := by
  rw [of_isDigit (CodePoint.isDigit_of_isSome (by simp [decimal])), decimal]
  rfl

theorem of_ornament (digit : c.isDigit) (not_decimal : c.digitValue? = none) : of c = .other := by
  rw [of_isDigit digit, not_decimal]
  rfl

end Mark

theorem Values.map_mark (decimal : Values digits values) : digits.map Mark.of = values.map Mark.digit := by
  induction decimal with
  | nil => rfl
  | cons here _ ih => rw [List.map_cons, List.map_cons, Mark.of_digit here, ih]

theorem Values.isSome (decimal : Values digits values) : ∀ c ∈ digits, c.digitValue?.isSome := by
  induction decimal with
  | nil => simp
  | cons here _ ih => exact List.forall_mem_cons.2 ⟨by simp [here], ih⟩

theorem Values.isDigit (decimal : Values digits values) : ∀ c ∈ digits, c.isDigit := fun c mem =>
  CodePoint.isDigit_of_isSome (decimal.isSome c mem)

theorem isDigit_of_mem_append (decimal : ∀ c ∈ digits, c.digitValue?.isSome) (alike : ∀ c ∈ rest, c.isDigit) :
    ∀ c ∈ digits ++ rest, c.isDigit :=
  List.forall_mem_append.2 ⟨fun c mem => CodePoint.isDigit_of_isSome (decimal c mem), alike⟩

theorem Values.length_eq (decimal : Values digits values) : digits.length = values.length :=
  List.Forall₂.length_eq decimal

theorem exists_values (decimal : ∀ c ∈ digits, c.digitValue?.isSome) : ∃ values, Values digits values := by
  induction digits with
  | nil => exact ⟨[], .nil⟩
  | cons c digits ih =>
      rw [List.forall_mem_cons, Option.isSome_iff_exists] at decimal
      rcases decimal with ⟨⟨value, here⟩, more⟩
      rcases ih more with ⟨values, there⟩
      exact ⟨value :: values, .cons here there⟩

theorem wellSeparated_digits (between : Bool) (values : List Nat) :
    wellSeparated between (values.map Mark.digit) = (between || !values.isEmpty) := by
  induction values generalizing between with
  | nil => simp [wellSeparated]
  | cons value values ih => simp [wellSeparated, ih]

/-- Digits write the number that they stand for at base ten. -/
theorem ofDigits_eq (values : List Nat) : ofDigits values = Nat.ofDigits 10 values.reverse := by
  rw [Nat.ofDigits_eq_foldr, List.foldr_reverse, ofDigits]
  simp [add_comm]

theorem mem_head_of_digits (alike : ∀ c ∈ digits, c.isDigit) {mark : Mark}
    (head : mark ∈ (digits.map Mark.of).head?) : mark = .other ∨ ∃ value, mark = .digit value := by
  rw [Option.mem_def, List.head?_map, Option.map_eq_some_iff] at head
  rcases head with ⟨c, head, rfl⟩
  rw [Mark.of_isDigit (alike c (List.mem_of_head? head))]
  cases c.digitValue? with
  | none => exact .inl rfl
  | some value => exact .inr ⟨value, rfl⟩

/-- A text of digits starts with neither white space nor a sign. -/
theorem no_lead_of_digits (alike : ∀ c ∈ digits, c.isDigit) :
    (digits.map Mark.of).dropWhile (· = .space) = digits.map Mark.of ∧
      (digits.map Mark.of).head? ≠ some .minus ∧ (digits.map Mark.of).head? ≠ some .plus := by
  refine ⟨dropWhile_of_stops fun mark head => ?_, fun head => ?_, fun head => ?_⟩
  · rcases mem_head_of_digits alike head with rfl | ⟨value, rfl⟩ <;> rfl
  · rcases mem_head_of_digits alike head with same | ⟨value, same⟩ <;> cases same
  · rcases mem_head_of_digits alike head with same | ⟨value, same⟩ <;> cases same

theorem isBody_of_mem_digits : ∀ mark ∈ values.map Mark.digit, mark.isBody := by
  intro mark mem
  rcases List.mem_map.1 mem with ⟨value, -, rfl⟩
  rfl

theorem isBody_eq_false_of_ends (alike : ∀ c ∈ rest, c.isDigit) (ends : ∀ c ∈ rest.head?, c.digitValue? = none) :
    ∀ mark ∈ (rest.map Mark.of).head?, mark.isBody = false := by
  intro mark head
  rw [Option.mem_def, List.head?_map, Option.map_eq_some_iff] at head
  rcases head with ⟨c, head, rfl⟩
  rw [Mark.of_ornament (alike c (List.mem_of_head? head)) (ends c head)]
  rfl

theorem all_space_iff (alike : ∀ c ∈ rest, c.isDigit) (ends : ∀ c ∈ rest.head?, c.digitValue? = none) :
    (rest.map Mark.of).all (· = .space) ↔ rest = [] := by
  cases rest with
  | nil => simp
  | cons c rest => simp [Mark.of_ornament (alike c (List.mem_cons_self ..)) (ends c rfl)]

/-- A text of digits is read up to the first that only looks like one: it is a numeral if there is none and there
    are not too many. -/
theorem read_digits (decimal : Values digits values) (alike : ∀ c ∈ rest, c.isDigit)
    (ends : ∀ c ∈ rest.head?, c.digitValue? = none) :
    read (digits ++ rest) =
      if digits = [] then .error (.malformed (digits ++ rest))
      else if digitLimit < digits.length then .error (.tooLong digits.length)
      else if rest = [] then .ok ((Nat.ofDigits 10 values.reverse : Nat) : Int)
      else .error (.malformed (digits ++ rest)) := by
  rcases no_lead_of_digits (isDigit_of_mem_append decimal.isSome alike) with ⟨no_space, no_minus, no_plus⟩
  -- The marks of the decimal digits are the body of the numeral; a rest begins with a mark that ends it.
  have split : (digits ++ rest).map Mark.of = values.map Mark.digit ++ rest.map Mark.of := by
    rw [List.map_append, decimal.map_mark]
  have body : ((digits ++ rest).map Mark.of).takeWhile Mark.isBody = values.map Mark.digit := by
    rw [split, takeWhile_append_of_stops isBody_of_mem_digits (isBody_eq_false_of_ends alike ends)]
  have behind : ((digits ++ rest).map Mark.of).dropWhile Mark.isBody = rest.map Mark.of := by
    rw [split, dropWhile_append_of_stops isBody_of_mem_digits (isBody_eq_false_of_ends alike ends)]
  have kept : (values.map Mark.digit).filterMap Mark.value? = values := by
    rw [List.filterMap_map]
    exact List.filterMap_some
  have none_iff : (!(false || !values.isEmpty)) = true ↔ digits = [] := by
    rw [← List.length_eq_zero_iff, decimal.length_eq]
    simp
  rw [read, no_space]
  simp only [no_minus, no_plus, or_self, if_false]
  rw [body, behind, kept, wellSeparated_digits, ofDigits_eq]
  simp only [none_iff, all_space_iff alike ends, ← decimal.length_eq, gt_iff_lt]

end Numeral

end Marginalia
