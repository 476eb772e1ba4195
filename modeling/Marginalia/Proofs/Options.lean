/-
Module: Marginalia.Proofs.Options
Purpose: What the environment makes of the defaults. Colours are off exactly if they are asked to be off. The
  number of lines is read from the text between white space: decimal digits of any script, not too many of them,
  give their number, and a text in which something is no digit gives the usual two lines. Between these lie the
  texts that consist of digits and yet are no numeral, because a superscript or an encircled digit is among them
  or because there are too many; for them no defaults come out.
Main exports: RenderOptions.LinesFrom, RenderOptions.ofEnvironment_eq_of_linesFrom,
  RenderOptions.ofEnvironment_reads_lines, RenderOptions.ofEnvironment_superscript
-/

import Marginalia.Options
import Marginalia.Proofs.Outcome
import Marginalia.Proofs.Text.Numerals

namespace Marginalia.RenderOptions

/-- What a text without white space at its ends sets the number of lines to. -/
inductive LinesFrom (core : Text) : Except Numeral.Fault Nat → Prop where
  | usual (no_run : core = [] ∨ ∃ c ∈ core, c.isDigit = false) : LinesFrom core (.ok 2)
  | number {values : List Nat} (some_digit : core ≠ []) (decimal : Numeral.Values core values)
      (fits : core.length ≤ Numeral.digitLimit) : LinesFrom core (.ok (Nat.ofDigits 10 values.reverse))
  | long {digits rest : Text} (parts : core = digits ++ rest) (decimal : ∀ c ∈ digits, c.digitValue?.isSome)
      (ends : ∀ c ∈ rest.head?, c.digitValue? = none) (alike : ∀ c ∈ rest, c.isDigit)
      (exceeds : Numeral.digitLimit < digits.length) : LinesFrom core (.error (.tooLong digits.length))
  | ornament {digits rest : Text} {c : CodePoint} (parts : core = digits ++ c :: rest)
      (decimal : ∀ d ∈ digits, d.digitValue?.isSome) (ends : c.digitValue? = none)
      (alike : ∀ d ∈ c :: rest, d.isDigit) (fits : digits.length ≤ Numeral.digitLimit) :
      LinesFrom core (.error (.malformed core))

variable {env : Environment} {core : Text} {lines : Except Numeral.Fault Nat}

theorem looksNumeric_iff : looksNumeric core ↔ core ≠ [] ∧ ∀ c ∈ core, c.isDigit := by
  simp [looksNumeric]

/-- Every text sets the number of lines to something, or to nothing for some reason. -/
theorem exists_linesFrom (core : Text) : ∃ lines, LinesFrom core lines := by
  by_cases numeric : looksNumeric core
  · rcases looksNumeric_iff.1 numeric with ⟨some_digit, alike⟩
    rcases exists_run_append (fun c : CodePoint => c.digitValue?.isSome) core with
      ⟨digits, rest, rfl, decimal, ends⟩
    simp only [Option.isSome_eq_false_iff, Option.isNone_iff_eq_none] at ends
    rw [List.forall_mem_append] at alike
    rcases Nat.lt_or_ge Numeral.digitLimit digits.length with exceeds | fits
    · exact ⟨_, .long rfl decimal ends alike.2 exceeds⟩
    rcases rest with - | ⟨c, rest⟩
    · rcases Numeral.exists_values decimal with ⟨values, decimal⟩
      rw [List.append_nil] at some_digit ⊢
      exact ⟨_, .number some_digit decimal fits⟩
    · exact ⟨_, .ornament rfl decimal (ends c rfl) alike.2 fits⟩
  · refine ⟨_, .usual ?_⟩
    rw [looksNumeric_iff, not_and_or] at numeric
    simpa using numeric

theorem make_natCast (colors : Bool) (n : Nat) : make colors n = .ok ⟨colors, n⟩ := by
  rw [make, if_neg (by omega)]
  rfl

section Outcome

variable (stripped : Text.Strips (env.contextLines.getD []) core)
include stripped

theorem ofEnvironment_of_not_looksNumeric (no_run : ¬ looksNumeric core) :
    ofEnvironment env = .ok ⟨env.noColor.isNone, 2⟩ := by
  rw [ofEnvironment]
  simp only [Text.trim_eq_iff.2 stripped]
  rw [if_neg no_run]
  rfl

theorem ofEnvironment_of_looksNumeric (run : looksNumeric core) :
    ofEnvironment env = (Numeral.read core).mapError .numeral >>= make env.noColor.isNone := by
  rw [ofEnvironment]
  simp only [Text.trim_eq_iff.2 stripped]
  rw [if_pos run]
  cases Numeral.read core <;> rfl

/-- The defaults are what the texts of the environment set them to. -/
theorem ofEnvironment_eq_of_linesFrom (set : LinesFrom core lines) :
    ofEnvironment env = (lines.map (RenderOptions.mk env.noColor.isNone)).mapError .numeral := by
  cases set with
  | usual no_run =>
      rw [ofEnvironment_of_not_looksNumeric stripped]
      · rfl
      · rw [looksNumeric_iff, not_and_or]
        simpa using no_run
  | number some_digit decimal fits =>
      have run : looksNumeric core := looksNumeric_iff.2 ⟨some_digit, decimal.isDigit⟩
      have read := Numeral.read_digits decimal (List.forall_mem_nil _) (by simp)
      rw [List.append_nil, if_neg some_digit, if_neg fits.not_gt, if_pos rfl] at read
      rw [ofEnvironment_of_looksNumeric stripped run, read]
      exact make_natCast _ _
  | @long digits rest parts decimal ends alike exceeds =>
      subst parts
      have some_digit : digits ≠ [] := List.ne_nil_of_length_pos (by omega)
      have run : looksNumeric (digits ++ rest) :=
        looksNumeric_iff.2 ⟨by simp [some_digit], Numeral.isDigit_of_mem_append decimal alike⟩
      rcases Numeral.exists_values decimal with ⟨values, decimal⟩
      rw [ofEnvironment_of_looksNumeric stripped run, Numeral.read_digits decimal alike ends, if_neg some_digit,
        if_pos exceeds]
      rfl
  | @ornament digits rest c parts decimal ends alike fits =>
      subst parts
      have run : looksNumeric (digits ++ c :: rest) :=
        looksNumeric_iff.2 ⟨by simp, Numeral.isDigit_of_mem_append decimal alike⟩
      rcases Numeral.exists_values decimal with ⟨values, decimal⟩
      -- With and without decimal digits in front, what ends the numeral makes it malformed.
      have malformed : Numeral.read (digits ++ c :: rest) = .error (.malformed (digits ++ c :: rest)) := by
        rw [Numeral.read_digits decimal alike (by simpa using ends), if_neg fits.not_gt,
          if_neg (List.cons_ne_nil c rest), ite_self]
      rw [ofEnvironment_of_looksNumeric stripped run, malformed]
      rfl

end Outcome

theorem LinesFrom.succeeds_iff (set : LinesFrom core lines) :
    Succeeds lines ↔
      (∃ c ∈ core, c.isDigit = false) ∨
        (∀ c ∈ core, c.digitValue?.isSome) ∧ core.length ≤ Numeral.digitLimit := by
  have no_other (all : ∀ c ∈ core, c.isDigit) : ¬ ∃ c ∈ core, c.isDigit = false := by simpa using all
  cases set with
  | usual no_run =>
      refine iff_of_true (succeeds_ok _) ?_
      rcases no_run with rfl | some_other
      · exact .inr (by simp)
      · exact .inl some_other
  | number some_digit decimal fits =>
      exact iff_of_true (succeeds_ok _) (.inr ⟨decimal.isSome, fits⟩)
  | long parts decimal ends alike exceeds =>
      subst parts
      refine iff_of_false (not_succeeds_error _) (not_or.2 ⟨no_other ?_, ?_⟩)
      · exact Numeral.isDigit_of_mem_append decimal alike
      · rintro ⟨-, fits⟩
        rw [List.length_append] at fits
        omega
  | ornament parts decimal ends alike fits =>
      subst parts
      refine iff_of_false (not_succeeds_error _) (not_or.2 ⟨no_other ?_, ?_⟩)
      · exact Numeral.isDigit_of_mem_append decimal alike
      · rintro ⟨all, -⟩
        rw [List.forall_mem_append, List.forall_mem_cons, ends] at all
        cases all.2.1

/-- The defaults are those that the texts of the environment set, whatever these are. They fail to come out
    exactly if the number of lines is a run of digits in which some digit is not a decimal one or which is too
    long. -/
theorem ofEnvironment_reads_lines (env : Environment) {core : Text}
    (stripped : Text.Strips (env.contextLines.getD []) core) :
    (∀ outcome, ofEnvironment env = outcome ↔
      ∃ lines, LinesFrom core lines ∧
        outcome = (lines.map (RenderOptions.mk env.noColor.isNone)).mapError .numeral) ∧
    (Succeeds (ofEnvironment env) ↔
      (∃ c ∈ core, c.isDigit = false) ∨
        (∀ c ∈ core, c.digitValue?.isSome) ∧ core.length ≤ Numeral.digitLimit) := by
  rcases exists_linesFrom core with ⟨lines, set⟩
  have outcome_eq := ofEnvironment_eq_of_linesFrom stripped set
  constructor
  · intro outcome
    constructor
    · rintro rfl
      exact ⟨lines, set, outcome_eq⟩
    · rintro ⟨other, also, rfl⟩
      exact ofEnvironment_eq_of_linesFrom stripped also
  · rw [outcome_eq, succeeds_mapError, succeeds_map, set.succeeds_iff]

theorem ofEnvironment_reads_lines_padded :
    Text.Strips " 12 " "12" ∧ ofEnvironment { contextLines := some " 12 " } = .ok ⟨true, 12⟩ := by
  have stripped : Text.Strips " 12 " "12" := Text.trim_eq_iff.1 rfl
  refine ⟨stripped, ((ofEnvironment_reads_lines { contextLines := some " 12 " } stripped).1 _).2 ?_⟩
  exact ⟨_, .number (by decide) (.cons rfl (.cons rfl .nil)) (by decide), rfl⟩

/-- A superscript two is a run of digits, and no numeral. -/
theorem ofEnvironment_superscript :
    ofEnvironment { contextLines := some [⟨0xB2, by decide⟩] } =
      .error (.numeral (.malformed [⟨0xB2, by decide⟩])) := rfl

end Marginalia.RenderOptions
