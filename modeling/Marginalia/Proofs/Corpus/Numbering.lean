/-
Module: Marginalia.Proofs.Corpus.Numbering
Purpose: Cases keep their numbers. Drawing some cases and then more, from the state in which the first ones left
  the sampler, is drawing all of them in one go; so a longer corpus of a seed starts with a shorter one, case
  by case. The name of a case tells its number, in decimal digits with zeros in front of them up to four, and
  no two numbers give the same name.
Main exports: Corpus.IsNumbered, Corpus.caseName_injective, Corpus.drawCases_add, Corpus.exists_outcome_take,
  Corpus.cases_extend
-/

import Marginalia.Corpus.Cases
import Marginalia.Proofs.Text.Numerals

namespace Marginalia.Corpus

open Draw

/-!
### Names
-/

/-- A name that tells a number, in decimal digits of which there are as many as the number needs and at least
    four. -/
def IsNumbered (i : Nat) (name : Text) : Prop :=
  ∃ digits : List Char, name = Text.of "case_" ++ digits.map CodePoint.ofChar ++ Text.of ".txt" ∧
    (∀ c ∈ digits, c.isDigit) ∧ digits.length = max 4 (Nat.toDigits 10 i).length ∧
    Nat.ofDigitChars 10 digits 0 = i

/-- A name tells no more than one number. -/
theorem IsNumbered.unique {i j : Nat} {name : Text} (first : IsNumbered i name) (second : IsNumbered j name) :
    i = j := by
  rcases first with ⟨digits, rfl, -, -, rfl⟩
  rcases second with ⟨others, same, -, -, rfl⟩
  have same_digits : digits.map CodePoint.ofChar = others.map CodePoint.ofChar :=
    List.append_cancel_left (List.append_cancel_right same)
  rw [List.map_injective_iff.2 CodePoint.ofChar_injective same_digits]

/-- The name of a case tells its number: the zeros in front of the numeral count for nothing. -/
theorem isNumbered_caseName (i : Nat) : IsNumbered i (caseName i) := by
  have numeral : (Text.ofNat i).length = (Nat.toDigits 10 i).length := List.length_map ..
  refine ⟨List.replicate (4 - (Text.ofNat i).length) '0' ++ Nat.toDigits 10 i, ?_, ?_, ?_, ?_⟩
  · rw [caseName, List.map_append, List.map_replicate, List.append_assoc (Text.of "case_")]
    rfl
  · intro c mem
    rcases List.mem_append.1 mem with zero | digit
    · rw [List.eq_of_mem_replicate zero]
      rfl
    · exact Nat.isDigit_of_mem_toDigits (by decide) (by decide) digit
  · rw [List.length_append, List.length_replicate, numeral]
    omega
  · rw [Nat.ofDigitChars_append, Nat.ofDigitChars_replicate_zero, Nat.mul_zero, Nat.ofDigitChars_ten_toDigits]

example : caseName 42 = Text.of "case_0042.txt" := by decide

theorem caseName_injective : Function.Injective caseName := by
  intro i j same
  apply (isNumbered_caseName i).unique
  rw [same]
  exact isNumbered_caseName j

/-!
### Longer and shorter corpora
-/

variable {σ : Type} (s : Sampler σ)

/-- Cases are drawn one after the other, so those up to a number can be drawn first and the others behind
    them. -/
theorem drawCases_add (index m n : Nat) :
    drawCases s index (m + n) = do
      let first ← drawCases s index m
      let rest ← drawCases s (index + m) n
      return first ++ rest := by
  induction m generalizing index with
  | zero => simp [drawCases]
  | succ m ih =>
      have below : index + 1 + m = index + (m + 1) := by omega
      simp [drawCases, Nat.succ_add, ih, below]

/-- In every state of a sampler, the first of some cases are the ones that are drawn when no more of them are
    asked for. -/
theorem exists_outcome_take (index : Nat) {m n : Nat} (le : m ≤ n) (state : σ) :
    ∃ cases, ((drawCases s index n).outcome state).1 = .ok cases ∧
      ((drawCases s index m).outcome state).1 = .ok (cases.take m) := by
  obtain ⟨more, rfl⟩ := Nat.exists_eq_add_of_le le
  rcases yields_drawCases s index m state with ⟨first, next, first_drawn, count, -⟩
  rcases yields_drawCases s (index + m) more next with ⟨rest, last, rest_drawn, -⟩
  refine ⟨first ++ rest, ?_, ?_⟩
  · rw [drawCases_add, outcome_bind, first_drawn]
    simp only
    rw [outcome_bind, rest_drawn]
    rfl
  · rw [first_drawn, List.take_left' count]

/-- The cases of a seed are what is drawn from its state. -/
theorem outcome_cases (seed count : Int) :
    ((drawCases Twister.sampler 0 count.toNat).outcome (Twister.ofSeed seed)).1 = .ok (cases seed count) :=
  outcome_value (yields_drawCases _ 0 count.toNat) (Twister.ofSeed seed)

theorem length_cases (seed count : Int) : (cases seed count).length = count.toNat :=
  ((yields_drawCases _ 0 count.toNat).value (Twister.ofSeed seed)).1

theorem isNumbered_of_cases {seed count : Int} {i : Nat} {c : Case} (found : (cases seed count)[i]? = some c) :
    IsNumbered i c.source.name := by
  have drawn := ((yields_drawCases _ 0 count.toNat).value (Twister.ofSeed seed)).2 i c found
  rcases drawn.source with ⟨content, named, -⟩
  rw [named, Nat.zero_add]
  exact isNumbered_caseName i

/-- A longer corpus of a seed extends a shorter one: the cases of the shorter one, as many as were asked for,
    are the first of the longer one, so that every case keeps its place and its content; and in both of them
    the name of a case tells its place, counted from zero, in at least four digits. -/
theorem cases_extend (seed : Int) {m n : Int} (le : m ≤ n) :
    (cases seed m).length = m.toNat ∧ (cases seed n).length = n.toNat ∧
      cases seed m = (cases seed n).take m.toNat ∧
      (∀ (i : Nat) (c : Case), (cases seed m)[i]? = some c → (cases seed n)[i]? = some c) ∧
      ∀ (i : Nat) (c : Case), (cases seed m)[i]? = some c ∨ (cases seed n)[i]? = some c →
        IsNumbered i c.source.name := by
  have starts : cases seed m = (cases seed n).take m.toNat := by
    rcases exists_outcome_take Twister.sampler 0 (Int.toNat_le_toNat le) (Twister.ofSeed seed) with
      ⟨all, longer, shorter⟩
    rw [outcome_cases, Except.ok.injEq] at longer shorter
    rw [longer, shorter]
  refine ⟨length_cases seed m, length_cases seed n, starts, ?_, ?_⟩
  · intro i c found
    rw [starts, List.getElem?_take] at found
    split at found
    next => exact found
    next => cases found
  · intro i c found
    rcases found with in_shorter | in_longer
    · exact isNumbered_of_cases in_shorter
    · exact isNumbered_of_cases in_longer

/-- Of one seed, the second of two cases is the second of three, under the number one. -/
theorem cases_extend_second :
    (2 : Int) ≤ 3 ∧ ∃ c, (cases 7 2)[1]? = some c ∧ (cases 7 3)[1]? = some c ∧ IsNumbered 1 c.source.name := by
  have le : (2 : Int) ≤ 3 := by decide
  rcases cases_extend 7 le with ⟨count, -, -, kept, named⟩
  have there_are_two : 1 < (cases 7 2).length := by
    rw [count]
    decide
  have second := List.getElem?_eq_getElem there_are_two
  exact ⟨le, _, second, kept 1 _ second, named 1 _ (.inl second)⟩

end Marginalia.Corpus
