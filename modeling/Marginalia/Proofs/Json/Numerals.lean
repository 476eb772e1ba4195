/-
Module: Marginalia.Proofs.Json.Numerals
Purpose: Integers that are too long to be read. Reading a text as JSON never leaves the text: each part of it ends
  further on. It is refused for a numeral only if so many plain digits stand next to each other somewhere in it
  that they are over the limit, and a text of nothing but such digits is refused for them.
Main exports: Json.DigitRun, Json.StaysIn, Json.staysIn_readValue_readItems_readMembers, Json.digitRun_of_read,
  Json.read_digits
-/

import Mathlib.Data.List.TakeWhile
import Marginalia.Json.Reader
import Marginalia.Proofs.Outcome

namespace Marginalia.Json

variable {α β : Type} {s t : Text} {count : Nat}

/-!
### Runs of digits
-/

/-- So many plain digits stand next to each other somewhere in a text. -/
def DigitRun (t : Text) (count : Nat) : Prop :=
  ∃ digits : Text, digits <:+: t ∧ (∀ c ∈ digits, isDigit c = true) ∧ digits.length = count

theorem DigitRun.of_suffix (run : DigitRun s count) (part : s <:+ t) : DigitRun t count := by
  rcases run with ⟨digits, inside, plain, long⟩
  exact ⟨digits, inside.trans part.isInfix, plain, long⟩

theorem digitRun_takeWhile (t : Text) : DigitRun t (t.takeWhile isDigit).length :=
  ⟨t.takeWhile isDigit, (List.takeWhile_prefix isDigit).isInfix, fun _ => List.mem_takeWhile_imp, rfl⟩

/-!
### Staying in the text
-/

/-- What reading a part of a text may come to. It ends further on in the same text, or the text is refused; if it
    is refused for a numeral, then for one whose digits stand in the text. -/
def StaysIn (t : Text) : Except Fault (α × Cursor) → Prop
  | .ok (_, next) => next.rest <:+ t
  | .error (.numeral fault) => ∃ count, fault = .tooLong count ∧ Numeral.digitLimit < count ∧ DigitRun t count
  | .error (.malformed _ _) | .error (.nesting _) => True

theorem StaysIn.of_suffix {r : Except Fault (α × Cursor)} (stays : StaysIn s r) (part : s <:+ t) : StaysIn t r := by
  match r, stays with
  | .ok (_, _), ends => exact ends.trans part
  | .error (.numeral _), ⟨count, same, long, run⟩ => exact ⟨count, same, long, run.of_suffix part⟩
  | .error (.malformed _ _), _ => trivial
  | .error (.nesting _), _ => trivial

/-- A value put in place of the one that was read changes nothing. -/
theorem StaysIn.map {r : Except Fault (α × Cursor)} (stays : StaysIn t r) {f : α × Cursor → β × Cursor}
    (keeps : ∀ a next, (f (a, next)).2 = next) : StaysIn t (r.map f) := by
  match r, stays with
  | .ok (a, next), ends =>
      show (f (a, next)).2.rest <:+ t
      rw [keeps]
      exact ends
  | .error (.numeral _), long => exact long
  | .error (.malformed _ _), _ => trivial
  | .error (.nesting _), _ => trivial

/-- What is read behind a part stays in the text if it stays in what the part leaves. -/
theorem StaysIn.bind {r : Except Fault (α × Cursor)} (stays : StaysIn t r)
    {next_part : α × Cursor → Except Fault (β × Cursor)}
    (behind : ∀ a next, next.rest <:+ t → StaysIn next.rest (next_part (a, next))) : StaysIn t (r >>= next_part) := by
  match r, stays with
  | .ok (a, next), ends => exact (behind a next ends).of_suffix ends
  | .error (.numeral _), long => exact long
  | .error (.malformed _ _), _ => trivial
  | .error (.nesting _), _ => trivial

namespace Cursor

variable (cursor : Cursor)

theorem rest_skip_suffix (n : Nat) : (cursor.skip n).rest <:+ cursor.rest := List.drop_suffix n cursor.rest

theorem rest_skipSpace_suffix : cursor.skipSpace.rest <:+ cursor.rest := cursor.rest_skip_suffix _

theorem rest_inside_suffix : (cursor.skip 1).skipSpace.rest <:+ cursor.rest :=
  (rest_skipSpace_suffix _).trans (cursor.rest_skip_suffix 1)

theorem rest_mark_suffix : (cursor.skipSpace.skip 1).rest <:+ cursor.rest :=
  (rest_skip_suffix _ 1).trans cursor.rest_skipSpace_suffix

theorem rest_behind_mark_suffix : (cursor.skipSpace.skip 1).skipSpace.rest <:+ cursor.rest :=
  (rest_skipSpace_suffix _).trans cursor.rest_mark_suffix

end Cursor

/-!
### The parts of a text
-/

theorem staysIn_readString (opened : Nat) (t : Text) (offset : Nat) : StaysIn t (readString opened t offset) := by
  fun_induction readString opened t offset with
  | case1 => trivial
  | case2 offset c rest piece => exact List.suffix_cons c rest
  | case3 offset c rest point further piece ih =>
      refine StaysIn.map (ih.of_suffix ?_) fun _ _ => rfl
      exact (List.drop_suffix further rest).trans (List.suffix_cons c rest)
  | case4 => trivial
  | case5 => trivial

theorem staysIn_readNumber (cursor : Cursor) : StaysIn cursor.rest (readNumber cursor) := by
  have inside : (if cursor.at? '-' = true then cursor.skip 1 else cursor).rest <:+ cursor.rest := by
    split
    next => exact cursor.rest_skip_suffix 1
    next => exact List.suffix_rfl
  rw [readNumber]
  generalize (if cursor.at? '-' = true then cursor.skip 1 else cursor) = unsigned at inside ⊢
  -- A leading zero is the whole integer part, so that only a run of digits can be over the limit.
  have whole_run : ∀ whole, whole =
      (if unsigned.at? '0' = true then unsigned.rest.take 1 else unsigned.rest.takeWhile isDigit) →
      Numeral.digitLimit < whole.length → DigitRun unsigned.rest whole.length := by
    intro whole same long
    split at same
    next =>
      have short := List.length_take_le 1 unsigned.rest
      rw [← same] at short
      exact absurd (long.trans_le short) (by decide)
    next =>
      rw [same]
      exact digitRun_takeWhile _
  refine StaysIn.of_suffix ?_ inside
  generalize whole_is : (if unsigned.at? '0' = true then unsigned.rest.take 1
    else unsigned.rest.takeWhile isDigit) = whole
  have behind_whole : ∀ n, ((unsigned.skip whole.length).skip n).rest <:+ unsigned.rest := fun n =>
    (Cursor.rest_skip_suffix _ n).trans (unsigned.rest_skip_suffix _)
  simp only
  split
  next => trivial
  split
  next =>
    refine (Cursor.rest_skip_suffix _ _).trans ?_
    split
    next => exact unsigned.rest_skip_suffix _
    next => exact behind_whole _
  split
  next => exact behind_whole _
  split
  next long => exact ⟨whole.length, rfl, long, whole_run whole whole_is.symm long⟩
  next => exact unsigned.rest_skip_suffix _

theorem staysIn_readWordOrNumber (cursor : Cursor) : StaysIn cursor.rest (readWordOrNumber cursor) := by
  rw [readWordOrNumber]
  split
  next word _ => exact cursor.rest_skip_suffix word.1.length
  next => exact staysIn_readNumber cursor

theorem staysIn_readString_of_cursor (cursor : Cursor) :
    StaysIn cursor.rest (readString cursor.offset (cursor.rest.drop 1) (cursor.offset + 1)) :=
  (staysIn_readString _ _ _).of_suffix (List.drop_suffix 1 cursor.rest)

variable {fuel : Nat}

theorem staysIn_readValue_succ (items : ∀ room cursor, StaysIn cursor.rest (readItems room fuel cursor))
    (members : ∀ room cursor, StaysIn cursor.rest (readMembers room fuel cursor)) (room : Nat) (cursor : Cursor) :
    StaysIn cursor.rest (readValue room (fuel + 1) cursor) := by
  rw [readValue]
  split
  next => exact (staysIn_readString_of_cursor cursor).map fun _ _ => rfl
  split
  next =>
    simp only
    split
    next => trivial
    split
    next => exact (Cursor.rest_skip_suffix _ 1).trans cursor.rest_inside_suffix
    next => exact ((items _ _).map fun _ _ => rfl).of_suffix cursor.rest_inside_suffix
  split
  next =>
    simp only
    split
    next => trivial
    split
    next => exact (Cursor.rest_skip_suffix _ 1).trans cursor.rest_inside_suffix
    next => exact ((members _ _).map fun _ _ => rfl).of_suffix cursor.rest_inside_suffix
  next => exact staysIn_readWordOrNumber cursor

theorem staysIn_readItems_succ (values : ∀ room cursor, StaysIn cursor.rest (readValue room fuel cursor))
    (items : ∀ room cursor, StaysIn cursor.rest (readItems room fuel cursor)) (room : Nat) (cursor : Cursor) :
    StaysIn cursor.rest (readItems room (fuel + 1) cursor) := by
  rw [readItems]
  refine (values room cursor).bind fun item next _ => ?_
  simp only
  split
  next => exact next.rest_mark_suffix
  split
  next => exact ((items room _).of_suffix next.rest_behind_mark_suffix).bind fun _ _ _ => List.suffix_rfl
  next => trivial

theorem staysIn_readMembers_succ (values : ∀ room cursor, StaysIn cursor.rest (readValue room fuel cursor))
    (members : ∀ room cursor, StaysIn cursor.rest (readMembers room fuel cursor)) (room : Nat) (cursor : Cursor) :
    StaysIn cursor.rest (readMembers room (fuel + 1) cursor) := by
  rw [readMembers]
  split
  next => trivial
  refine (staysIn_readString_of_cursor cursor).bind fun key next _ => ?_
  simp only
  split
  next => trivial
  refine ((values room _).of_suffix next.rest_behind_mark_suffix).bind fun value last _ => ?_
  simp only
  split
  next => exact last.rest_mark_suffix
  split
  next => exact ((members room _).of_suffix last.rest_behind_mark_suffix).bind fun _ _ _ => List.suffix_rfl
  next => trivial

/-- Values, items and members of the text at a cursor stay in the text, whatever room and fuel there is. -/
theorem staysIn_readValue_readItems_readMembers (fuel : Nat) :
    (∀ room cursor, StaysIn cursor.rest (readValue room fuel cursor)) ∧
      (∀ room cursor, StaysIn cursor.rest (readItems room fuel cursor)) ∧
      ∀ room cursor, StaysIn cursor.rest (readMembers room fuel cursor) := by
  -- Each of the three readers calls the others with one less of fuel, so the three go through together.
  induction fuel with
  | zero => exact ⟨fun _ _ => trivial, fun _ _ => trivial, fun _ _ => trivial⟩
  | succ fuel ih =>
      rcases ih with ⟨values, items, members⟩
      exact ⟨staysIn_readValue_succ items members, staysIn_readItems_succ values items,
        staysIn_readMembers_succ values members⟩

/-!
### Whole texts
-/

/-- A text is refused for a numeral only if it has too many digits next to each other. -/
theorem digitRun_of_read {fault : Numeral.Fault} (refused : read t = .error (.numeral fault)) :
    ∃ count, fault = .tooLong count ∧ Numeral.digitLimit < count ∧ DigitRun t count := by
  rw [read] at refused
  simp only at refused
  split at refused
  next => cases refused
  rcases bind_eq_error_iff.1 refused with in_value | ⟨⟨value, next⟩, -, extra⟩
  · have stays := (staysIn_readValue_readItems_readMembers (2 * t.length + 1)).1 nestingLimit
      (Cursor.skipSpace ⟨t, 0⟩)
    rw [in_value] at stays
    rcases stays with ⟨count, same, long, run⟩
    exact ⟨count, same, long, run.of_suffix (Cursor.rest_skipSpace_suffix ⟨t, 0⟩)⟩
  · simp only at extra
    split at extra
    next => cases extra
    next => cases extra

variable {c d : CodePoint} {rest : Text}

theorem ne_of_isDigit (digit : isDigit c = true) (other : isDigit d = false) : c ≠ d := by
  rintro rfl
  rw [digit] at other
  cases other

theorem at?_eq_false (digit : isDigit c = true) (other : isDigit d = false) (offset : Nat) :
    (Cursor.mk (c :: rest) offset).at? d = false := by
  simp [Cursor.at?, ne_of_isDigit digit other]

theorem skipSpace_digit (digit : isDigit c = true) (offset : Nat) :
    (Cursor.mk (c :: rest) offset).skipSpace = ⟨c :: rest, offset⟩ := by
  have no_space : Cursor.isSpace c = false := by
    simp only [Cursor.isSpace, Bool.or_eq_false_iff, decide_eq_false_iff_not]
    exact ⟨⟨⟨ne_of_isDigit digit (by decide), ne_of_isDigit digit (by decide)⟩, ne_of_isDigit digit (by decide)⟩,
      ne_of_isDigit digit (by decide)⟩
  simp [Cursor.skipSpace, Cursor.skip, no_space]

/-- No word starts with a digit. -/
theorem find?_words_digit (digit : isDigit c = true) :
    words.find? (fun word => word.1.isPrefixOf (c :: rest)) = none := by
  have letters : ∀ word ∈ words, word.1.head?.any (fun d => !isDigit d) = true := by decide
  rw [List.find?_eq_none]
  rintro ⟨word, value⟩ mem starts
  have letter := letters _ mem
  rcases word with - | ⟨d, more⟩
  · cases letter
  · simp only [List.head?_cons, Option.any_some, Bool.not_eq_eq_eq_not, Bool.not_true] at letter
    rw [List.isPrefixOf_iff_prefix, List.cons_prefix_cons] at starts
    exact ne_of_isDigit digit letter starts.1.symm

/-- An integer of too many digits is refused for their number. -/
theorem read_digits (plain : ∀ c ∈ t, isDigit c = true) (leading : t.head? ≠ some (CodePoint.ofChar '0'))
    (long : Numeral.digitLimit < t.length) : read t = .error (.numeral (.tooLong t.length)) := by
  rcases t with - | ⟨c, rest⟩
  · exact absurd long (by decide)
  have digit := plain c (List.mem_cons_self ..)
  have number : readNumber ⟨c :: rest, 0⟩ = .error (.numeral (.tooLong (c :: rest).length)) := by
    have no_zero : (Cursor.mk (c :: rest) 0).at? (CodePoint.ofChar '0') = false := by
      simpa [Cursor.at?] using leading
    have all : (c :: rest).takeWhile isDigit = c :: rest := List.takeWhile_eq_self_iff.2 plain
    have no_sign : (Cursor.mk (c :: rest) 0).at? (CodePoint.ofChar '-') = false := at?_eq_false digit (by decide) 0
    rw [readNumber]
    simpa [no_sign, no_zero, all, Cursor.skip, fractionOf, exponentOf?] using long
  rw [read]
  simp only
  rw [at?_eq_false digit (by decide), skipSpace_digit digit, readValue, at?_eq_false digit (by decide),
    at?_eq_false digit (by decide), at?_eq_false digit (by decide), readWordOrNumber, find?_words_digit digit]
  simp only
  rw [number]
  rfl

end Marginalia.Json
