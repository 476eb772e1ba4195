/-
Module: Marginalia.Proofs.Source.Lines
Purpose: What the lines of a source answer. A positive number asks for the line at that place and never fails; two
  numbers in order ask for the lines between them, each with its number, and what lies past the last line is
  left out, so that a range holds what its numbers are answered by one after the other. Numbers that break the
  contract are refused, whether there is a content or not.
Main exports: Source.line_eq, Source.numbered_eq_map, Source.lineRange_eq, Source.RangeBreach,
  Source.lineRange_eq_filterMap, Source.lineRange_eq_error_iff, Source.lines_agree_with_text
-/

import Marginalia.Proofs.Outcome
import Marginalia.Proofs.Text.Lines
import Marginalia.Source

namespace Marginalia.Source

open CodePoint (newline)

theorem lineNumber_natCast (role : LineRole) {n : Nat} (positive : 1 ≤ n) :
    lineNumber role (.int n) = .ok n := by
  simp only [lineNumber, Int.toNat_natCast]
  rw [if_pos (by omega)]

/-- A positive number is answered by the line at its place, if there is one. -/
theorem line_eq (s : Source) {n : Nat} (positive : 1 ≤ n) : s.line n = .ok (s.lines.bind (·[n - 1]?)) := by
  rw [line, lineOf, lineNumber_natCast .line positive]
  rfl

/-- Numbering counts up from the first number. -/
theorem numbered_eq_map (first : Nat) (lines : List Text) :
    numbered first lines = (List.range' first lines.length).map fun n => (n, lines.getD (n - first) []) := by
  induction lines generalizing first with
  | nil => rfl
  | cons text rest ih =>
      rw [numbered, ih, List.length_cons, List.range'_succ, List.map_cons, Nat.sub_self, List.getD_cons_zero]
      congr 1
      apply List.map_congr_left
      intro n mem
      have later := (List.mem_range'_1.1 mem).1
      rw [show n - first = n - (first + 1) + 1 by omega, List.getD_cons_succ]

/-- Two positive numbers in order are answered by the lines from the one to the other, as far as there are
    any. -/
theorem lineRange_eq (s : Source) {first last : Nat} (positive : 1 ≤ first) (ordered : first ≤ last) :
    s.lineRange first last = .ok (match s.lines with
      | none => []
      | some lines => (List.range' first (min last lines.length + 1 - first)).map fun n =>
          (n, lines.getD (n - 1) [])) := by
  rw [lineRange, lineRangeOf, lineNumber_natCast .start positive, lineNumber_natCast .stop (by omega)]
  simp only [bind, Except.bind, Nat.not_lt.2 ordered, if_false]
  cases s.lines with
  | none => rfl
  | some lines =>
      simp only [numbered_eq_map, List.length_drop, List.length_take]
      congr 1
      rw [show min last lines.length - (first - 1) = min last lines.length + 1 - first by omega]
      apply List.map_congr_left
      intro n mem
      have inside := List.mem_range'_1.1 mem
      rw [List.getD_eq_getElem?_getD, List.getD_eq_getElem?_getD, List.getElem?_drop,
        show first - 1 + (n - first) = n - 1 by omega, List.getElem?_take_of_lt (by omega)]

/-!
### Numbers and their lines
-/

/-- The line under a number, together with the number. -/
def numberedLine? (s : Source) (n : Nat) : Option (Nat × Text) :=
  match s.line n with
  | .ok (some text) => some (n, text)
  | _ => none

theorem numberedLine?_eq (s : Source) {n : Nat} (positive : 1 ≤ n) :
    s.numberedLine? n = (s.lines.bind (·[n - 1]?)).map (n, ·) := by
  rw [numberedLine?, s.line_eq positive]
  cases s.lines.bind (·[n - 1]?) with
  | none => rfl
  | some text => rfl

theorem numberedLine?_of_lines_eq_none {s : Source} (unknown : s.lines = none) {n : Nat} (positive : 1 ≤ n) :
    s.numberedLine? n = none := by
  rw [s.numberedLine?_eq positive, unknown, Option.bind_none, Option.map_none]

/-- Of consecutive numbers those up to the last line have a line, and none behind it has one. -/
theorem filterMap_numberedLine? {s : Source} {lines : List Text} (known : s.lines = some lines) {first : Nat}
    (positive : 1 ≤ first) (count : Nat) :
    (List.range' first count).filterMap s.numberedLine? =
      (List.range' first (min count (lines.length + 1 - first))).map fun n => (n, lines.getD (n - 1) []) := by
  induction count generalizing first with
  | zero => simp
  | succ count ih =>
      have here : s.numberedLine? first = lines[first - 1]?.map (first, ·) := by
        rw [s.numberedLine?_eq positive, known, Option.bind_some]
      have later := ih (Nat.le_add_right_of_le positive : 1 ≤ first + 1)
      by_cases inside : first ≤ lines.length
      · have there : first - 1 < lines.length := by omega
        rw [List.getElem?_eq_getElem there] at here
        have one_more : min (count + 1) (lines.length + 1 - first) =
            min count (lines.length + 1 - (first + 1)) + 1 := by omega
        rw [List.range'_succ, List.filterMap_cons_some here, later, one_more, List.range'_succ, List.map_cons,
          List.getD_eq_getElem?_getD, List.getElem?_eq_getElem there, Option.getD_some]
      · rw [List.getElem?_eq_none (by omega)] at here
        have nothing : min (count + 1) (lines.length + 1 - first) = 0 := by omega
        have still_nothing : min count (lines.length + 1 - (first + 1)) = 0 := by omega
        rw [List.range'_succ, List.filterMap_cons_none here, later, nothing, still_nothing]
        rfl

/-- A range of lines holds what its numbers are answered by, one after the other. -/
theorem lineRange_eq_filterMap (s : Source) {first last : Nat} (positive : 1 ≤ first) (ordered : first ≤ last) :
    s.lineRange first last = .ok ((List.range' first (last + 1 - first)).filterMap s.numberedLine?) := by
  rw [s.lineRange_eq positive ordered]
  cases known : s.lines with
  | none =>
      have nothing : (List.range' first (last + 1 - first)).filterMap s.numberedLine? = [] := by
        rw [List.filterMap_eq_nil_iff]
        intro n mem
        exact numberedLine?_of_lines_eq_none known (Nat.le_trans positive (List.mem_range'_1.1 mem).1)
      rw [nothing]
  | some lines =>
      have clipped : min (last + 1 - first) (lines.length + 1 - first) = min last lines.length + 1 - first := by
        omega
      rw [filterMap_numberedLine? known positive, clipped]

/-!
### Breaches
-/

theorem lineNumber_eq_ok_iff {role : LineRole} {n : Int} {m : Nat} :
    lineNumber role (.int n) = .ok m ↔ 1 ≤ n ∧ n.toNat = m := by
  rw [lineNumber]
  split
  next positive => simp [positive]
  next below => simp [below]

theorem lineNumber_eq_error_iff {role : LineRole} {n : Int} {fault : LineFault} :
    lineNumber role (.int n) = .error fault ↔ n < 1 ∧ fault = .belowOne role n := by
  rw [lineNumber]
  split
  next positive => simp [Int.not_lt.2 positive]
  next below => simp [Int.not_le.1 below, eq_comm]

/-- A line is asked for in vain only under a number below one. -/
theorem line_eq_error_iff {s : Source} {n : Int} {fault : LineFault} :
    s.line n = .error fault ↔ n < 1 ∧ fault = .belowOne .line n := by
  rw [line, lineOf, bind_eq_error_iff, lineNumber_eq_error_iff]
  simp [pure, Except.pure]

/-- How two numbers can break the contract of a range. The first is looked at first. -/
inductive RangeBreach (start stop : Int) : LineFault → Prop where
  | start (below : start < 1) : RangeBreach start stop (.belowOne .start start)
  | stop (positive : 1 ≤ start) (below : stop < 1) : RangeBreach start stop (.belowOne .stop stop)
  | backwards (positive : 1 ≤ stop) (before : stop < start) : RangeBreach start stop (.backwards start stop)

theorem RangeBreach.lineRange_eq {start stop : Int} {fault : LineFault} (breach : RangeBreach start stop fault)
    (s : Source) : s.lineRange start stop = .error fault := by
  rw [lineRange, lineRangeOf, bind_eq_error_iff]
  cases breach with
  | start below => exact .inl (lineNumber_eq_error_iff.2 ⟨below, rfl⟩)
  | stop positive below =>
      refine .inr ⟨_, lineNumber_eq_ok_iff.2 ⟨positive, rfl⟩, ?_⟩
      exact bind_eq_error_iff.2 (.inl (lineNumber_eq_error_iff.2 ⟨below, rfl⟩))
  | backwards positive before =>
      have start_pos : 1 ≤ start := by omega
      refine .inr ⟨_, lineNumber_eq_ok_iff.2 ⟨start_pos, rfl⟩, ?_⟩
      refine bind_eq_error_iff.2 (.inr ⟨_, lineNumber_eq_ok_iff.2 ⟨positive, rfl⟩, ?_⟩)
      have same_start : (start.toNat : Int) = start := Int.toNat_of_nonneg (by omega)
      have same_stop : (stop.toNat : Int) = stop := Int.toNat_of_nonneg (by omega)
      rw [if_pos (by omega), same_start, same_stop]
      rfl

/-- Every pair of numbers that is not a range breaks the contract. -/
theorem exists_rangeBreach {start stop : Int} (no_range : ¬ (1 ≤ start ∧ start ≤ stop)) :
    ∃ fault, RangeBreach start stop fault := by
  by_cases start_pos : 1 ≤ start
  · by_cases stop_pos : 1 ≤ stop
    · exact ⟨_, .backwards stop_pos (by omega)⟩
    · exact ⟨_, .stop start_pos (by omega)⟩
  · exact ⟨_, .start (by omega)⟩

/-- Lines are asked for in vain only under numbers that break the contract. -/
theorem lineRange_eq_error_iff {s : Source} {start stop : Int} {fault : LineFault} :
    s.lineRange start stop = .error fault ↔ RangeBreach start stop fault := by
  refine ⟨fun failed => ?_, fun breach => breach.lineRange_eq s⟩
  by_cases range : 1 ≤ start ∧ start ≤ stop
  · obtain ⟨first, rfl⟩ := Int.eq_ofNat_of_zero_le (show 0 ≤ start by omega)
    obtain ⟨last, rfl⟩ := Int.eq_ofNat_of_zero_le (show 0 ≤ stop by omega)
    rw [s.lineRange_eq_filterMap (by omega) (by omega)] at failed
    cases failed
  · rcases exists_rangeBreach range with ⟨other, breach⟩
    obtain rfl := Except.error.inj ((breach.lineRange_eq s).symm.trans failed)
    exact breach

/-!
### Lines and text
-/

/-- The lines of a source agree with its text. They are the pieces between the line feeds: joined again they give the
    text, none of them holds a line feed, and there is one more of them than there are line feeds. A number of at
    least one asks for the line at its place, and there is none exactly if it is beyond their count. Two numbers that
    make a range, however large, ask for the lines of all its numbers that have one, in order and each with its
    number. Without a content there is no line. Numbers that break the contract are refused, with a content or
    without, and only these are; they are all that make no range. -/
theorem lines_agree_with_text (name t : Text) :
    (∃ lines, (ofText name t).lines = some lines ∧ [newline].intercalate lines = t ∧
      (∀ line ∈ lines, newline ∉ line) ∧ (ofText name t).lineCount = some (t.count newline + 1) ∧
      ∀ n : Int, 1 ≤ n → (ofText name t).line n = .ok lines[n.toNat - 1]? ∧
        ((ofText name t).line n = .ok none ↔ (t.count newline : Int) + 1 < n)) ∧
    (∀ (s : Source) (start stop : Int), 1 ≤ start → start ≤ stop →
      s.lineRange start stop = .ok ((List.range' start.toNat (stop + 1 - start).toNat).filterMap s.numberedLine?)) ∧
    (∀ n : Int, 1 ≤ n → (named name).line n = .ok none) ∧
    (∀ start stop : Int, 1 ≤ start → start ≤ stop → (named name).lineRange start stop = .ok []) ∧
    (∀ (s : Source) (n : Int) (fault : LineFault), s.line n = .error fault ↔ n < 1 ∧ fault = .belowOne .line n) ∧
    ∀ (s : Source) (start stop : Int),
      (∀ fault, s.lineRange start stop = .error fault ↔ RangeBreach start stop fault) ∧
      (¬ (1 ≤ start ∧ start ≤ stop) → ∃ fault, RangeBreach start stop fault) := by
  have natural : ∀ n : Int, 1 ≤ n → ∃ m : Nat, n = m ∧ 1 ≤ m := fun n positive => ⟨n.toNat, by omega, by omega⟩
  refine ⟨⟨t.lines, rfl, Text.intercalate_lines t, fun line => Text.newline_not_mem_of_mem_lines, ?_, ?_⟩, ?_, ?_, ?_,
    fun s n fault => line_eq_error_iff, fun s start stop => ⟨fun fault => lineRange_eq_error_iff, exists_rangeBreach⟩⟩
  · exact congrArg some (Text.length_lines t)
  · intro n positive
    rcases natural n positive with ⟨n, rfl, one_le⟩
    have answered : (ofText name t).line n = .ok t.lines[n - 1]? := (ofText name t).line_eq one_le
    refine ⟨answered, ?_⟩
    rw [answered, Except.ok.injEq, List.getElem?_eq_none_iff, Text.length_lines]
    omega
  · intro s start stop positive ordered
    rcases natural start positive with ⟨first, rfl, one_le⟩
    rcases natural stop (by omega) with ⟨last, rfl, -⟩
    rw [s.lineRange_eq_filterMap one_le (by omega)]
    congr 3
    omega
  · intro n positive
    rcases natural n positive with ⟨n, rfl, one_le⟩
    exact (named name).line_eq one_le
  · intro start stop positive ordered
    rcases natural start positive with ⟨first, rfl, one_le⟩
    rcases natural stop (by omega) with ⟨last, rfl, -⟩
    exact (named name).lineRange_eq one_le (by omega)

/-- Three lines, the middle one empty. -/
def threeLines : Source := ofText ['s'] ['a', '\n', '\n', 'b']

/-- The second of these lines and the third, each with its number. -/
def threeLinesBelow : List (Nat × Text) := [(2, []), (3, ['b'])]

theorem lines_agree_with_text_far_range :
    threeLines.line 1000000000000000000000000000000 = .ok none ∧
    threeLines.lineRange 2 1000000000000000000000000000000 = .ok threeLinesBelow ∧
    (List.range' 2 ((1000000000000000000000000000000 : Int) + 1 - 2).toNat).filterMap threeLines.numberedLine? =
      threeLinesBelow ∧
    (named ['s']).lineRange 2 1000000000000000000000000000000 = .ok [] ∧
    threeLines.lineRange 3 2 = .error (.backwards 3 2) := by
  obtain ⟨⟨lines, -, -, -, -, each⟩, ranges, -, unknown, -, others⟩ :=
    lines_agree_with_text ['s'] ['a', '\n', '\n', 'b']
  have shown : threeLines.lineRange 2 1000000000000000000000000000000 = .ok threeLinesBelow := rfl
  have listed := ranges threeLines 2 1000000000000000000000000000000 (by decide) (by decide)
  exact ⟨(each _ (by decide)).2.2 (by decide), shown, Except.ok.inj (listed.symm.trans shown),
    unknown _ _ (by decide) (by decide),
    ((others threeLines 3 2).1 _).2 (.backwards (by decide) (by decide))⟩

end Marginalia.Source
