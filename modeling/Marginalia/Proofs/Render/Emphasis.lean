/-
Module: Marginalia.Proofs.Render.Emphasis
Purpose: What emphasis marks. Every text can be cut into code spans and the gaps around them in exactly one way
  such that no code span starts within a gap; emphasis sets the words of these code spans in bold and leaves
  the rest of the text alone.
Main exports: Text.StartsCodeSpan, Text.IsGap, CodeSpans, CodeSpans.AreLeftmost, CodeSpans.AreLeftmost.unique,
  Palette.Emphasizes, Palette.exists_emphasizes, Palette.emphasize_marks_leftmost
-/

import Marginalia.Proofs.Render.Coloring
import Marginalia.Proofs.Text.Runs

namespace Marginalia

/-!
### Code spans
-/

/-- What can stand between the backticks of a code span: something, and no backtick. -/
structure Text.IsCodeWord (word : Text) : Prop where
  ne_nil : word ≠ []
  unbroken : CodePoint.backtick ∉ word

/-- A text whose first code points are a code span. -/
def Text.StartsCodeSpan (t : Text) : Prop :=
  ∃ word rest : Text, word.IsCodeWord ∧ t = CodePoint.backtick :: word ++ CodePoint.backtick :: rest

/-- A gap in front of a text: none of its code points is the start of a code span, not even of one that ends
    in the text behind it. -/
def Text.IsGap (gap behind : Text) : Prop :=
  ∀ back : Text, back <:+ gap → back ≠ [] → ¬ (back ++ behind).StartsCodeSpan

/-- A text that is cut into code spans, of which the words are kept, and the gaps around them. -/
inductive CodeSpans where
  | last (gap : Text)
  | span (gap word : Text) (later : CodeSpans)

namespace CodeSpans

/-- The text that was cut, with something in the place of each word. -/
def text (mark : Text → Text) : CodeSpans → Text
  | .last gap => gap
  | .span gap word later => gap ++ (CodePoint.backtick :: mark word ++ CodePoint.backtick :: later.text mark)

/-- The code spans are those that are met from the left: no gap holds the start of one. -/
inductive AreLeftmost : CodeSpans → Prop
  | last {gap : Text} (free : gap.IsGap []) : AreLeftmost (.last gap)
  | span {gap word : Text} {later : CodeSpans}
      (free : gap.IsGap (CodePoint.backtick :: word ++ CodePoint.backtick :: later.text id))
      (is_word : word.IsCodeWord) (others : later.AreLeftmost) : AreLeftmost (.span gap word later)

end CodeSpans

namespace Text

variable {gap other behind other_behind t : Text} {c : CodePoint}

theorem startsCodeSpan_cons_iff :
    StartsCodeSpan (c :: t) ↔
      c = CodePoint.backtick ∧ ∃ word rest : Text, word.IsCodeWord ∧ t = word ++ CodePoint.backtick :: rest := by
  simp only [StartsCodeSpan, List.cons_append, List.cons.injEq]
  tauto

/-- Between two backticks that touch there is no word. -/
theorem not_startsCodeSpan_of_empty : ¬ StartsCodeSpan (CodePoint.backtick :: CodePoint.backtick :: t) := by
  rw [startsCodeSpan_cons_iff]
  intro starts
  rcases starts with ⟨-, - | ⟨d, word⟩, rest, is_word, same⟩
  · exact is_word.ne_nil rfl
  · exact is_word.unbroken ((List.cons.inj same).1 ▸ List.mem_cons_self ..)

/-- A code span is closed. -/
theorem not_startsCodeSpan_of_unclosed (unclosed : CodePoint.backtick ∉ t) :
    ¬ StartsCodeSpan (CodePoint.backtick :: t) := by
  rw [startsCodeSpan_cons_iff]
  intro starts
  rcases starts with ⟨-, word, rest, -, rfl⟩
  exact unclosed (List.mem_append_right word (List.mem_cons_self ..))

theorem isGap_nil (behind : Text) : IsGap [] behind := by
  intro back is_suffix some_back
  exact absurd (List.suffix_nil.1 is_suffix) some_back

theorem IsGap.cons (free : gap.IsGap behind) (not_here : ¬ StartsCodeSpan (c :: gap ++ behind)) :
    IsGap (c :: gap) behind := by
  intro back is_suffix some_back
  rcases List.suffix_cons_iff.1 is_suffix with rfl | in_gap
  · exact not_here
  · exact free back in_gap some_back

theorem isGap_of_unmarked (unmarked : CodePoint.backtick ∉ gap) (behind : Text) : gap.IsGap behind := by
  induction gap with
  | nil => exact isGap_nil behind
  | cons c gap ih =>
      rw [List.mem_cons, not_or] at unmarked
      refine (ih unmarked.2).cons ?_
      rw [List.cons_append, startsCodeSpan_cons_iff]
      exact fun starts => unmarked.1 starts.1.symm

/-- A gap goes no further than to where a text ends or a code span starts. -/
theorem IsGap.isPrefix (free : gap.IsGap behind) (ends : other_behind ≠ [] → other_behind.StartsCodeSpan)
    (same : gap ++ behind = other ++ other_behind) : gap <+: other := by
  rcases List.append_eq_append_iff.1 same with ⟨back, rfl, -⟩ | ⟨back, rfl, split⟩
  · exact List.prefix_append gap back
  · by_cases empty : back = []
    · simp [empty]
    · have nonempty : other_behind ≠ [] := by simp [split, empty]
      exact absurd (split ▸ ends nonempty) (free back (List.suffix_append other back) empty)

/-- Two gaps that reach to the end of a text, or to a code span, are one and the same. -/
theorem IsGap.unique (free : gap.IsGap behind) (ends : behind ≠ [] → behind.StartsCodeSpan)
    (other_free : other.IsGap other_behind) (other_ends : other_behind ≠ [] → other_behind.StartsCodeSpan)
    (same : gap ++ behind = other ++ other_behind) : gap = other ∧ behind = other_behind := by
  have same_gap : gap = other :=
    (free.isPrefix other_ends same).eq_of_length_le (other_free.isPrefix ends same.symm).length_le
  subst same_gap
  exact ⟨rfl, List.append_cancel_left same⟩

/-- The first backtick behind a word ends it. -/
theorem IsCodeWord.unique {word other x y : Text} (is_word : word.IsCodeWord) (also : other.IsCodeWord)
    (same : word ++ CodePoint.backtick :: x = other ++ CodePoint.backtick :: y) : word = other ∧ x = y := by
  have unmarked : ∀ {word : Text}, word.IsCodeWord → ∀ c ∈ word, decide (c ≠ CodePoint.backtick) = true := by
    intro word is_word c mem
    exact decide_eq_true fun mark => is_word.unbroken (mark ▸ mem)
  have stops : ∀ x : Text, ∀ c ∈ (CodePoint.backtick :: x).head?, decide (c ≠ CodePoint.backtick) = false := by
    intro x c head
    cases head
    rfl
  have words := congrArg (List.takeWhile fun c => decide (c ≠ CodePoint.backtick)) same
  rw [takeWhile_append_of_stops (unmarked is_word) (stops x), takeWhile_append_of_stops (unmarked also) (stops y)]
    at words
  subst words
  exact ⟨rfl, (List.cons.inj (List.append_cancel_left same)).2⟩

end Text

/-!
### One way to cut a text
-/

namespace CodeSpans

open Text

variable {spans : CodeSpans} {c : CodePoint}

/-- The code spans behind one more code point. -/
def cons (c : CodePoint) : CodeSpans → CodeSpans
  | .last gap => .last (c :: gap)
  | .span gap word later => .span (c :: gap) word later

@[simp] theorem text_cons (mark : Text → Text) (spans : CodeSpans) :
    (spans.cons c).text mark = c :: spans.text mark := by
  cases spans <;> rfl

/-- A code point that starts no code span goes to the gap behind it. -/
theorem AreLeftmost.cons (leftmost : spans.AreLeftmost) (not_here : ¬ StartsCodeSpan (c :: spans.text id)) :
    (spans.cons c).AreLeftmost := by
  cases leftmost with
  | last free =>
      refine .last (free.cons ?_)
      rwa [List.append_nil]
  | span free is_word others => exact .span (free.cons not_here) is_word others

/-- Where no gap holds the start of a code span, the text tells how it was cut. -/
theorem AreLeftmost.unique {other : CodeSpans} (leftmost : spans.AreLeftmost) (also : other.AreLeftmost)
    (same : spans.text id = other.text id) : spans = other := by
  have starts : ∀ {word rest : Text}, word.IsCodeWord →
      CodePoint.backtick :: word ++ CodePoint.backtick :: rest ≠ [] →
      StartsCodeSpan (CodePoint.backtick :: word ++ CodePoint.backtick :: rest) :=
    fun is_word _ => ⟨_, _, is_word, rfl⟩
  have at_end : ([] : Text) ≠ [] → StartsCodeSpan [] := fun nonempty => absurd rfl nonempty
  induction leftmost generalizing other with
  | last free =>
      cases also with
      | last other_free => exact congrArg CodeSpans.last same
      | span other_free is_word others =>
          have same_gap := free.unique at_end other_free (starts is_word) (by simpa [text] using same)
          cases same_gap.2
  | span free is_word others ih =>
      cases also with
      | last other_free =>
          have same_gap := free.unique (starts is_word) other_free at_end (by simpa [text] using same)
          cases same_gap.2
      | span other_free other_word others' =>
          rcases free.unique (starts is_word) other_free (starts other_word) same with ⟨rfl, from_mark⟩
          rcases is_word.unique other_word (List.cons.inj from_mark).2 with ⟨rfl, behind⟩
          rw [ih others' behind]

end CodeSpans

/-!
### Emphasis
-/

namespace Palette

open Text CodeSpans

/-- From a place on, with a run that is open there, the code spans of what is left are set in bold, and they are
    met from the left. -/
structure Emphasizes (p : Palette) (run : Option Text) (t : Text) (spans : CodeSpans) : Prop where
  text : spans.text id = openRun run ++ t
  leftmost : spans.AreLeftmost
  emphasized : p.emphasizeFrom run t = spans.text (p.styled p.bold)

variable {p : Palette} {run rest : Text} {c : CodePoint} {spans : CodeSpans}

theorem emphasizes_nil : p.Emphasizes none [] (.last []) :=
  ⟨rfl, .last (isGap_nil []), rfl⟩

/-- A run that is still open at the end is no code span. -/
theorem emphasizes_unclosed (unbroken : CodePoint.backtick ∉ run) :
    p.Emphasizes (some run) [] (.last (CodePoint.backtick :: run.reverse)) := by
  have unclosed : CodePoint.backtick ∉ run.reverse := by
    rw [List.mem_reverse]
    exact unbroken
  have alone : AreLeftmost (.last run.reverse) := .last (isGap_of_unmarked unclosed [])
  refine ⟨?_, alone.cons (not_startsCodeSpan_of_unclosed unclosed), ?_⟩
  · simp [CodeSpans.text, openRun]
  · simp [CodeSpans.text, emphasizeFrom]

/-- The first backtick opens a run. -/
theorem Emphasizes.opens (later : p.Emphasizes (some []) rest spans) :
    p.Emphasizes none (CodePoint.backtick :: rest) spans := by
  refine ⟨later.text, later.leftmost, ?_⟩
  rw [← later.emphasized, emphasizeFrom, if_pos rfl]

/-- A backtick right behind another one opens a run in its place. -/
theorem Emphasizes.reopens (later : p.Emphasizes (some []) rest spans) :
    p.Emphasizes (some []) (CodePoint.backtick :: rest) (spans.cons CodePoint.backtick) := by
  refine ⟨?_, later.leftmost.cons ?_, ?_⟩
  · simp [later.text, openRun]
  · rw [later.text]
    exact not_startsCodeSpan_of_empty
  · simp [emphasizeFrom, later.emphasized]

/-- A backtick behind a run closes a code span. -/
theorem Emphasizes.closes (unbroken : CodePoint.backtick ∉ c :: run) (later : p.Emphasizes none rest spans) :
    p.Emphasizes (some (c :: run)) (CodePoint.backtick :: rest) (.span [] (c :: run).reverse spans) := by
  have is_word : IsCodeWord (c :: run).reverse := by
    refine ⟨by simp, ?_⟩
    rw [List.mem_reverse]
    exact unbroken
  refine ⟨?_, .span (isGap_nil _) is_word later.leftmost, ?_⟩
  · simp [CodeSpans.text, later.text, openRun]
  · simp [CodeSpans.text, emphasizeFrom, later.emphasized]

/-- Outside of runs all but backticks belong to the gap. -/
theorem Emphasizes.copies (unmarked : c ≠ CodePoint.backtick) (later : p.Emphasizes none rest spans) :
    p.Emphasizes none (c :: rest) (spans.cons c) := by
  refine ⟨?_, later.leftmost.cons ?_, ?_⟩
  · simp [later.text, openRun]
  · rw [startsCodeSpan_cons_iff]
    exact fun starts => unmarked starts.1
  · simp [emphasizeFrom, unmarked, later.emphasized]

/-- Within a run all but backticks belong to the run. -/
theorem Emphasizes.extends (unmarked : c ≠ CodePoint.backtick) (later : p.Emphasizes (some (c :: run)) rest spans) :
    p.Emphasizes (some run) (c :: rest) spans := by
  refine ⟨?_, later.leftmost, ?_⟩
  · simp [later.text, openRun]
  · simp [emphasizeFrom, unmarked, later.emphasized]

/-- Wherever a scan stands, there are code spans which it emphasizes from there on. -/
theorem exists_emphasizes (p : Palette) (run : Option Text) (unbroken : ∀ r ∈ run, CodePoint.backtick ∉ r)
    (t : Text) : ∃ spans, p.Emphasizes run t spans := by
  have none_open : ∀ r ∈ (none : Option Text), CodePoint.backtick ∉ r := by simp
  have empty_open : ∀ r ∈ some ([] : Text), CodePoint.backtick ∉ r := by simp
  -- No backtick gets into a run, so what a backtick meets is a word, or else nothing, behind the one before it.
  induction t generalizing run with
  | nil =>
      cases run with
      | none => exact ⟨_, emphasizes_nil⟩
      | some run => exact ⟨_, emphasizes_unclosed (unbroken run rfl)⟩
  | cons c rest ih =>
      by_cases mark : c = CodePoint.backtick
      · subst mark
        rcases run with - | (- | ⟨d, run⟩)
        · rcases ih (some []) empty_open with ⟨spans, later⟩
          exact ⟨spans, later.opens⟩
        · rcases ih (some []) empty_open with ⟨spans, later⟩
          exact ⟨_, later.reopens⟩
        · rcases ih none none_open with ⟨spans, later⟩
          exact ⟨_, later.closes (unbroken (d :: run) rfl)⟩
      · cases run with
        | none =>
            rcases ih none none_open with ⟨spans, later⟩
            exact ⟨_, later.copies mark⟩
        | some run =>
            have longer : ∀ r ∈ some (c :: run), CodePoint.backtick ∉ r := by
              intro r same
              cases same
              rw [List.mem_cons, not_or]
              exact ⟨Ne.symm mark, unbroken run rfl⟩
            rcases ih (some (c :: run)) longer with ⟨spans, later⟩
            exact ⟨spans, later.extends mark⟩

/-- Emphasis marks the code spans that are met from the left. There is exactly one way to cut a text into code
    spans and gaps such that no code span starts within a gap, be it one that ends with the backtick that opens
    the next; with colours the words of these code spans are set in bold, and all else is kept. Without
    colours the text is left alone. -/
theorem emphasize_marks_leftmost (t : Text) :
    ∃ spans : CodeSpans, spans.text id = t ∧ spans.AreLeftmost ∧
      (∀ other : CodeSpans, other.text id = t → other.AreLeftmost → other = spans) ∧
      colored.emphasize t = spans.text (fun word => colored.bold ++ word ++ colored.reset) ∧
      plain.emphasize t = t := by
  rcases colored.exists_emphasizes none (by simp) t with ⟨spans, same, leftmost, emphasized⟩
  refine ⟨spans, same, leftmost, ?_, ?_, rfl⟩
  · intro other other_same other_leftmost
    exact other_leftmost.unique leftmost (other_same.trans same.symm)
  · have has_bold : colored.bold ≠ [] := by decide
    rw [emphasize, if_neg has_bold]
    exact emphasized

example : colored.emphasize (Text.of "``b`c`") = Text.of "``\x1b[1mb\x1b[0m`c`" := by decide

end Palette

end Marginalia
