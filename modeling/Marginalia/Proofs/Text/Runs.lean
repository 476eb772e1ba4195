/-
Module: Marginalia.Proofs.Text.Runs
Purpose: Runs up to a first member that ends them. A list splits in exactly one way into members in front that all
  have a property and a rest that does not begin with one, and taking or dropping while the property holds gives
  the two parts.
Main exports: dropWhile_of_stops, dropWhile_append_of_stops, takeWhile_append_of_stops, stops_dropWhile,
  exists_run_append
-/

import Mathlib.Data.List.TakeWhile

namespace Marginalia

variable {α : Type} {p : α → Bool} {front rest : List α}

theorem dropWhile_of_stops (stops : ∀ a ∈ rest.head?, p a = false) : rest.dropWhile p = rest := by
  cases rest with
  | nil => rfl
  | cons a rest => exact List.dropWhile_cons_of_neg (by simp [stops a rfl])

theorem dropWhile_append_of_stops (all : ∀ a ∈ front, p a) (stops : ∀ a ∈ rest.head?, p a = false) :
    (front ++ rest).dropWhile p = rest := by
  rw [List.dropWhile_append_of_pos all, dropWhile_of_stops stops]

theorem takeWhile_append_of_stops (all : ∀ a ∈ front, p a) (stops : ∀ a ∈ rest.head?, p a = false) :
    (front ++ rest).takeWhile p = front := by
  rw [List.takeWhile_append_of_pos all]
  cases rest with
  | nil => simp
  | cons a rest => simp [stops a rfl]

theorem stops_dropWhile (p : α → Bool) (l : List α) : ∀ a ∈ (l.dropWhile p).head?, p a = false := by
  intro a head
  have stops := List.head?_dropWhile_not p l
  rw [Option.mem_def] at head
  rwa [head] at stops

theorem exists_run_append (p : α → Bool) (l : List α) :
    ∃ front rest, l = front ++ rest ∧ (∀ a ∈ front, p a) ∧ ∀ a ∈ rest.head?, p a = false :=
  ⟨l.takeWhile p, l.dropWhile p, List.takeWhile_append_dropWhile.symm, fun _ => List.mem_takeWhile_imp,
    stops_dropWhile p l⟩

end Marginalia
