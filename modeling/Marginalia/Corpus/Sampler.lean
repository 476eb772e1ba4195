/-
Module: Marginalia.Corpus.Sampler
Purpose: Random draws in the abstract. A sampler turns a state into a draw and a next state; it can draw a
  number below a bound, and a point of the unit interval as a multiple of `2 ^ -53`. All other draws come
  from these two, so that whatever holds for every sampler holds for every stream of random numbers.
Main exports: Sampler, unitParts
-/

namespace Marginalia

/-- Into how many parts the unit interval is divided, two to the power of 53. -/
def unitParts : Nat := 9007199254740992

/-- There are such parts. -/
theorem unitParts_pos : 0 < unitParts := by decide

/-- A source of random draws over some state. -/
structure Sampler (σ : Type) where
  below : (n : Nat) → 0 < n → StateM σ (Fin n)
  unit : StateM σ (Fin unitParts)

end Marginalia
