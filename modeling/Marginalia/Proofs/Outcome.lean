/-
Module: Marginalia.Proofs.Outcome
Purpose: Reading computations that may fail. A chain of checks succeeds when each of them does, with the value
  that the one hands to the next; the outcome of a computation that keeps notices is the outcome of the
  chain without them, and its notices are those of its steps, one after the other. A list that is checked in
  order fails on its first member that fails. The lemmas here take such chains apart, so that no later proof
  opens a bind.
Main exports: bind_eq_ok_iff, mapError_eq_ok_iff, map_eq_ok_iff, bind_eq_error_iff, mapError_eq_error_iff,
  Succeeds, succeeds_bind, succeeds_forM, FirstFailure, mapM_eq_ok_iff, mapM_eq_error_iff,
  mem_values_iff, Checked.outcome_bind, Checked.outcome_ofExcept, Checked.outcome_adapt,
  Checked.outcome_ofLogged, Checked.notices_bind_of_ok, Checked.notices_bind_of_silent
-/

import Mathlib.Data.List.Forall2
import Marginalia.Notice

namespace Marginalia

variable {ε δ α β : Type}

/-!
### Plain checks
-/

theorem bind_eq_ok_iff {x : Except ε α} {f : α → Except ε β} {b : β} :
    x >>= f = .ok b ↔ ∃ a, x = .ok a ∧ f a = .ok b := by
  cases x with
  | error fault => simp [bind, Except.bind]
  | ok a => simp [bind, Except.bind]

@[simp] theorem pure_eq_ok_iff {a b : α} : (pure a : Except ε α) = .ok b ↔ a = b := by
  simp [pure, Except.pure]

theorem mapError_eq_ok_iff {x : Except ε α} {f : ε → δ} {a : α} : x.mapError f = .ok a ↔ x = .ok a := by
  cases x with
  | error fault =>
      refine iff_of_false ?_ ?_
      · intro mapped
        cases mapped
      · intro same
        cases same
  | ok b =>
      constructor
      · intro mapped
        cases mapped
        rfl
      · intro same
        cases same
        rfl

theorem map_eq_ok_iff {x : Except ε α} {f : α → β} {b : β} : x.map f = .ok b ↔ ∃ a, x = .ok a ∧ f a = b := by
  cases x with
  | error fault => simp [Except.map]
  | ok a => simp [Except.map]

theorem bind_eq_error_iff {x : Except ε α} {f : α → Except ε β} {fault : ε} :
    x >>= f = .error fault ↔ x = .error fault ∨ ∃ a, x = .ok a ∧ f a = .error fault := by
  cases x with
  | error other => simp [bind, Except.bind]
  | ok a => simp [bind, Except.bind]

theorem mapError_eq_error_iff {x : Except ε α} {f : ε → δ} {fault : δ} :
    x.mapError f = .error fault ↔ ∃ cause, x = .error cause ∧ f cause = fault := by
  cases x with
  | error cause =>
      have mapped : (Except.error cause : Except ε α).mapError f = .error (f cause) := rfl
      simp [mapped]
  | ok a =>
      have kept : (Except.ok a : Except ε α).mapError f = .ok a := rfl
      simp [kept]

theorem map_eq_error_iff {x : Except ε α} {f : α → β} {fault : ε} : x.map f = .error fault ↔ x = .error fault := by
  cases x with
  | error other => simp [Except.map]
  | ok a => simp [Except.map]

/-- How a chain goes on matters only for the value that its first check gives. -/
theorem bind_congr_of_ok {x : Except ε α} {f g : α → Except ε β} (same : ∀ a, x = .ok a → f a = g a) :
    x >>= f = x >>= g := by
  cases x with
  | error fault => rfl
  | ok a => exact same a rfl

/-- A check succeeds if it gives a value. -/
def Succeeds (x : Except ε α) : Prop := ∃ a, x = .ok a

@[simp] theorem succeeds_ok (a : α) : Succeeds (.ok a : Except ε α) := ⟨a, rfl⟩

@[simp] theorem succeeds_pure (a : α) : Succeeds (pure a : Except ε α) := ⟨a, rfl⟩

@[simp] theorem not_succeeds_error (fault : ε) : ¬ Succeeds (.error fault : Except ε α) := by
  intro succeeds
  rcases succeeds with ⟨a, same⟩
  cases same

@[simp] theorem not_succeeds_throw (fault : ε) : ¬ Succeeds (throw fault : Except ε α) :=
  not_succeeds_error fault

theorem not_succeeds_iff {x : Except ε α} : ¬ Succeeds x ↔ ∃ fault, x = .error fault := by
  cases x with
  | error fault => simp
  | ok a => simp

/-- A chain succeeds when its first check does and the rest succeeds on the value handed over. -/
theorem succeeds_bind {x : Except ε α} {f : α → Except ε β} :
    Succeeds (x >>= f) ↔ ∃ a, x = .ok a ∧ Succeeds (f a) := by
  simp only [Succeeds, bind_eq_ok_iff]
  constructor
  · intro succeeds
    rcases succeeds with ⟨b, a, first, rest⟩
    exact ⟨a, first, b, rest⟩
  · intro steps
    rcases steps with ⟨a, first, b, rest⟩
    exact ⟨b, a, first, rest⟩

/-- When the success of the rest does not depend on the value handed over, a chain succeeds when both of its
    parts do. -/
theorem succeeds_bind_and {x : Except ε α} {f : α → Except ε β} {p : Prop} (rest : ∀ a, Succeeds (f a) ↔ p) :
    Succeeds (x >>= f) ↔ Succeeds x ∧ p := by
  rw [succeeds_bind]
  constructor
  · intro steps
    rcases steps with ⟨a, first, then_rest⟩
    exact ⟨⟨a, first⟩, (rest a).1 then_rest⟩
  · intro both
    rcases both with ⟨⟨a, first⟩, holds⟩
    exact ⟨a, first, (rest a).2 holds⟩

@[simp] theorem succeeds_mapError {x : Except ε α} {f : ε → δ} : Succeeds (x.mapError f) ↔ Succeeds x := by
  simp only [Succeeds, mapError_eq_ok_iff]

theorem succeeds_map {x : Except ε α} {f : α → β} : Succeeds (x.map f) ↔ Succeeds x := by
  cases x with
  | error fault => exact iff_of_false (not_succeeds_error _) (not_succeeds_error _)
  | ok a => exact iff_of_true (succeeds_ok _) (succeeds_ok _)

/-- Checking the members of a list succeeds when each member passes. -/
theorem succeeds_forM {check : α → Except ε Unit} {items : List α} :
    Succeeds (items.forM check) ↔ ∀ item ∈ items, Succeeds (check item) := by
  induction items with
  | nil => simp
  | cons item rest ih =>
      have step : (item :: rest).forM check = check item >>= fun _ => rest.forM check := rfl
      rw [step, succeeds_bind_and fun _ => ih, List.forall_mem_cons]

/-!
### Lists of checks
-/

variable {check : α → Except ε β} {items : List α} {fault : ε}

/-- The fault of the first member of a list that does not pass a check. -/
def FirstFailure (check : α → Except ε β) (items : List α) (fault : ε) : Prop :=
  ∃ before item after, items = before ++ item :: after ∧ (∀ a ∈ before, Succeeds (check a)) ∧
    check item = .error fault

theorem not_firstFailure_nil : ¬ FirstFailure check [] fault := by
  intro first
  rcases first with ⟨before, item, after, split, -, -⟩
  simp at split

theorem firstFailure_cons_iff {item : α} :
    FirstFailure check (item :: items) fault ↔
      check item = .error fault ∨ Succeeds (check item) ∧ FirstFailure check items fault := by
  constructor
  · intro first
    rcases first with ⟨before, failing, after, split, passed, fails⟩
    rcases before with - | ⟨head, before⟩
    · obtain ⟨rfl, rfl⟩ := List.cons.inj split
      exact .inl fails
    · obtain ⟨rfl, rfl⟩ := List.cons.inj split
      rw [List.forall_mem_cons] at passed
      exact .inr ⟨passed.1, before, failing, after, rfl, passed.2, fails⟩
  · intro cases
    rcases cases with here | ⟨passes, before, failing, after, rfl, passed, fails⟩
    · exact ⟨[], item, items, rfl, fun a mem => absurd mem List.not_mem_nil, here⟩
    · exact ⟨item :: before, failing, after, rfl, List.forall_mem_cons.2 ⟨passes, passed⟩, fails⟩

/-- Either every member of a list passes a check, or there is a first one that does not. -/
theorem exists_firstFailure_iff :
    (∃ fault, FirstFailure check items fault) ↔ ¬ ∀ item ∈ items, Succeeds (check item) := by
  induction items with
  | nil => simp [not_firstFailure_nil]
  | cons item rest ih =>
      simp only [firstFailure_cons_iff, exists_or, exists_and_left, ih, List.forall_mem_cons,
        ← not_succeeds_iff]
      tauto

/-- Which member fails first depends on nothing but the checks of the members. -/
theorem firstFailure_congr {other : α → Except ε β} (same : ∀ item ∈ items, check item = other item) :
    FirstFailure check items fault ↔ FirstFailure other items fault := by
  induction items with
  | nil => exact iff_of_false not_firstFailure_nil not_firstFailure_nil
  | cons item rest ih =>
      rw [List.forall_mem_cons] at same
      rw [firstFailure_cons_iff, firstFailure_cons_iff, same.1, ih same.2]

/-- Where every member fails with the same fault, so does the first. -/
theorem firstFailure_iff_of_all {cause : ε} (some_items : items ≠ [])
    (all : ∀ item ∈ items, check item = .error cause) : FirstFailure check items fault ↔ cause = fault := by
  rcases items with - | ⟨item, rest⟩
  · exact absurd rfl some_items
  rw [firstFailure_cons_iff, all item (List.mem_cons_self ..)]
  simp

theorem firstFailure_mapError_iff {f : ε → δ} {fault : δ} :
    FirstFailure (fun item => (check item).mapError f) items fault ↔
      ∃ cause, FirstFailure check items cause ∧ f cause = fault := by
  induction items with
  | nil => simp [not_firstFailure_nil]
  | cons item rest ih =>
      simp only [firstFailure_cons_iff, ih, mapError_eq_error_iff, succeeds_mapError, or_and_right, exists_or,
        and_assoc, exists_and_left]

/-- Checking a list in order gives the values of its members in order. -/
theorem mapM_eq_ok_iff {values : List β} :
    items.mapM check = .ok values ↔ List.Forall₂ (fun item value => check item = .ok value) items values := by
  induction items generalizing values with
  | nil => rw [List.mapM_nil, pure_eq_ok_iff, List.forall₂_nil_left_iff, eq_comm]
  | cons item rest ih =>
      simp only [List.mapM_cons, bind_eq_ok_iff, pure_eq_ok_iff, ih]
      constructor
      · intro steps
        rcases steps with ⟨value, first, others, later, rfl⟩
        exact .cons first later
      · intro related
        rcases related with - | ⟨first, later⟩
        exact ⟨_, first, _, later, rfl⟩

/-- Checking a list in order fails on the first member that fails, with its fault. -/
theorem mapM_eq_error_iff : items.mapM check = .error fault ↔ FirstFailure check items fault := by
  induction items with
  | nil => simp [not_firstFailure_nil, pure, Except.pure]
  | cons item rest ih =>
      simp only [List.mapM_cons, bind_eq_error_iff, firstFailure_cons_iff, ih, Succeeds]
      simp [pure, Except.pure]

theorem FirstFailure.unique {other : ε} (first : FirstFailure check items fault)
    (also : FirstFailure check items other) : fault = other := by
  have same := (mapM_eq_error_iff.2 first).symm.trans (mapM_eq_error_iff.2 also)
  cases same
  rfl

/-- The values that a list gives are those of its members. -/
theorem mem_values_iff {values : List β}
    (checked : List.Forall₂ (fun item value => check item = .ok value) items values) {value : β} :
    value ∈ values ↔ ∃ item ∈ items, check item = .ok value := by
  induction checked with
  | nil => simp
  | cons here _ ih => rw [List.mem_cons, ih, List.exists_mem_cons_iff, here, Except.ok.injEq, eq_comm]

theorem succeeds_mapM : Succeeds (items.mapM check) ↔ ∀ item ∈ items, Succeeds (check item) := by
  rw [← not_iff_not, not_succeeds_iff, ← exists_firstFailure_iff]
  simp only [mapM_eq_error_iff]

/-!
### Checks that keep notices
-/

namespace Checked

@[simp] theorem outcome_pure (a : α) : (pure a : Checked ε α).outcome = .ok a := rfl

@[simp] theorem outcome_bind (x : Checked ε α) (f : α → Checked ε β) :
    (x >>= f).outcome = x.outcome >>= fun a => (f a).outcome := by
  obtain ⟨value, notices⟩ := x
  cases value <;> rfl

@[simp] theorem outcome_ofExcept (widen : δ → ε) (x : Except δ α) :
    (ofExcept widen x).outcome = x.mapError widen := by
  cases x <;> rfl

@[simp] theorem outcome_adapt (f : ε → δ) (x : Checked ε α) :
    outcome (ExceptT.adapt f x) = x.outcome.mapError f := rfl

@[simp] theorem outcome_ofLogged (x : Logged α) : (ofLogged x : Checked ε α).outcome = .ok x.value := rfl

@[simp] theorem notices_pure (a : α) : (pure a : Checked ε α).notices = [] := rfl

@[simp] theorem notices_ofExcept (widen : δ → ε) (x : Except δ α) : (ofExcept widen x).notices = [] := by
  cases x <;> rfl

@[simp] theorem notices_adapt (f : ε → δ) (x : Checked ε α) : notices (ExceptT.adapt f x) = x.notices :=
  List.append_nil _

@[simp] theorem notices_ofLogged (x : Logged α) : (ofLogged x : Checked ε α).notices = x.notices :=
  List.append_nil _

/-- A computation that gives a value leaves its notices in front of those of the rest. -/
theorem notices_bind_of_ok {x : Checked ε α} {a : α} (given : x.outcome = .ok a) (f : α → Checked ε β) :
    (x >>= f).notices = x.notices ++ (f a).notices := by
  obtain ⟨value, notices⟩ := x
  obtain rfl : value = .ok a := given
  rfl

/-- Where the rest leaves no notices, those of the first computation are all, whether it gives a value or not. -/
theorem notices_bind_of_silent {x : Checked ε α} {f : α → Checked ε β} (silent : ∀ a, (f a).notices = []) :
    (x >>= f).notices = x.notices := by
  obtain ⟨value, notices⟩ := x
  cases value with
  | error fault => exact List.append_nil notices
  | ok a => exact (congrArg (notices ++ ·) (silent a)).trans (List.append_nil notices)

end Checked

end Marginalia
