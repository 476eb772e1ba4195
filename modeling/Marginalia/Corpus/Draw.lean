/-
Module: Marginalia.Corpus.Draw
Purpose: Draws that may fail. There is no number between two bounds in the wrong order, and what is to be built
  from drawn numbers may be refused. A draw yields a property if it gives a value with that property, and
  never fails, whatever the sampler draws on the way; draws put together yield what their parts allow. The
  value of a draw that yields anything can be taken out.
Main exports: DrawFault, Draw, Draw.outcome, Draw.ofExcept, Draw.collect, Sampler.index, Sampler.between,
  Sampler.choose, Sampler.chance, Sampler.perhaps, Draw.Yields, Draw.Yields.bind, Draw.value
-/

import Marginalia.Corpus.Sampler
import Marginalia.Span.Basic

namespace Marginalia

/-- Why something cannot be drawn. -/
inductive DrawFault where
  | emptyRange (low high : Nat)
  | noIndex
  | span (fault : SpanFault)

/-- A value that depends on random draws, or a fault. -/
abbrev Draw (σ α : Type) : Type := ExceptT DrawFault (StateM σ) α

namespace Draw

variable {σ α β : Type}

/-- What a draw gives in some state of the sampler, and the state in which it leaves the sampler. -/
def outcome (draw : Draw σ α) (state : σ) : Except DrawFault α × σ := (ExceptT.run draw).run state

/-- What is built from drawn numbers, which may be refused. -/
def ofExcept (x : Except SpanFault α) : Draw σ α := ExceptT.mk (pure (x.mapError .span))

/-- Repeat a draw. -/
def collect (draw : Draw σ α) : Nat → Draw σ (List α)
  | 0 => return []
  | n + 1 => do
    let a ← draw
    let rest ← collect draw n
    return a :: rest

/-!
### Draws that never fail
-/

/-- Whatever the state of the sampler, a draw gives a value with a property. -/
def Yields (draw : Draw σ α) (property : α → Prop) : Prop :=
  ∀ state, ∃ a next, draw.outcome state = (.ok a, next) ∧ property a

variable {draw : Draw σ α} {property : α → Prop} {f : α → Draw σ β} {goal : β → Prop}

/-- A chain hands the value and the state that its first draw leaves to the rest; a fault ends it. -/
theorem outcome_bind (draw : Draw σ α) (f : α → Draw σ β) (state : σ) :
    (draw >>= f).outcome state =
      match draw.outcome state with
      | (.ok a, next) => (f a).outcome next
      | (.error fault, next) => (.error fault, next) := by
  simp only [outcome, ExceptT.run_bind, StateT.run_bind]
  rcases (ExceptT.run draw).run state with ⟨result, next⟩
  cases result <;> rfl

theorem yields_pure {a : α} (holds : property a) : (pure a : Draw σ α).Yields property := by
  intro state
  exact ⟨a, state, rfl, holds⟩

theorem Yields.mono (yields : draw.Yields property) {wider : α → Prop} (weaker : ∀ a, property a → wider a) :
    draw.Yields wider := by
  intro state
  rcases yields state with ⟨a, next, given, holds⟩
  exact ⟨a, next, given, weaker a holds⟩

/-- A chain yields what its rest yields on every value that its first draw may give. -/
theorem Yields.bind (first : draw.Yields property) (rest : ∀ a, property a → (f a).Yields goal) :
    (draw >>= f).Yields goal := by
  intro state
  rcases first state with ⟨a, next, given, holds⟩
  rcases rest a holds next with ⟨b, last, then_given, reached⟩
  refine ⟨b, last, ?_, reached⟩
  rw [outcome_bind, given]
  exact then_given

/-- A plain draw has no way to fail. -/
theorem yields_lift (draw : StateM σ α) : (liftM draw : Draw σ α).Yields fun _ => True := by
  intro state
  exact ⟨(draw.run state).1, (draw.run state).2, rfl, trivial⟩

theorem yields_ofExcept {x : Except SpanFault α} {a : α} (built : x = .ok a) :
    (ofExcept x : Draw σ α).Yields fun b => b = a := by
  rw [built]
  exact yields_pure rfl

theorem Yields.ite {condition : Prop} [Decidable condition] {other : Draw σ α} (first : draw.Yields property)
    (second : other.Yields property) : (if condition then draw else other).Yields property := by
  split
  · exact first
  · exact second

/-- A draw that is repeated gives as many values as was asked for, each of them what one draw gives. -/
theorem Yields.collect (each : draw.Yields property) (n : Nat) :
    (draw.collect n).Yields fun values => values.length = n ∧ ∀ a ∈ values, property a := by
  induction n with
  | zero => exact yields_pure ⟨rfl, fun a mem => absurd mem List.not_mem_nil⟩
  | succ n ih =>
      apply each.bind
      intro a holds
      apply ih.bind
      intro rest all
      exact yields_pure ⟨congrArg Nat.succ all.1, List.forall_mem_cons.2 ⟨holds, all.2⟩⟩

/-- The value of a draw that never fails. -/
def value (draw : Draw σ α) (yields : draw.Yields property) (state : σ) : α :=
  match given : (draw.outcome state).1 with
  | .ok a => a
  | .error _ => False.elim (by
      rcases yields state with ⟨a, next, same, -⟩
      rw [same] at given
      cases given)

theorem outcome_value (yields : draw.Yields property) (state : σ) :
    (draw.outcome state).1 = .ok (draw.value yields state) := by
  rcases yields state with ⟨a, next, given, -⟩
  rw [value]
  split
  next b same => exact same
  next fault same =>
    rw [given] at same
    cases same

theorem Yields.value (yields : draw.Yields property) (state : σ) : property (draw.value yields state) := by
  rcases yields state with ⟨a, next, given, holds⟩
  have same := outcome_value yields state
  rw [given] at same
  exact Except.ok.inj same ▸ holds

end Draw

/-!
### Single draws
-/

namespace Sampler

open Draw

variable {σ α : Type} (s : Sampler σ)

/-- An index into something of a length; there is none if the length is zero. -/
def index (length : Nat) : Draw σ Nat :=
  if length_pos : 0 < length then do
    let i ← s.below length length_pos
    return i.1
  else throw .noIndex

/-- A number from `low` to `high`, both included; there is none if `high` is the less. -/
def between (low high : Nat) : Draw σ Nat :=
  if low ≤ high then do
    let n ← s.below (high - low + 1) (Nat.succ_pos _)
    return low + n.1
  else throw (.emptyRange low high)

/-- One of some things, of which there is at least one. -/
def choose (first : α) (rest : List α) : Draw σ α := do
  let i ← s.below (rest.length + 1) (Nat.succ_pos _)
  return (first :: rest).get i

/-- Whether something happens whose probability is a number of parts of the unit interval. -/
def chance (parts : Nat) : Draw σ Bool := do
  let n ← s.unit
  return n.1 < parts

/-- A draw that is made if something happens, and nothing otherwise. -/
def perhaps (parts : Nat) (draw : Draw σ α) : Draw σ (Option α) := do
  if ← s.chance parts then some <$> draw else return none

theorem yields_index {length : Nat} (length_pos : 0 < length) : (s.index length).Yields fun i => i < length := by
  rw [index, dif_pos length_pos]
  apply (yields_lift _).bind
  intro i _
  exact yields_pure i.isLt

theorem yields_between {low high : Nat} (ordered : low ≤ high) :
    (s.between low high).Yields fun n => low ≤ n ∧ n ≤ high := by
  rw [between, if_pos ordered]
  apply (yields_lift _).bind
  intro n _
  exact yields_pure (by omega)

theorem yields_choose (first : α) (rest : List α) : (s.choose first rest).Yields fun a => a ∈ first :: rest := by
  apply (yields_lift _).bind
  intro i _
  exact yields_pure (List.get_mem (first :: rest) i)

theorem yields_chance (parts : Nat) : (s.chance parts).Yields fun _ => True := by
  apply (yields_lift _).bind
  intro n _
  exact yields_pure trivial

theorem yields_perhaps (parts : Nat) {draw : Draw σ α} {property : α → Prop} (yields : draw.Yields property) :
    (s.perhaps parts draw).Yields fun a? => ∀ a ∈ a?, property a := by
  apply (s.yields_chance parts).bind
  intro happens _
  apply Yields.ite
  · rw [map_eq_pure_bind]
    apply yields.bind
    intro a holds
    exact yields_pure fun b same => Option.some.inj same ▸ holds
  · exact yields_pure fun a none_drawn => nomatch none_drawn

end Sampler

end Marginalia
