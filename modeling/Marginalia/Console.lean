/-
Module: Marginalia.Console
Purpose: The console that a run writes to. Making a console and printing on it are left to others: a console is
  known by what it is like and by what it makes of a text, which is either what appears or a fault. The escape
  sequences of renderings are known to both sides.
Main exports: Console, Console.shown, Console.escape
-/

import Marginalia.Value

namespace Marginalia

/-- A console: whether it is a terminal, whether it wants no colours, and what appears when a text is printed on it,
    or the fault in which that ends. -/
structure Console where
  isTerminal : Bool
  noColor : Bool
  print : Text → Except ForeignFault Text

namespace Console

/-- What appears of a rendering; one that is empty is not printed at all. -/
def shown (console : Console) (t : Text) : Except ForeignFault Text := if t = [] then .ok [] else console.print t

theorem shown_eq_error_iff {console : Console} {t : Text} {fault : ForeignFault} :
    console.shown t = .error fault ↔ t ≠ [] ∧ console.print t = .error fault := by
  rw [shown]
  split
  next empty => simp [empty]
  next something => simp [something]

/-- The code point that opens an escape sequence. -/
def escape : CodePoint := CodePoint.ofNat 0x1B

/-- Whether a code point lies between two others. -/
def between (first last : Nat) (c : CodePoint) : Bool := first ≤ c.val && c.val ≤ last

end Console

end Marginalia
