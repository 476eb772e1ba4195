/-
Module: Marginalia.Options
Purpose: How a diagnostic is to be drawn: with or without colours, and with how many lines around its
  labels. The defaults may come from the environment, where the mere presence of `NO_COLOR` turns colours
  off and a number of lines counts only if it consists of digits.
Main exports: RenderOptions, RenderOptions.make, RenderOptions.override, RenderOptions.ofEnvironment,
  Environment, OptionsFault
-/

import Marginalia.Text.Numeral

namespace Marginalia

/-- How to draw. -/
structure RenderOptions where
  colors : Bool := true
  contextLines : Nat := 2
deriving DecidableEq

/-- Options that cannot be. -/
inductive OptionsFault where
  | negativeContext (given : Int)
  | numeral (fault : Numeral.Fault)
deriving DecidableEq

/-- The wording of a fault. -/
def OptionsFault.message : OptionsFault → Text
  | .negativeContext given => Text.of "context_lines must be >= 0, got " ++ Text.ofInt given
  | .numeral fault => fault.message

/-- The variables of the environment that bear on drawing. -/
structure Environment where
  noColor : Option Text := none
  contextLines : Option Text := none
deriving DecidableEq

namespace RenderOptions

/-- Options, checked: there is no negative number of lines. -/
def make (colors : Bool) (contextLines : Int) : Except OptionsFault RenderOptions :=
  if contextLines < 0 then .error (.negativeContext contextLines)
  else .ok ⟨colors, contextLines.toNat⟩

/-- Options with some of them replaced; only a replacement is checked. -/
def override (base : RenderOptions) (colors : Option Bool) (contextLines : Option Int) :
    Except OptionsFault RenderOptions :=
  make (colors.getD base.colors) (contextLines.getD base.contextLines)

/-- Whether a trimmed text is taken for a number of lines. -/
def looksNumeric (t : Text) : Bool := !t.isEmpty && t.all CodePoint.isDigit

/-- The defaults that an environment sets. -/
def ofEnvironment (env : Environment) : Except OptionsFault RenderOptions :=
  let colors := env.noColor.isNone
  let raw := (env.contextLines.getD []).trim
  if looksNumeric raw then
    match Numeral.read raw with
    | .ok n => make colors n
    | .error fault => .error (.numeral fault)
  else make colors 2

end RenderOptions

end Marginalia
