/-
Module: Marginalia.Notice
Purpose: What a renderer says about a diagnostic that it could not draw as asked. A rendering degrades
  instead of failing: a span outside its source becomes a point, a source that cannot be found is left out.
  Each such decision leaves one notice, and `Logged` carries the notices of a computation beside its value
  in the order in which they arose, also when the computation fails later on.
Main exports: Notice, Notice.channel, Notice.message, Notice.line, Notice.log, Logged, Logged.note, Checked
-/

import Marginalia.Text.Numeral

namespace Marginalia

/-- A decision to draw less than was asked for. -/
inductive Notice where
  | offsetOutside (offset : Nat) (source : Text)
  | rangeRunsPast (start length : Nat) (source : Text)
  | patternMissing (pattern source : Text) (first last : Nat)
  | sourceMismatch (wanted given : Text)
  | sourceUnknown (wanted : Text)
  | pathUnusable (path : Text)
deriving DecidableEq

namespace Notice

/-- The channel of a notice: spans, rendering, or the public entry points. -/
def channel : Notice → Text
  | .offsetOutside .. | .rangeRunsPast .. | .patternMissing .. => "pentiment.spans"
  | .sourceMismatch .. | .sourceUnknown .. => "pentiment.render"
  | .pathUnusable .. => "pentiment.api"

/-- The wording of a notice. -/
def message : Notice → Text
  | .offsetOutside offset source =>
    Text.of "byte offset " ++ Text.ofNat offset ++ Text.of " is outside " ++ source ++
      Text.of ", using 1:1"
  | .rangeRunsPast start length source =>
    Text.of "byte span " ++ Text.ofNat start ++ Text.of "+" ++ Text.ofNat length ++
      Text.of " runs past the end of " ++ source
  | .patternMissing pattern source first last =>
    Text.of "pattern " ++ pattern.quoted ++ Text.of " not found in " ++ source ++ Text.of " lines " ++
      Text.ofNat first ++ Text.of ".." ++ Text.ofNat last
  | .sourceMismatch wanted given =>
    Text.of "diagnostic source " ++ wanted.quoted ++ Text.of " does not match " ++ given.quoted
  | .sourceUnknown wanted => Text.of "no source registered for " ++ wanted.quoted
  | .pathUnusable path => Text.of "cannot stat " ++ path.quoted ++ Text.of " as a source path"

/-- A notice with its channel in front, as a log shows it. -/
def line (n : Notice) : Text := n.channel ++ Text.of ": " ++ n.message

/-- The numbers that a notice tells. -/
def numbers : Notice → List Nat
  | .offsetOutside offset _ => [offset]
  | .rangeRunsPast start length _ => [start, length]
  | .patternMissing _ _ first last => [first, last]
  | .sourceMismatch .. | .sourceUnknown .. | .pathUnusable .. => []

/-- The lines of a log, and why it breaks off: a number in a notice may be too long to be written. -/
def log : List Notice → List Text × Option Numeral.WriteFault
  | [] => ([], none)
  | n :: rest =>
    match n.numbers.mapM Numeral.write with
    | .error fault => ([], some fault)
    | .ok _ =>
      let (lines, fault) := log rest
      (n.line :: lines, fault)

end Notice

/-- A value with the notices that arose on the way to it. -/
structure Logged (α : Type) where
  value : α
  notices : List Notice

namespace Logged

instance : Monad Logged where
  pure a := ⟨a, []⟩
  bind x f := ⟨(f x.value).value, x.notices ++ (f x.value).notices⟩

/-- Leave one notice. -/
def note (n : Notice) : Logged Unit := ⟨(), [n]⟩

end Logged

/-- A computation that may fail and that keeps its notices when it does. -/
abbrev Checked (ε α : Type) : Type := ExceptT ε Logged α

namespace Checked

/-- The outcome of a checked computation. -/
def outcome {ε α : Type} (x : Checked ε α) : Except ε α := (ExceptT.run x).value

/-- The notices of a checked computation. -/
def notices {ε α : Type} (x : Checked ε α) : List Notice := (ExceptT.run x).notices

/-- A plain check as a checked computation, under a wider kind of fault. -/
def ofExcept {ε δ α : Type} (widen : δ → ε) (x : Except δ α) : Checked ε α :=
  ExceptT.mk (pure (match x with
    | .ok a => .ok a
    | .error e => .error (widen e)))

/-- A logged computation that cannot fail. -/
def ofLogged {ε α : Type} (x : Logged α) : Checked ε α := ExceptT.lift x

end Checked

end Marginalia
