/-
Module: Marginalia.Render.Palette
Purpose: The escape sequences that colour a rendering. Everything that is drawn goes through a palette; the
  plain palette holds empty texts, so that plain and coloured renderings come from the same rows. Emphasis
  sets code spans in bold: what stands between two backticks, matched from the left, not empty and without
  a backtick of its own.
Main exports: Palette, Palette.plain, Palette.colored, Palette.ofColors, Palette.emphasize
-/

import Marginalia.Report

namespace Marginalia

/-- The sequences that start each style, and the one that ends them all. -/
structure Palette where
  error : Text
  warning : Text
  info : Text
  hint : Text
  note : Text
  help : Text
  bold : Text
  dim : Text
  reset : Text
deriving DecidableEq

namespace Palette

/-- No colours. -/
def plain : Palette := ⟨[], [], [], [], [], [], [], [], []⟩

/-- The sequence that selects a rendition. -/
def rendition (n : Nat) : Text := Text.of "\x1b[" ++ Text.ofNat n ++ Text.of "m"

/-- Red errors, yellow warnings, cyan information and notes, blue hints, green help. -/
def colored : Palette where
  error := rendition 31
  warning := rendition 33
  info := rendition 36
  hint := rendition 34
  note := rendition 36
  help := rendition 32
  bold := rendition 1
  dim := rendition 2
  reset := rendition 0

/-- The palette for a choice of colours. -/
def ofColors (colors : Bool) : Palette := if colors then colored else plain

/-- The colour of a severity. -/
def severity (p : Palette) : Severity → Text
  | .error => p.error
  | .warning => p.warning
  | .info => p.info
  | .hint => p.hint

/-- The colour of a pointer. -/
def priority (p : Palette) : Priority → Text
  | .primary => p.error
  | .secondary => p.warning

/-- Text in a style, from its start to the reset. -/
def styled (p : Palette) (style t : Text) : Text := style ++ t ++ p.reset

/-- Emphasize from a place on. `run` is what stands, in reverse, behind a backtick that may open a code
    span. A backtick behind a run that is not empty closes the span; behind an empty run it may itself open
    one. -/
def emphasizeFrom (p : Palette) (run : Option Text) : Text → Text
  | [] =>
    match run with
    | none => []
    | some run => CodePoint.backtick :: run.reverse
  | c :: rest =>
    if c = CodePoint.backtick then
      match run with
      | none => emphasizeFrom p (some []) rest
      | some [] => CodePoint.backtick :: emphasizeFrom p (some []) rest
      | some run =>
        CodePoint.backtick :: p.styled p.bold run.reverse ++
          CodePoint.backtick :: emphasizeFrom p none rest
    else
      match run with
      | none => c :: emphasizeFrom p none rest
      | some run => emphasizeFrom p (some (c :: run)) rest

/-- A text with its code spans in bold. A palette without bold leaves it alone. -/
def emphasize (p : Palette) (t : Text) : Text :=
  if p.bold = [] then t else p.emphasizeFrom none t

end Palette

end Marginalia
