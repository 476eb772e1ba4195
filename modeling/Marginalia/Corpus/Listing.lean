/-
Module: Marginalia.Corpus.Listing
Purpose: A corpus drawn case by case, for a look at what a renderer does with it. Each case is shown under
  the name of its source, in full or in one line, and followed by a blank line.
Main exports: Corpus.ListingOptions, Corpus.ListingOptions.ofArguments, Corpus.listing
-/

import Marginalia.CommandLine.Arguments
import Marginalia.Compact
import Marginalia.Corpus.Cases
import Marginalia.Render.Diagnostic

namespace Marginalia.Corpus

/-- The options of a listing. -/
inductive ListingFlag where
  | help
  | seed
  | count
  | compact
  | color
deriving DecidableEq, Repr

/-- The spellings of the options. -/
def ListingFlag.specs : List (OptionSpec ListingFlag) :=
  [⟨[Text.of "-h", Text.of "--help"], .help, false⟩, ⟨[Text.of "--seed"], .seed, true⟩,
    ⟨[Text.of "--count"], .count, true⟩, ⟨[Text.of "--compact"], .compact, false⟩,
    ⟨[Text.of "--color"], .color, false⟩]

/-- What is listed and how. -/
structure ListingOptions where
  seed : Int := 1
  count : Int := 20
  compact : Bool := false
  color : Bool := false

namespace ListingOptions

/-- The options with one more use of an option. -/
def apply (o : ListingOptions) (use : Arguments.Use ListingFlag) : Except ArgumentFault ListingOptions :=
  let number : Except ArgumentFault Int :=
    match use.operand with
    | .value value =>
      (Numeral.read value).mapError fun _ =>
        .badValue use.spec.name (Text.of "invalid int value: " ++ value.quoted)
    | _ => .error (.expectedValue use.spec.name)
  match use.spec.action with
  | .help => .ok o
  | .seed => number.map fun n => { o with seed := n }
  | .count => number.map fun n => { o with count := n }
  | .compact => .ok { o with compact := true }
  | .color => .ok { o with color := true }

/-- What some arguments ask for. -/
def ofArguments (given : List Text) : Except ArgumentFault ListingOptions := do
  let parsed ← Arguments.parse ListingFlag.specs false given
  let options ← parsed.uses.foldlM apply {}
  match parsed.fault with
  | some fault => throw fault
  | none =>
    if parsed.leftOver ≠ [] then throw (.unrecognized parsed.leftOver)
    return options

end ListingOptions

/-- Why a case cannot be shown. -/
inductive ListingFault where
  | span (fault : SpanFault)
  | render (fault : Render.RenderFault)

/-- The wording of the fault. -/
def ListingFault.message : ListingFault → Text
  | .span fault => fault.message
  | .render fault => fault.message

/-- One case as it is listed. -/
def showCase (compact color : Bool) (c : Case) : Except ListingFault Text := do
  let d := c.report.toDiagnostic
  let body ←
    if compact then d.compact.mapError ListingFault.span
    else (d.render (.single c.source) none (some color) none).outcome.mapError ListingFault.render
  return Text.of "=== " ++ c.source.name ++ Text.of "\n" ++ body ++ Text.of "\n\n"

/-- Cases as they are listed. -/
def showCases (compact color : Bool) : List Case → Except ListingFault Text
  | [] => .ok []
  | c :: rest => do
    let shown ← showCase compact color c
    let others ← showCases compact color rest
    return shown ++ others

/-- The listing that some options ask for. -/
def listing (o : ListingOptions) : Except ListingFault Text :=
  showCases o.compact o.color (cases o.seed o.count)

end Marginalia.Corpus
