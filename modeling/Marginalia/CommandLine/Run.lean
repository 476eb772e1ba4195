/-
Module: Marginalia.CommandLine.Run
Purpose: The command that draws the diagnostics of a document. It reads the document, collects the sources
  (files named on the command line first, then every source of a report that is itself a file), draws the
  reports in full or in one line each, and prints the drawing on the console. The exit status tells whether
  there was an error among the reports; what cannot be read ends the command with status two and a message.
  The console is given to the command together with the fault in which making it may have ended; such a fault
  and one of the printing are not caught.
Main exports: CommandOptions, CommandOptions.ofArguments, collectSources, CommandLine.run, CommandOutcome
-/

import Marginalia.CommandLine.Arguments
import Marginalia.Compact
import Marginalia.Console
import Marginalia.Document.Load
import Marginalia.Format

namespace Marginalia

/-- The options of the command. -/
inductive CommandFlag where
  | help
  | source
  | contextLines
  | compact
  | noColor
  | verbose
deriving DecidableEq, Repr

/-- The spellings of the options. -/
def CommandFlag.specs : List (OptionSpec CommandFlag) :=
  [⟨[Text.of "-h", Text.of "--help"], .help, false⟩,
    ⟨[Text.of "-s", Text.of "--source"], .source, true⟩,
    ⟨[Text.of "-C", Text.of "--context-lines"], .contextLines, true⟩,
    ⟨[Text.of "--compact"], .compact, false⟩,
    ⟨[Text.of "--no-color"], .noColor, false⟩,
    ⟨[Text.of "-v", Text.of "--verbose"], .verbose, false⟩]

/-- What the arguments ask for. An option that takes a value may have been used without one; that shows only
    when the value is needed. -/
structure CommandOptions where
  document : Text := []
  sources : List (Option (Text × Text)) := []
  contextLines : Option (Option Int) := none
  compact : Bool := false
  noColor : Bool := false
  verbose : Bool := false
  help : Bool := false

namespace CommandOptions

/-- The name and the path of a source that is given with both. -/
def parseSource (given : Text) : Except Text (Text × Text) :=
  match Text.cut? '=' given with
  | some (c :: name, d :: path) => .ok (c :: name, d :: path)
  | _ => .error (Text.of "expected NAME=PATH, got " ++ given.quoted)

/-- The options with one more use of an option. Help ends the reading of the others. -/
def apply (o : CommandOptions) (use : Arguments.Use CommandFlag) : Except ArgumentFault CommandOptions :=
  if o.help then .ok o
  else
    match use.spec.action, use.operand with
    | .help, _ => .ok { o with help := true }
    | .compact, _ => .ok { o with compact := true }
    | .noColor, _ => .ok { o with noColor := true }
    | .verbose, _ => .ok { o with verbose := true }
    | .source, .value value =>
      match parseSource value with
      | .ok source => .ok { o with sources := o.sources ++ [some source] }
      | .error message => .error (.badValue use.spec.name message)
    | .source, _ => .ok { o with sources := o.sources ++ [none] }
    | .contextLines, .value value =>
      match Numeral.read value with
      | .ok n => .ok { o with contextLines := some (some n) }
      | .error _ => .error (.badValue use.spec.name (Text.of "invalid int value: " ++ value.quoted))
    | .contextLines, _ => .ok { o with contextLines := some none }

/-- The options with the uses of options in order; the first fault ends it. -/
def applyAll (o : CommandOptions) : List (Arguments.Use CommandFlag) → Except ArgumentFault CommandOptions
  | [] => .ok o
  | use :: rest => do
    let o ← o.apply use
    applyAll o rest

/-- What some arguments ask for. Faults in values come before faults of form that stand further on, a
    missing document before arguments without a meaning. -/
def ofArguments (given : List Text) : Except ArgumentFault CommandOptions := do
  let parsed ← Arguments.parse CommandFlag.specs true given
  let options ← applyAll {} parsed.uses
  if options.help then return options
  match parsed.fault with
  | some fault => throw fault
  | none =>
    match parsed.required with
    | none => throw (.missing "document")
    | some document =>
      if parsed.leftOver ≠ [] then throw (.unrecognized parsed.leftOver)
      return { options with document }

end CommandOptions

/-!
### Sources
-/

/-- A mapping with a source put under its name; a name that is there already keeps its place. -/
def putSource (sources : List (Text × Source)) (s : Source) : List (Text × Source) :=
  if sources.any fun entry => entry.1 = s.name then
    sources.map fun entry => if entry.1 = s.name then (s.name, s) else entry
  else sources ++ [(s.name, s)]

/-- Why the sources of a run cannot be had. -/
inductive CollectFault where
  | read (fault : ReadFault)
  | nothingNamed
deriving DecidableEq

/-- Read the sources that are given by name and path; a later one replaces an earlier one of its name. -/
def collectNamed (view : FileView) (sources : List (Text × Source)) :
    List (Option (Text × Text)) → Except CollectFault (List (Text × Source))
  | [] => .ok sources
  | none :: _ => .error .nothingNamed
  | some (name, path) :: rest => do
    let content ← (view.readText (FilePath.parse path)).mapError .read
    collectNamed view (putSource sources (.ofText name content)) rest

/-- Read the sources of reports that are files and not yet there. -/
def collectReported (view : FileView) (sources : List (Text × Source)) :
    List Report → Except ReadFault (List (Text × Source))
  | [] => .ok sources
  | r :: rest =>
    match r.source with
    | none => collectReported view sources rest
    | some name =>
      if sources.any fun entry => entry.1 = name then collectReported view sources rest
      else
        match view.isFile (FilePath.parse name) with
        | .error fault => .error (.file fault)
        | .ok false => collectReported view sources rest
        | .ok true => do
          let content ← view.readText (FilePath.parse name)
          collectReported view (putSource sources (.ofText name content)) rest

/-- The sources of a run, by name. -/
def collectSources (view : FileView) (reports : List Report) (named : List (Option (Text × Text))) :
    Except CollectFault (List (Text × Source)) := do
  let sources ← collectNamed view [] named
  (collectReported view sources reports).mapError .read

/-!
### The command
-/

/-- How a run ends: with a status and what goes to the two streams, with a refusal, or with help. -/
inductive CommandOutcome where
  | finished (status : Nat) (output : Text) (log : List Notice)
  | refused (message : Text)
  | help

/-- A fault that the command does not catch. -/
inductive CommandFault where
  | file (fault : FilePath.FormFault)
  | numeral (fault : Numeral.Fault)
  | nesting (fault : Json.NestingFault)
  | noContextLines
  | nothingNamed
  | options (fault : OptionsFault)
  | span (fault : SpanFault)
  | render (fault : Render.RenderFault)
  | console (fault : ForeignFault)

/-- The wording of such a fault. -/
def CommandFault.message : CommandFault → Text
  | .file fault => fault.message
  | .numeral fault => fault.message
  | .nesting fault => fault.message
  | .noContextLines => "'<' not supported between instances of 'list' and 'int'"
  | .nothingNamed => "not enough values to unpack (expected 2, got 0)"
  | .options fault => fault.message
  | .span fault => fault.message
  | .render fault => fault.message
  | .console fault => fault.message

namespace CommandLine

/-- A file that cannot be read is refused; a text that names no file is a fault that nothing catches. -/
def readOutcome {α : Type} : ReadFault → Except CommandFault (Except Text α)
  | .file (.form fault) => .error (.file fault)
  | fault => .ok (.error fault.message)

/-- The reports and sources of a run, or the message of what cannot be read. -/
def load (view : FileView) (o : CommandOptions) :
    Except CommandFault (Except Text (List Report × List (Text × Source))) :=
  match Document.load view (FilePath.parse o.document) with
  | .error (.numeral fault) => .error (.numeral fault)
  | .error (.nesting fault) => .error (.nesting fault)
  | .error (.document fault) => .ok (.error fault.message)
  | .error (.read fault) => readOutcome fault
  | .ok reports =>
    match collectSources view reports o.sources with
    | .error .nothingNamed => .error .nothingNamed
    | .error (.read fault) => readOutcome fault
    | .ok sources => .ok (.ok (reports, sources))

/-- The sources of a run as a lookup. -/
def lookupOf (sources : List (Text × Source)) : Lookup :=
  .mapping (sources.map fun entry => (entry.1, .source entry.2))

/-- The options of drawing: colours only on a terminal and only if nothing speaks against them. -/
def renderOptions (o : CommandOptions) (env : Environment) (console : Console) :
    Except OptionsFault RenderOptions := do
  let defaults ← RenderOptions.ofEnvironment env
  let colors := defaults.colors && console.isTerminal && !console.noColor && !o.noColor
  RenderOptions.make colors (o.contextLines.join.getD defaults.contextLines)

/-- The drawing of some reports, with the notices that arise. -/
def draw (o : CommandOptions) (env : Environment) (console : Console) (reports : List Report)
    (sources : List (Text × Source)) : Except CommandFault (Text × List Notice) :=
  let diagnostics := reports.map Report.toDiagnostic
  if o.compact then
    match Diagnostic.compactAll diagnostics with
    | .ok text => .ok (text, [])
    | .error fault => .error (.span fault)
  else
    match renderOptions o env console with
    | .error fault => .error (.options fault)
    | .ok options =>
      let drawn := Diagnostic.renderAll diagnostics (lookupOf sources) (some options) none none
      match drawn.outcome with
      | .ok text => .ok (text, drawn.notices)
      | .error fault => .error (.render fault)

/-- The status of a run over some reports. -/
def status (reports : List Report) : Nat := if reports.any (·.severity = .error) then 1 else 0

/-- A run of the command. The console is made once the arguments are known to be in order. -/
def run (view : FileView) (env : Environment) (console : Except ForeignFault Console) (given : List Text) :
    Except CommandFault CommandOutcome :=
  match CommandOptions.ofArguments given with
  | .error fault => .ok (.refused fault.message)
  | .ok o =>
    if o.help then .ok .help
    else if o.contextLines = some none then .error .noContextLines
    else if o.contextLines.join.any (· < 0) then .ok (.refused "--context-lines must be >= 0")
    else
      match console with
      | .error fault => .error (.console fault)
      | .ok console =>
        match load view o with
        | .error fault => .error fault
        | .ok (.error message) => .ok (.refused message)
        | .ok (.ok (reports, sources)) =>
          match draw o env console reports sources with
          | .error fault => .error fault
          | .ok (text, notices) =>
            match console.shown text with
            | .error fault => .error (.console fault)
            | .ok shown => .ok (.finished (status reports) shown (if o.verbose then notices else []))

end CommandLine

end Marginalia
