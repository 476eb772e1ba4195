/-
Module: Marginalia.CommandLine.Arguments
Purpose: Reading the arguments of a command. Options may stand anywhere before a double dash; a long one may
  be shortened as long as it stays unambiguous and may carry its value behind an equals sign, and short ones
  may be joined into one argument. Every argument is first classified on its own and then they are consumed
  from left to right. A command has one required argument that is no option.
Main exports: OptionSpec, ArgumentFault, Parsed, Arguments.parse
-/

import Marginalia.Text.Digit
import Marginalia.Text.Quoted

namespace Marginalia

/-- An option of a command: its spellings and whether it takes a value. -/
structure OptionSpec (α : Type) where
  spellings : List Text
  action : α
  takesValue : Bool

/-- The name of an option in messages. -/
def OptionSpec.name {α : Type} (o : OptionSpec α) : Text := (Text.of "/").intercalate o.spellings

/-- What is wrong with the arguments of a command. -/
inductive ArgumentFault where
  | ambiguous (given : Text) (candidates : List Text)
  | expectedValue (name : Text)
  | ignoredValue (name given : Text)
  | badValue (name message : Text)
  | missing (name : Text)
  | unrecognized (given : List Text)
deriving DecidableEq

/-- The wording of a fault. -/
def ArgumentFault.message : ArgumentFault → Text
  | .ambiguous given candidates =>
    Text.of "ambiguous option: " ++ given ++ Text.of " could match " ++
      (Text.of ", ").intercalate candidates
  | .expectedValue name => Text.of "argument " ++ name ++ Text.of ": expected one argument"
  | .ignoredValue name given =>
    Text.of "argument " ++ name ++ Text.of ": ignored explicit argument " ++ given.quoted
  | .badValue name message => Text.of "argument " ++ name ++ Text.of ": " ++ message
  | .missing name => Text.of "the following arguments are required: " ++ name
  | .unrecognized given => Text.of "unrecognized arguments: " ++ (Text.of " ").intercalate given

namespace Arguments

/-- The argument behind which no option is recognized. -/
def doubleDash : Text := Text.of "--"

/-- The mark of an option. -/
def dash : CodePoint := '-'

/-- What stands behind the spelling of an option in the same argument: characters joined to it, which may be
    none, or a value behind an equals sign. -/
inductive Attached where
  | joined (characters : Text)
  | assigned (value : Text)

/-- What an argument is taken for: an option in its full spelling and what is attached to it, an option that
    does not exist, the double dash, or an ordinary argument. -/
inductive Kind (α : Type) where
  | option (spec : OptionSpec α) (spelling : Text) (attached : Attached)
  | unknown
  | separator
  | ordinary

/-- A spelling with its option. -/
abbrev Spelling (α : Type) := Text × OptionSpec α

/-- All spellings of all options, in order. -/
def spellings {α : Type} (options : List (OptionSpec α)) : List (Spelling α) :=
  options.flatMap fun o => o.spellings.map fun spelling => (spelling, o)

/-- The option under an exact spelling. -/
def spelled? {α : Type} (options : List (OptionSpec α)) (spelling : Text) : Option (OptionSpec α) :=
  ((spellings options).find? fun s => s.1 = spelling).map (·.2)

/-- The options that an argument may be a shortened form of, each with its spelling and what is attached. An
    argument with one dash may also be a short option with characters joined to it. -/
def candidates {α : Type} (options : List (OptionSpec α)) (given : Text) :
    List (OptionSpec α × Text × Attached) :=
  if doubleDash.isPrefixOf given then
    let (start, attached) := match Text.cut? '=' given with
      | some (start, value) => (start, Attached.assigned value)
      | none => (given, Attached.joined [])
    ((spellings options).filter fun s => start.isPrefixOf s.1).map fun s => (s.2, s.1, attached)
  else
    (spellings options).filterMap fun s =>
      if s.1 = given.take 2 then some (s.2, s.1, .joined (given.drop 2))
      else if given.isPrefixOf s.1 then some (s.2, s.1, .joined [])
      else none

/-- Whether all of a text are decimal digits. -/
def allDigits (t : Text) : Bool := t.all fun c => c.digitValue?.isSome

/-- Whether an argument is a negative number rather than an option. A line feed at the end does not count. -/
def isNegativeNumber (given : Text) : Bool :=
  let body := given.drop 1
  let body := if body.getLast? = some CodePoint.newline then body.dropLast else body
  match Text.cut? '.' body with
  | none => body ≠ [] && allDigits body
  | some (whole, fraction) => allDigits whole && fraction ≠ [] && allDigits fraction

/-- The kind of an argument in front of any double dash. -/
def classify {α : Type} (options : List (OptionSpec α)) (given : Text) :
    Except ArgumentFault (Kind α) :=
  if given.head? ≠ some dash then .ok .ordinary
  else match spelled? options given with
  | some spec => .ok (.option spec given (.joined []))
  | none =>
    if given.length = 1 then .ok .ordinary
    else
      let attached := (Text.cut? '=' given).bind fun (spelling, value) =>
        (spelled? options spelling).map fun spec => Kind.option spec spelling (.assigned value)
      match attached, candidates options given with
      | some kind, _ => .ok kind
      | none, [(spec, spelling, attached)] => .ok (.option spec spelling attached)
      | none, [] =>
        if isNegativeNumber given || given.contains CodePoint.blank then .ok .ordinary else .ok .unknown
      | none, several => .error (.ambiguous given (several.map (·.2.1)))

/-- An argument with its kind. -/
abbrev Classified (α : Type) := Text × Kind α

/-- The kinds of all arguments; behind the double dash all are ordinary. -/
def classifyAll {α : Type} (options : List (OptionSpec α)) :
    List Text → Except ArgumentFault (List (Classified α))
  | [] => .ok []
  | given :: rest =>
    if given = doubleDash then .ok ((given, .separator) :: rest.map fun t => (t, .ordinary))
    else do
      let kind ← classify options given
      let others ← classifyAll options rest
      return (given, kind) :: others

/-- What an option in force is given: nothing because it takes no value, its value, or no value although it
    takes one. The last comes of a double dash that is attached to it: a double dash only separates. -/
inductive Operand where
  | flag
  | value (t : Text)
  | separator
deriving DecidableEq

/-- The operand that an attached text is. -/
def Operand.ofAttached (t : Text) : Operand := if t = doubleDash then .separator else .value t

/-- An option in force. -/
structure Use (α : Type) where
  spec : OptionSpec α
  operand : Operand

/-- What reading the arguments gives: the options in force in order, the required argument, and what is
    left over. A fault of form ends the list of options. -/
structure Parsed (α : Type) where
  uses : List (Use α)
  required : Option Text
  leftOver : List Text
  fault : Option ArgumentFault

/-- Nothing read yet. -/
def Parsed.empty {α : Type} : Parsed α := ⟨[], none, [], none⟩

/-- What is read with some options in front. -/
def Parsed.using {α : Type} (uses : List (Use α)) (p : Parsed α) : Parsed α :=
  { p with uses := uses ++ p.uses }

/-- What is read when a fault ends the reading. -/
def Parsed.failing {α : Type} (fault : ArgumentFault) : Parsed α := { Parsed.empty with fault := some fault }

/-- The options that one argument stands for: one option, or short ones joined together. Gives the last of
    them apart if it still needs the next argument as its value. -/
inductive Cluster (α : Type) where
  | complete (uses : List (Use α))
  | open (uses : List (Use α)) (last : OptionSpec α)
  | faulty (fault : ArgumentFault)

/-- One more option in front of a cluster. -/
def Cluster.cons {α : Type} (use : Use α) : Cluster α → Cluster α
  | .complete uses => .complete (use :: uses)
  | .open uses last => .open (use :: uses) last
  | .faulty fault => .faulty fault

/-- An option with characters joined to it: its value if it takes one, otherwise the letters of further short
    options, the last of which may have a value in turn. -/
def joined {α : Type} (options : List (OptionSpec α)) (spec : OptionSpec α) : Text → Cluster α
  | [] => if spec.takesValue then .open [] spec else .complete [⟨spec, .flag⟩]
  | c :: rest =>
    if spec.takesValue then .complete [⟨spec, .ofAttached (c :: rest)⟩]
    else
      match spelled? options [dash, c] with
      | none => .faulty (.ignoredValue spec.name (c :: rest))
      | some next => (joined options next rest).cons ⟨spec, .flag⟩

/-- Whether a spelling has one dash. -/
def isShort (spelling : Text) : Bool := (spelling.drop 1).head? ≠ some dash

/-- The cluster that starts with an option. What stands behind an equals sign is its value; for a short
    option that takes none the equals sign counts for nothing, unless nothing follows it. -/
def cluster {α : Type} (options : List (OptionSpec α)) (spec : OptionSpec α) (spelling : Text) :
    Attached → Cluster α
  | .joined characters => joined options spec characters
  | .assigned value =>
    if spec.takesValue then .complete [⟨spec, .ofAttached value⟩]
    else if isShort spelling && value ≠ [] then joined options spec value
    else .faulty (.ignoredValue spec.name value)

/-- Consume arguments from left to right. The required argument is taken from the first ordinary one; the
    double dash is passed over where that argument is still wanted or has just been taken. -/
def consume {α : Type} (options : List (OptionSpec α)) (wanted : Bool) :
    List (Classified α) → Parsed α
  | [] => .empty
  | (given, kind) :: rest =>
    match kind with
    | .ordinary =>
      if wanted then
        match rest with
        | (_, .separator) :: rest => { consume options false rest with required := some given }
        | rest => { consume options false rest with required := some given }
      else
        let p := consume options wanted rest
        { p with leftOver := given :: p.leftOver }
    | .separator =>
      match wanted, rest with
      | true, (given, .ordinary) :: rest => { consume options false rest with required := some given }
      | _, rest =>
        let p := consume options wanted rest
        { p with leftOver := given :: p.leftOver }
    | .unknown =>
      let p := consume options wanted rest
      { p with leftOver := given :: p.leftOver }
    | .option spec spelling attached =>
      match cluster options spec spelling attached with
      | .faulty fault => .failing fault
      | .complete uses => (consume options wanted rest).using uses
      | .open uses last =>
        match rest with
        | (value, .ordinary) :: rest =>
          (consume options wanted rest).using (uses ++ [⟨last, .value value⟩])
        | _ => .failing (.expectedValue last.name)

/-- Read the arguments of a command. -/
def parse {α : Type} (options : List (OptionSpec α)) (wanted : Bool) (given : List Text) :
    Except ArgumentFault (Parsed α) := do
  let classified ← classifyAll options given
  return consume options wanted classified

end Arguments

end Marginalia
