/-
Module: Marginalia.Terminal
Purpose: A console to run the command with. The escape sequences in a rendering are read back as styles, line by
  line: of a line only what follows its last carriage return is kept, control characters without a meaning are
  dropped, and tabs are filled up to columns of eight. A plain console shows the characters alone; a
  terminal shows each run between one sequence that selects its style and one that resets it. Escape
  sequences and tabs end a run. The command takes any console; nothing that is proved of it rests on this one,
  which prints every text and has no faults.
Main exports: Run, Terminal.runLines, Terminal.plain, Terminal.styled, Terminal.console
-/

import Marginalia.Console
import Marginalia.Render.Palette
import Marginalia.Terminal.Cells
import Marginalia.Terminal.Style

namespace Marginalia

/-- Characters that are shown in one go. -/
structure Run where
  style : Style
  text : Text
deriving DecidableEq

namespace Terminal

open Console (between escape)

/-!
### Escape sequences
-/

/-- An escape sequence: how many code points it has, and what it writes between its opening and a final `m`
    if it is about styles. -/
structure Sequence where
  selection : Option Text
  length : Nat

/-- The rest of a control sequence: parameters, intermediates, and a final code point. -/
def controlSequence? (t : Text) : Option Sequence :=
  let parameters := t.takeWhile (between 0x30 0x3F)
  let behind := t.dropWhile (between 0x30 0x3F)
  let intermediates := behind.takeWhile (between 0x20 0x2F)
  let body := parameters ++ intermediates
  match behind.dropWhile (between 0x20 0x2F) with
  | final :: _ =>
    if between 0x40 0x7E final then some ⟨if final = 'm' then some body else none, body.length + 3⟩
    else none
  | [] => none

/-- The number of code points up to the end of the terminator of a command string, if there is one. -/
def commandLength? : Text → Option Nat
  | c :: d :: rest =>
    if c = escape ∧ d = '\\' then some 2 else (commandLength? (d :: rest)).map (· + 1)
  | _ => none

/-- The sequence at the start of a text, if there is one: a control sequence, a command string, or a pair. A
    pair that selects a character set takes one more code point with it, unless that opens a sequence. -/
def sequence? : Text → Option Sequence
  | c :: kind :: rest =>
    if c ≠ escape then none
    else if kind = '[' then controlSequence? rest
    else if kind = ']' then some ⟨none, 2 + (commandLength? rest).getD 0⟩
    else if kind = '(' then some ⟨none, if (sequence? rest).isSome then 2 else 3⟩
    else if between 0x30 0x5F kind then some ⟨none, 2⟩
    else none
  | _ => none

/-- The number that a parameter writes; an empty one is zero, and one that is no number is left out. -/
def parameterValue? (t : Text) : Option Nat :=
  if t.all (between 0x30 0x39) then some (t.foldl (fun n c => 10 * n + (c.val - 0x30)) 0) else none

/-- The style after a sequence. -/
def applySequence (style : Style) (s : Sequence) : Style :=
  match s.selection with
  | some body => style.selectAll ((Text.pieces ';' body).filterMap parameterValue?)
  | none => style

/-!
### Lines
-/

/-- Whether a control character is dropped without a trace. -/
def isDropped (c : CodePoint) : Bool :=
  c.val = 0x07 || c.val = 0x08 || c.val = 0x0B || c.val = 0x0C || c.val = 0x0D

/-- What is read of a line from some place on: the characters of the run one is in, the runs behind it, and
    the style at the end. -/
structure Tail where
  characters : Text
  runs : List Run
  last : Style

/-- Read a line from some place on. `skip` counts the code points of a sequence that are still to be
    passed. -/
def readTail (style : Style) (skip : Nat) : Text → Tail
  | [] => ⟨[], [], style⟩
  | c :: rest =>
    match skip with
    | skip + 1 => readTail style skip rest
    | 0 =>
      match sequence? (c :: rest) with
      | some s =>
        let style := applySequence style s
        let tail := readTail style (s.length - 1) rest
        ⟨[], ⟨style, tail.characters⟩ :: tail.runs, tail.last⟩
      | none =>
        let tail := readTail style 0 rest
        { tail with characters := if isDropped c then tail.characters else c :: tail.characters }

/-- What follows the last carriage return of a line. -/
def afterReturn (line : Text) : Text := ((Text.pieces '\r' line).getLast?).getD []

/-- Read lines one after the other, each in the style in which the one before it ended. -/
def readLines (style : Style) : List Text → List (List Run)
  | [] => []
  | line :: rest =>
    let tail := readTail style 0 (afterReturn line)
    (⟨style, tail.characters⟩ :: tail.runs) :: readLines tail.last rest

/-!
### Tabs
-/

/-- The distance between two tab stops. -/
def tabWidth : Nat := 8

/-- How far a line has been shown: the column behind its last tab, and the characters behind that, the last
    one first. -/
structure Shown where
  column : Nat
  since : Text

/-- Nothing of a line. -/
def Shown.nothing : Shown := ⟨0, []⟩

/-- The column up to which a tab reaches at least: it takes one cell before any filling. -/
def Shown.reached (shown : Shown) : Nat := shown.column + Text.cells (CodePoint.blank :: shown.since).reverse

/-- The cells from a column to the next tab stop. -/
def filling (column : Nat) : Nat := (tabWidth - column % tabWidth) % tabWidth

/-- The runs that characters in one style become, and how far the line has been shown after them. A tab
    becomes blanks, and a run ends behind it. -/
def expandRun (shown : Shown) (style : Style) : Text → Text × List Run × Shown
  | [] => ([], [], shown)
  | c :: rest =>
    if c = '\t' then
      let fill := filling shown.reached
      let (characters, runs, shown) := expandRun ⟨shown.reached + fill, []⟩ style rest
      (Text.blanks (fill + 1), ⟨style, characters⟩ :: runs, shown)
    else
      let (characters, runs, shown) := expandRun ⟨shown.column, c :: shown.since⟩ style rest
      (c :: characters, runs, shown)

/-- The runs of a line with its tabs filled up. -/
def expandTabs (shown : Shown) : List Run → List Run
  | [] => []
  | run :: rest =>
    let (characters, runs, shown) := expandRun shown run.style run.text
    ⟨run.style, characters⟩ :: runs ++ expandTabs shown rest

/-- The lines of a rendering as a console shows them. -/
def runLines (t : Text) : List (List Run) := (readLines {} t.lines).map (expandTabs .nothing)

/-!
### Showing
-/

/-- Lines with a line feed behind each; the empty text shows nothing at all. -/
def showLines (t : Text) (showRun : Run → Text) : Text :=
  if t = [] then []
  else [CodePoint.newline].intercalate ((runLines t).map fun runs => runs.flatMap showRun) ++ [CodePoint.newline]

/-- What a plain console shows. -/
def plain (t : Text) : Text := showLines t Run.text

/-- A run as a terminal shows it. -/
def showRun (run : Run) : Text :=
  match run.text, run.style.renditions with
  | [], _ => []
  | text, [] => text
  | text, numbers =>
    Text.of "\x1b[" ++ (Text.of ";").intercalate (numbers.map Text.ofNat) ++ Text.of "m" ++ text ++
      Palette.rendition 0

/-- What a terminal shows, with or without colours. -/
def styled (colors : Bool) (t : Text) : Text :=
  showLines t fun run => showRun (if colors then run else ⟨run.style.withoutColors, run.text⟩)

/-- A console that prints every text. -/
def console (isTerminal noColor : Bool) : Console where
  isTerminal := isTerminal
  noColor := noColor
  print t := .ok (if isTerminal then styled (!noColor) t else plain t)

end Terminal

end Marginalia
