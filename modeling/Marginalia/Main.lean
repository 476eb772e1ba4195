/-
Module: Marginalia.Main
Purpose: The command. It looks up the files that the run asks for, hands the run a console, leaves everything
  else to the run itself, and writes what the run gives to the two streams.
Main exports: main
-/

import Marginalia.CommandLine.Demand
import Marginalia.Terminal

namespace Marginalia

namespace CommandLine

/-- What stands at a path. A file that cannot be opened is told from a place that cannot be looked at by what
    is known of it besides its content. -/
def lookUp (path : FilePath) : IO FileEntry := do
  let place : IO.FS.DirEntry := ⟨".", String.ofList (path.text.map fun c => Char.ofNat c.val)⟩
  match (← (IO.FS.readBinFile place.path).toBaseIO) with
  | .ok content => return .file content.toList
  | .error (.inappropriateType _ 21 _) => return .directory
  | .error (.inappropriateType _ _ _) => return .underFile
  | .error (.invalidArgument _ _ _) => return .nameTooLong
  | .error (.permissionDenied _ _ _) =>
    match (← place.path.metadata.toBaseIO) with
    | .ok known => return if known.type matches .file then .unreadable else .directory
    | .error _ => return .forbidden
  | .error _ => return .missing

/-- A view of some paths, each looked up once. -/
def lookUpAll (paths : List FilePath) : IO FileView := do
  let entries ← paths.mapM fun path => return (path, ← lookUp path)
  return FileView.ofEntries entries

/-- A variable of the environment. -/
def environmentText (name : String) : IO (Option Text) := do
  return (← IO.getEnv name).map Text.of

/-- Write a text to a stream. -/
def put (stream : IO.FS.Stream) (t : Text) : IO Unit :=
  stream.write ⟨(t.flatMap CodePoint.encode).toArray⟩

/-- How the command is to be used. -/
def usage : Text :=
  Text.of "usage: pentiment [-h] [-s NAME=PATH] [-C CONTEXT_LINES] [--compact]\n" ++
    Text.of "                 [--no-color] [-v]\n" ++
    Text.of "                 document\n"

/-- What the command is for and what its arguments mean. -/
def explanation : Text :=
  Text.of "\nRender diagnostics from a JSON document\n" ++
    Text.of "\npositional arguments:\n" ++
    Text.of "  document              JSON file with a list of diagnostics\n" ++
    Text.of "\noptions:\n" ++
    Text.of "  -h, --help            show this help message and exit\n" ++
    Text.of "  -s NAME=PATH, --source NAME=PATH\n" ++
    Text.of "                        Read source NAME from PATH (repeatable)\n" ++
    Text.of "  -C CONTEXT_LINES, --context-lines CONTEXT_LINES\n" ++
    Text.of "                        Lines of context around labels\n" ++
    Text.of "  --compact             One line per diagnostic\n" ++
    Text.of "  --no-color            Disable ANSI colors\n" ++
    Text.of "  -v, --verbose         Log degraded rendering decisions\n"

end CommandLine

end Marginalia

open Marginalia in
/-- Run the command with the arguments it is given. -/
def main (args : List String) : IO UInt32 := do
  let given := args.map Text.of
  let noColor ← CommandLine.environmentText "NO_COLOR"
  let contextLines ← CommandLine.environmentText "PENTIMENT_CONTEXT_LINES"
  let documents := CommandLine.documentPaths given
  let view ← CommandLine.lookUpAll documents
  let view ← CommandLine.lookUpAll (documents ++ CommandLine.sourcePaths view given)
  let stdout ← IO.getStdout
  let stderr ← IO.getStderr
  let console := Terminal.console (← stdout.isTty) (noColor.any (· ≠ []))
  match CommandLine.run view ⟨noColor, contextLines⟩ (.ok console) given with
  | .ok (.finished status output log) =>
    CommandLine.put stderr (log.flatMap fun n => n.line ++ [CodePoint.newline])
    CommandLine.put stdout output
    return status.toUInt32
  | .ok (.refused message) =>
    CommandLine.put stderr
      (CommandLine.usage ++ Text.of "pentiment: error: " ++ message ++ Text.of "\n")
    return 2
  | .ok .help =>
    CommandLine.put stdout (CommandLine.usage ++ CommandLine.explanation)
    return 0
  | .error fault =>
    CommandLine.put stderr (fault.message ++ Text.of "\n")
    return 1
