/-
Module: Marginalia.CommandLine.Demand
Purpose: The files that a run of the command asks for, so that they can be looked up beforehand. The document
  is known from the arguments; which other files are asked for is known once the document is. A view from
  looked up entries answers for their paths and knows of nothing else.
Main exports: CommandLine.documentPaths, CommandLine.sourcePaths, FileView.ofEntries
-/

import Marginalia.CommandLine.Run

namespace Marginalia

/-- What stands at the paths of some entries, the first of a path counting; nothing stands anywhere else. -/
def FileView.ofEntries (entries : List (FilePath × FileEntry)) : FileView := fun path =>
  match entries.find? fun entry => entry.1 = path with
  | some entry => entry.2
  | none => .missing

namespace CommandLine

/-- The path of the document, if the arguments name one. -/
def documentPaths (given : List Text) : List FilePath :=
  match CommandOptions.ofArguments given with
  | .ok o => if o.help then [] else [FilePath.parse o.document]
  | .error _ => []

/-- The paths of the sources that are given by name and path. -/
def namedPaths (o : CommandOptions) : List FilePath :=
  o.sources.filterMap fun source => source.map fun (_, path) => FilePath.parse path

/-- The paths that the sources of some reports may have. -/
def reportedPaths (reports : List Report) : List FilePath :=
  reports.filterMap fun r => r.source.map FilePath.parse

/-- The paths of the sources that the arguments and the document name. -/
def sourcePaths (view : FileView) (given : List Text) : List FilePath :=
  match CommandOptions.ofArguments given with
  | .error _ => []
  | .ok o =>
    match Document.load view (FilePath.parse o.document) with
    | .error _ => []
    | .ok reports => namedPaths o ++ reportedPaths reports

end CommandLine

end Marginalia
