/-
Module: Marginalia.Format
Purpose: The public entry points. Sources may also be given as the path of a file, which is read once and
  stands in for every source that the diagnostics name; a path that is no file stands for no source. Without
  options the environment decides.
Main exports: Sources, FormatFault, Sources.toLookup, Diagnostic.format, Diagnostic.formatAll
-/

import Marginalia.Files.View
import Marginalia.Render.Diagnostic

namespace Marginalia

open Render

/-- The sources that are at hand, or where to read one. -/
inductive Sources where
  | nothing
  | single (s : Source)
  | mapping (entries : List (Text × Lookup.Entry))
  | path (name : Text)

/-- Why diagnostics cannot be formatted. -/
inductive FormatFault where
  | read (fault : ReadFault)
  | options (fault : OptionsFault)
  | render (fault : RenderFault)

/-- The wording of a fault. -/
def FormatFault.message : FormatFault → Text
  | .read fault => fault.message
  | .options fault => fault.message
  | .render fault => fault.message

namespace Sources

/-- The names in a list of optional names, each once, in order of first mention. -/
def distinctNames : List (Option Text) → List Text
  | [] => []
  | none :: rest => distinctNames rest
  | some name :: rest => name :: (distinctNames rest).filter (· ≠ name)

/-- The lookup that the sources stand for. The text of a file goes under every name that the diagnostics
    use, or under the path itself if they use none. -/
def toLookup (sources : Sources) (view : FileView) (names : List (Option Text)) :
    Checked FormatFault Lookup :=
  match sources with
  | .nothing => pure (.mapping [])
  | .single s => pure (.single s)
  | .mapping entries => pure (.mapping entries)
  | .path name =>
    match view.isFile (FilePath.parse name) with
    | .error _ => do
      Checked.ofLogged (Logged.note (.pathUnusable name))
      return .mapping []
    | .ok false => pure (.mapping [])
    | .ok true => do
      let content ← Checked.ofExcept .read (view.readText (FilePath.parse name))
      let names := match distinctNames names with
        | [] => [name]
        | names => names
      return .mapping (names.map fun name => (name, .source (.ofText name content)))

end Sources

namespace Diagnostic

/-- The options that are given, or those of the environment. -/
def optionsOr (options : Option RenderOptions) (env : Environment) : Except OptionsFault RenderOptions :=
  match options with
  | some options => .ok options
  | none => RenderOptions.ofEnvironment env

/-- One diagnostic, formatted. -/
def format (d : Diagnostic) (sources : Sources) (options : Option RenderOptions) (colors : Option Bool)
    (contextLines : Option Int) (env : Environment) (view : FileView) : Checked FormatFault Text := do
  let lookup ← sources.toLookup view [d.source]
  let options ← Checked.ofExcept .options (optionsOr options env)
  ExceptT.adapt .render (d.render lookup (some options) colors contextLines)

/-- Several diagnostics, formatted. -/
def formatAll (ds : List Diagnostic) (sources : Sources) (options : Option RenderOptions)
    (colors : Option Bool) (contextLines : Option Int) (env : Environment) (view : FileView) :
    Checked FormatFault Text := do
  let lookup ← sources.toLookup view (ds.map (·.source))
  let options ← Checked.ofExcept .options (optionsOr options env)
  ExceptT.adapt .render (renderAll ds lookup (some options) colors contextLines)

end Diagnostic

end Marginalia
