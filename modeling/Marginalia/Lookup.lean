/-
Module: Marginalia.Lookup
Purpose: Finding the source that a diagnostic names. A caller hands over one source, a mapping from names to
  sources or bare texts, or nothing. Only a diagnostic that names a source is looked up, and a name that
  leads nowhere leaves a notice.
Main exports: Lookup, Lookup.Entry, Lookup.find
-/

import Marginalia.Notice
import Marginalia.Source

namespace Marginalia

/-- What a mapping holds under a name: a source, a bare text that becomes one under that name, or something
    that is neither. -/
inductive Lookup.Entry where
  | source (s : Source)
  | text (t : Text)
  | other
deriving DecidableEq

/-- The sources that are at hand. -/
inductive Lookup where
  | nothing
  | single (s : Source)
  | mapping (entries : List (Text × Lookup.Entry))
deriving DecidableEq

namespace Lookup

/-- The entry of a mapping under a name. -/
def entry? (entries : List (Text × Entry)) (name : Text) : Option Entry :=
  (entries.find? fun e => e.1 = name).map (·.2)

/-- The source under a name, if the diagnostic has one and it leads to a source. -/
def find (sources : Lookup) (name : Option Text) : Logged (Option Source) :=
  match name, sources with
  | none, _ => pure none
  | some _, .nothing => pure none
  | some name, .single s =>
    if s.name = name then pure (some s)
    else do
      Logged.note (.sourceMismatch name s.name)
      pure none
  | some name, .mapping entries =>
    match entry? entries name with
    | some (.source s) => pure (some s)
    | some (.text t) => pure (some (.ofText name t))
    | _ => do
      Logged.note (.sourceUnknown name)
      pure none

end Lookup

end Marginalia
