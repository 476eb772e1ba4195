/-
Module: Marginalia.Document.Load
Purpose: Documents on disk. A file is decoded, its line ends are unified (a carriage return, alone or before
  a line feed, becomes a line feed) and its text is read as JSON; places in a refused text are counted after
  that. An integer that is too long and lists that stand in too many others are faults of their own kinds, since the
  text as such is in order.
Main exports: Document.load, LoadFault, Text.unifyLineEnds
-/

import Marginalia.Document.Reports
import Marginalia.Files.View
import Marginalia.Json.Reader

namespace Marginalia

/-- A text with every carriage return, and the line feed behind it if there is one, made a line feed. -/
def Text.unifyLineEnds : Text → Text
  | [] => []
  | [c] => if c = '\r' then [CodePoint.newline] else [c]
  | c :: d :: rest =>
    if c = '\r' then
      if d = CodePoint.newline then CodePoint.newline :: unifyLineEnds rest
      else CodePoint.newline :: unifyLineEnds (d :: rest)
    else c :: unifyLineEnds (d :: rest)

/-- Why a document cannot be loaded. -/
inductive LoadFault where
  | read (fault : ReadFault)
  | numeral (fault : Numeral.Fault)
  | nesting (fault : Json.NestingFault)
  | document (fault : DocumentFault)

/-- The wording of a fault. -/
def LoadFault.message : LoadFault → Text
  | .read fault => fault.message
  | .numeral fault => fault.message
  | .nesting fault => fault.message
  | .document fault => fault.message

namespace Document

/-- The reports that a text holds. -/
def ofText (document text : Text) : Except LoadFault (List Report) :=
  match Json.read text with
  | .ok doc => (parse document doc).mapError .document
  | .error (.numeral fault) => .error (.numeral fault)
  | .error (.nesting fault) => .error (.nesting fault)
  | .error (.malformed cause offset) =>
    let place := Json.place text offset
    .error (.document ⟨document, .invalidText cause.message place.line place.column⟩)

/-- The reports of a document on disk. -/
def load (view : FileView) (path : FilePath) : Except LoadFault (List Report) :=
  match view.readText path with
  | .error fault => .error (.read fault)
  | .ok text => ofText path.text text.unifyLineEnds

end Document

end Marginalia
