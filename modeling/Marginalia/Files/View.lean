/-
Module: Marginalia.Files.View
Purpose: Files as a program sees them: a view says for every path what stands there. Reading gives the
  octets of a regular file, or the fault of the path; asking whether a path is a file answers no for
  everything that is missing and fails only where the question itself cannot be put. A file that may not be
  read is a file all the same.
Main exports: FileView, FileEntry, FileFault, ReadFault, FileView.read, FileView.readText, FileView.isFile,
  Source.ofFile
-/

import Marginalia.Files.Path
import Marginalia.Source

namespace Marginalia

/-- What stands at a path. A file that is `unreadable` may be looked at, at a `forbidden` place nothing may. -/
inductive FileEntry where
  | file (content : Octets)
  | unreadable
  | directory
  | missing
  | underFile
  | nameTooLong
  | forbidden
deriving DecidableEq

/-- What stands at every path. -/
abbrev FileView : Type := FilePath → FileEntry

/-- Why a file cannot be read. -/
inductive FileFault where
  | missing (path : FilePath)
  | isDirectory (path : FilePath)
  | underFile (path : FilePath)
  | nameTooLong (path : FilePath)
  | forbidden (path : FilePath)
  | form (fault : FilePath.FormFault)
deriving DecidableEq

/-- The wording of a fault of the file system: its number, its name and the path. -/
def FileFault.numbered (number : Nat) (name : Text) (path : FilePath) : Text :=
  Text.of "[Errno " ++ Text.ofNat number ++ Text.of "] " ++ name ++ Text.of ": " ++ path.text.quoted

/-- The wording of a fault. -/
def FileFault.message : FileFault → Text
  | .missing path => numbered 2 "No such file or directory" path
  | .isDirectory path => numbered 21 "Is a directory" path
  | .underFile path => numbered 20 "Not a directory" path
  | .nameTooLong path => numbered 36 "File name too long" path
  | .forbidden path => numbered 13 "Permission denied" path
  | .form fault => fault.message

/-- Why the text of a file cannot be had. -/
inductive ReadFault where
  | file (fault : FileFault)
  | decode (fault : Utf8.DecodeFault)
deriving DecidableEq

/-- The wording of the fault. -/
def ReadFault.message : ReadFault → Text
  | .file fault => fault.message
  | .decode fault => fault.message

namespace FileView

/-- The octets of a regular file. -/
def read (view : FileView) (path : FilePath) : Except FileFault Octets :=
  match FilePath.octets path.text with
  | .error fault => .error (.form fault)
  | .ok _ =>
    match view path with
    | .file content => .ok content
    | .unreadable => .error (.forbidden path)
    | .directory => .error (.isDirectory path)
    | .missing => .error (.missing path)
    | .underFile => .error (.underFile path)
    | .nameTooLong => .error (.nameTooLong path)
    | .forbidden => .error (.forbidden path)

/-- The text of a regular file, line ends kept as they are stored. -/
def readText (view : FileView) (path : FilePath) : Except ReadFault Text :=
  match view.read path with
  | .error fault => .error (.file fault)
  | .ok content =>
    match Utf8.decode content with
    | .error fault => .error (.decode fault)
    | .ok text => .ok text

/-- Whether a regular file stands at a path. A text that names no file stands for none; only a name that
    is too long and a place that may not be looked at leave the question open. -/
def isFile (view : FileView) (path : FilePath) : Except FileFault Bool :=
  match FilePath.octets path.text with
  | .error _ => .ok false
  | .ok _ =>
    match view path with
    | .file _ | .unreadable => .ok true
    | .directory | .missing | .underFile => .ok false
    | .nameTooLong => .error (.nameTooLong path)
    | .forbidden => .error (.forbidden path)

end FileView

/-- The source that a file holds, under the name by which the file is asked for. -/
def Source.ofFile (view : FileView) (name : Text) : Except ReadFault Source :=
  (view.readText (FilePath.parse name)).map (ofText name)

end Marginalia
