/-
Module: Marginalia.Files.Tree
Purpose: A file tree held in memory, as a view. A path is walked component by component from the working
  directory; every component but the last must be a directory, and a component of more than 255 octets or a
  path of more than 4095 is refused. Nothing is known outside the tree.
Main exports: FileTree, FileTree.ofNames, FileTree.view
-/

import Marginalia.Files.View

namespace Marginalia

/-- Regular files by their components below the working directory. -/
structure FileTree where
  files : List (List Text × Octets)

namespace FileTree

/-- A tree from files by name. -/
def ofNames (files : List (Text × Octets)) : FileTree :=
  ⟨files.map fun file => ((FilePath.parse file.1).parts, file.2)⟩

/-- The most octets of a component. -/
def componentLimit : Nat := 255

/-- The most octets of a path. -/
def pathLimit : Nat := 4095

/-- The number of octets of a name. -/
def octetCount (t : Text) : Nat := (t.flatMap FilePath.pointOctets).length

/-- What stands at components below the working directory. -/
def entry (tree : FileTree) (place : List Text) : FileEntry :=
  match tree.files.find? fun file => file.1 = place with
  | some file => .file file.2
  | none =>
    if place = [] ∨ tree.files.any fun file => place.isPrefixOf file.1 then .directory else .missing

/-- Walk on from a directory, or from outside the tree. The place is kept innermost first. -/
def walk (tree : FileTree) (place : Option (List Text)) : List Text → FileEntry
  | [] =>
    match place with
    | some place => tree.entry place.reverse
    | none => .directory
  | part :: rest =>
    if part = FilePath.above then
      match place with
      | some (_ :: outer) => walk tree (some outer) rest
      | _ => walk tree none rest
    else if componentLimit < octetCount part then .nameTooLong
    else
      match place with
      | none => .missing
      | some place =>
        match tree.entry (part :: place).reverse with
        | .directory => walk tree (some (part :: place)) rest
        | .file content => if rest = [] then .file content else .underFile
        | other => other

/-- The tree as a view. -/
def view (tree : FileTree) : FileView := fun path =>
  if pathLimit < octetCount path.text then .nameTooLong
  else tree.walk (if path.root = [] then some [] else none) path.parts

end FileTree

end Marginalia
