/-
Module: Marginalia.Files.Path
Purpose: Names of files. A path is put into a normal form when it is read: empty components and those of a
  single dot are dropped, two dots stay, since what they mean depends on links, and a path without
  components is the working directory. The octets of a name are its encoded form, in which the code points
  that stand for undecodable octets give these octets back.
Main exports: FilePath, FilePath.parse, FilePath.text, FilePath.octets, FilePath.FormFault
-/

import Marginalia.Text.Quoted

namespace Marginalia

/-- A path in normal form: what stands in front of the first component, and the components. -/
structure FilePath where
  root : Text
  parts : List Text
deriving DecidableEq

namespace FilePath

/-- The mark between components. -/
def slash : CodePoint := '/'

/-- The component for the directory above. -/
def above : Text := Text.of ".."

/-- The root of a path: none, one slash, or exactly two, which some systems tell apart. -/
def rootOf (t : Text) : Text :=
  let slashes := (t.takeWhile (· = slash)).length
  if slashes = 0 then [] else if slashes = 2 then [slash, slash] else [slash]

/-- The path that a text names. -/
def parse (t : Text) : FilePath :=
  ⟨rootOf t, (Text.pieces slash t).filter fun part => part ≠ [] ∧ part ≠ Text.of "."⟩

/-- The text of a path; the working directory is a single dot. -/
def text (p : FilePath) : Text :=
  if p.root = [] ∧ p.parts = [] then "." else p.root ++ [slash].intercalate p.parts

/-- A text that is the name of no file at all. -/
inductive FormFault where
  | unencodable (fault : Utf8.EncodeFault)
  | containsNull
deriving DecidableEq

/-- The wording of the fault. -/
def FormFault.message : FormFault → Text
  | .unencodable fault => fault.message
  | .containsNull => "embedded null byte"

/-- Whether a surrogate stands for an octet that could not be decoded. -/
def standsForOctet (c : CodePoint) : Bool := 0xDC80 ≤ c.val && c.val ≤ 0xDCFF

/-- Whether a code point has no octets in a name. -/
def isUnencodable (c : CodePoint) : Bool := c.isSurrogate && !standsForOctet c

/-- The octets of one code point of a name. -/
def pointOctets (c : CodePoint) : Octets :=
  if standsForOctet c then [UInt8.ofNat (c.val - 0xDC00)] else c.encode

/-- The octets of a name. The fault names the first surrogate that stands for nothing and counts the
    surrogates from there on. -/
def octets (t : Text) : Except FormFault Octets :=
  let clean := t.takeWhile fun c => !isUnencodable c
  match t.dropWhile fun c => !isUnencodable c with
  | [] => if t.any fun c => c.val = 0 then .error .containsNull else .ok (t.flatMap pointOctets)
  | c :: rest =>
    .error (.unencodable ⟨clean.length, c, 1 + (rest.takeWhile CodePoint.isSurrogate).length⟩)

end FilePath

end Marginalia
