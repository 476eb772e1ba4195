/-
Module: Marginalia.Value
Purpose: Data of unknown shape: what a document holds before it is checked, and what a caller may hand over
  where a span is wanted. A value can be shown in a message unless an integer in it is too long to be written,
  named by its type, and compared; booleans are not integers for a check, though they compare equal to zero
  and one.
Main exports: Value, ForeignFault, Value.display, Value.tooLong?, Value.typeName, Value.equals, Value.int?,
  Value.member?, Value.displayTuple, Value.displayNamedTuple
-/

import Marginalia.Binary64
import Marginalia.Text.Numeral

namespace Marginalia

/-- A piece of data. The members of an object keep the order in which they came; a reader of objects sees
    to it that no key comes twice. -/
inductive Value where
  | null
  | bool (b : Bool)
  | int (n : Int)
  | float (x : Binary64)
  | text (t : Text)
  | list (items : List Value)
  | object (members : List (Text × Value))

/-- A fault that code of others raised, a caller's or that of another library: the name of its type and its
    wording. -/
structure ForeignFault where
  typeName : Text
  message : Text
deriving DecidableEq

namespace Value

/-- The integer that a value is; a boolean is none. -/
def int? : Value → Option Int
  | .int n => some n
  | _ => none

/-- The text that a value is. -/
def text? : Value → Option Text
  | .text t => some t
  | _ => none

/-- The member of an object under a key. -/
def member? (key : Text) (members : List (Text × Value)) : Option Value :=
  (members.find? fun entry => entry.1 = key).map (·.2)

/-- Members with one more: a key that is there already keeps its place and takes the new value. -/
def putMember (members : List (Text × Value)) (key : Text) (value : Value) : List (Text × Value) :=
  if members.any fun entry => entry.1 = key then
    members.map fun entry => if entry.1 = key then (key, value) else entry
  else members ++ [(key, value)]

/-- The name of a value's type, as messages give it. -/
def typeName : Value → Text
  | .null => "NoneType"
  | .bool _ => "bool"
  | .int _ => "int"
  | .float _ => "float"
  | .text _ => "str"
  | .list _ => "list"
  | .object _ => "dict"

/-!
### Display
-/

/-- Items between brackets, separated by a comma and a blank. -/
def enclose (left right : Text) (items : List Text) : Text :=
  left ++ (Text.of ", ").intercalate items ++ right

mutual

/-- A value as a message shows it. -/
def display : Value → Text
  | .null => "None"
  | .bool b => if b then "True" else "False"
  | .int n => Text.ofInt n
  | .float x => x.text
  | .text t => t.quoted
  | .list items => enclose "[" "]" (displayItems items)
  | .object members => enclose "\x7b" "\x7d" (displayMembers members)

/-- The items of a list, each as a message shows it. -/
def displayItems : List Value → List Text
  | [] => []
  | item :: rest => item.display :: displayItems rest

/-- The members of an object, each as key and value. -/
def displayMembers : List (Text × Value) → List Text
  | [] => []
  | (key, value) :: rest => (key.quoted ++ Text.of ": " ++ value.display) :: displayMembers rest

end

/-- A fixed sequence as a message shows it; a single item is followed by a comma. -/
def displayTuple (items : List Value) : Text :=
  match items with
  | [item] => Text.of "(" ++ item.display ++ Text.of ",)"
  | _ => enclose "(" ")" (displayItems items)

/-- A fixed sequence whose items have names, as a message shows it. -/
def displayNamedTuple (typeName : Text) (fields : List (Text × Value)) : Text :=
  typeName ++ enclose "(" ")" (fields.map fun field => field.1 ++ Text.of "=" ++ field.2.display)

mutual

/-- The fault of showing a value: that of its first integer that is too long to be written. -/
def tooLong? : Value → Option Numeral.WriteFault
  | .int n => Numeral.tooLong? n
  | .list items => tooLongItem? items
  | .object members => tooLongMember? members
  | _ => none

/-- The fault of showing the items of a list. -/
def tooLongItem? : List Value → Option Numeral.WriteFault
  | [] => none
  | item :: rest => item.tooLong?.or (tooLongItem? rest)

/-- The fault of showing the members of an object. -/
def tooLongMember? : List (Text × Value) → Option Numeral.WriteFault
  | [] => none
  | (_, value) :: rest => value.tooLong?.or (tooLongMember? rest)

end

/-!
### Comparison
-/

/-- The integer that a value compares as: booleans count as zero and one. -/
def comparedInt? : Value → Option Int
  | .bool b => some (if b then 1 else 0)
  | .int n => some n
  | _ => none

/-- Equality of two values that are not both lists or both objects. Numbers of different types are equal
    when they are the same number. -/
def equalsScalar (a b : Value) : Bool :=
  match a.comparedInt?, b.comparedInt? with
  | some m, some n => m = n
  | some m, none => match b with
    | .float y => y.equalsInt m
    | _ => false
  | none, some n => match a with
    | .float x => x.equalsInt n
    | _ => false
  | none, none => match a, b with
    | .null, .null => true
    | .float x, .float y => x.equals y
    | .text s, .text t => s = t
    | _, _ => false

mutual

/-- Equality of data. Lists are compared item by item, objects key by key in any order. -/
def equals : Value → Value → Bool
  | .list items, .list others => equalItems items others
  | .object members, .object others => members.length = others.length && equalMembers members others
  | a, b => equalsScalar a b

/-- Equality of two lists of values. -/
def equalItems : List Value → List Value → Bool
  | [], [] => true
  | item :: rest, other :: others => item.equals other && equalItems rest others
  | _, _ => false

/-- Whether every member has an equal one under the same key. -/
def equalMembers : List (Text × Value) → List (Text × Value) → Bool
  | [], _ => true
  | (key, value) :: rest, others =>
    (match member? key others with
      | some other => value.equals other
      | none => false) && equalMembers rest others

end

end Value

end Marginalia
