/-
Module: Marginalia.Terminal.Style
Purpose: How characters look on a terminal: attributes such as bold or underlined, a colour, and a colour
  behind them. Styles are changed by the numbers of renditions and are written by them again. The terminal
  has sixteen colours; a colour that is given by its shares of red, green and blue, or by its number in the
  cube of 256, becomes the nearest of them.
Main exports: Style, Style.select, Style.selectAll, Style.renditions, Style.withoutColors, TerminalColor
-/

namespace Marginalia

/-- The terminal's own colour, or one of its sixteen. -/
inductive TerminalColor where
  | own
  | numbered (number : Nat)
deriving DecidableEq, Repr

/-- Shares of red, green and blue, each up to 255. -/
structure Shares where
  red : Nat
  green : Nat
  blue : Nat
deriving DecidableEq, Repr

namespace Shares

/-- The shares of the sixteen colours. -/
def sixteen : List Shares :=
  [⟨0, 0, 0⟩, ⟨170, 0, 0⟩, ⟨0, 170, 0⟩, ⟨170, 85, 0⟩, ⟨0, 0, 170⟩, ⟨170, 0, 170⟩, ⟨0, 170, 170⟩,
    ⟨170, 170, 170⟩, ⟨85, 85, 85⟩, ⟨255, 85, 85⟩, ⟨85, 255, 85⟩, ⟨255, 255, 85⟩, ⟨85, 85, 255⟩,
    ⟨255, 85, 255⟩, ⟨85, 255, 255⟩, ⟨255, 255, 255⟩]

/-- The share at one of the six levels of the cube. -/
def level (n : Nat) : Nat := if n = 0 then 0 else 55 + 40 * n

/-- The shares of a colour behind the first sixteen of the 256: a cube of six levels, then 24 greys. -/
def ofNumber (number : Nat) : Shares :=
  if number < 232 then
    let place := number - 16
    ⟨level (place / 36), level (place / 6 % 6), level (place % 6)⟩
  else
    let grey := 8 + 10 * (number - 232)
    ⟨grey, grey, grey⟩

/-- The square of a difference. -/
def squaredDifference (a b : Nat) : Nat := (a - b + (b - a)) * (a - b + (b - a))

/-- How far two colours are apart to the eye, squared. Red weighs the more the redder the two are, and blue
    the less. -/
def distance (a b : Shares) : Nat :=
  let meanRed := (a.red + b.red) / 2
  (512 + meanRed) * squaredDifference a.red b.red / 256 + 4 * squaredDifference a.green b.green +
    (767 - meanRed) * squaredDifference a.blue b.blue / 256

/-- The number of the nearest of some colours, the first of several; `number` counts from the first one. -/
def nearestIn (shares : Shares) (best : Nat × Nat) (number : Nat) : List Shares → Nat
  | [] => best.1
  | candidate :: rest =>
    let apart := shares.distance candidate
    nearestIn shares (if apart < best.2 then (number, apart) else best) (number + 1) rest

/-- The number of the nearest of the sixteen colours. -/
def nearest (shares : Shares) : Nat :=
  shares.nearestIn (0, shares.distance ⟨0, 0, 0⟩) 0 sixteen

end Shares

namespace TerminalColor

/-- A colour by its number among the 256. -/
def ofNumber (number : Nat) : TerminalColor :=
  if number < 16 then .numbered number else .numbered (Shares.ofNumber number).nearest

/-- The renditions of a colour whose first eight numbers start at `normal`, and the others at `bright`; the
    terminal's own has a number behind the first eight. -/
def rendition (normal bright : Nat) : TerminalColor → Nat
  | .own => normal + 9
  | .numbered number => if number < 8 then normal + number else bright + (number - 8)

end TerminalColor

/-- How a character looks. The attributes are renditions in increasing order. -/
structure Style where
  attributes : List Nat := []
  color : Option TerminalColor := none
  background : Option TerminalColor := none
deriving DecidableEq, Repr

namespace Style

/-- The renditions that set an attribute: bold, dim, italic, underlined, two ways of blinking, reversed,
    hidden, struck, doubly underlined, framed, encircled and overlined. -/
def attributeNumbers : List Nat := [1, 2, 3, 4, 5, 6, 7, 8, 9, 21, 51, 52, 53]

/-- The attributes that a rendition takes back. -/
def takenBack (rendition : Nat) : List Nat :=
  if rendition = 22 then [1, 2]
  else if 23 ≤ rendition ∧ rendition ≤ 29 then [rendition - 20]
  else if rendition = 54 then [51, 52]
  else if rendition = 55 then [53]
  else []

/-- The style after one more rendition; renditions without a meaning change nothing. -/
def select (style : Style) (rendition : Nat) : Style :=
  if rendition = 0 then {}
  else if rendition ∈ attributeNumbers then
    { style with attributes := attributeNumbers.filter fun n => n = rendition ∨ n ∈ style.attributes }
  else if 30 ≤ rendition ∧ rendition ≤ 37 then { style with color := some (.numbered (rendition - 30)) }
  else if rendition = 39 then { style with color := some .own }
  else if 40 ≤ rendition ∧ rendition ≤ 47 then
    { style with background := some (.numbered (rendition - 40)) }
  else if rendition = 49 then { style with background := some .own }
  else if 90 ≤ rendition ∧ rendition ≤ 97 then { style with color := some (.numbered (rendition - 82)) }
  else if 100 ≤ rendition ∧ rendition ≤ 107 then
    { style with background := some (.numbered (rendition - 92)) }
  else { style with attributes := style.attributes.filter fun n => n ∉ takenBack rendition }

/-- A style in another colour, or on one, as the rendition that announces the colour says. -/
def paint (style : Style) (rendition : Nat) (color : TerminalColor) : Style :=
  if rendition = 38 then { style with color := some color } else { style with background := some color }

/-- The greatest number that counts in a sequence. -/
def greatest : Nat := 255

/-- The style after some renditions in order. Two of them announce a colour of many: what follows says how
    it is given, by number or by shares, and if that breaks off nothing more is read. -/
def selectAll (style : Style) : List Nat → Style
  | [] => style
  | rendition :: rest =>
    if rendition = 38 ∨ rendition = 48 then
      match rest with
      | [] => style
      | manner :: rest =>
        if manner = 5 then
          match rest with
          | number :: rest => (style.paint rendition (.ofNumber (min number greatest))).selectAll rest
          | [] => style
        else if manner = 2 then
          match rest with
          | red :: green :: blue :: rest =>
            let shares : Shares := ⟨min red greatest, min green greatest, min blue greatest⟩
            (style.paint rendition (.numbered shares.nearest)).selectAll rest
          | _ => style
        else style.selectAll rest
    else (style.select rendition).selectAll rest

/-- The renditions that write a style: its attributes, its colour and the colour behind. -/
def renditions (style : Style) : List Nat :=
  style.attributes ++ (style.color.map (TerminalColor.rendition 30 90)).toList ++
    (style.background.map (TerminalColor.rendition 40 100)).toList

/-- A style in the terminal's usual colours. -/
def withoutColors (style : Style) : Style := { style with color := none, background := none }

end Style

end Marginalia
