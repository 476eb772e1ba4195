/-
Module: Marginalia.Proofs.Text.Renditions
Purpose: Taking the renditions out of a text. A rendition is an escape, a bracket, digits and semicolons, and
  a final `m`; they are taken out from the left, and what is left is not looked at again, so that the halves
  of a broken rendition stay where they are. Texts can be taken apart where the second one does not carry on
  a rendition that the first has begun, and where the first one has no escape.
Main exports: Text.behindRendition?, Text.withoutRenditions, Text.behindRendition?_eq_some_iff, Text.Breaks,
  Text.withoutRenditions_append, Text.withoutRenditions_free_append, Text.Solid,
  Text.Solid.withoutRenditions_intercalate, Text.IsStyle, Text.IsStyle.withoutRenditions_append
-/

import Mathlib.Data.List.TakeWhile
import Marginalia.Console
import Marginalia.Render.Palette

namespace Marginalia.Text

/-- The code points between the opening of a rendition and its end. -/
def isParameter (c : CodePoint) : Bool := Console.between 0x30 0x39 c || c = ';'

/-- What stands behind the rendition at the start of a text, if there is one. -/
def behindRendition? : Text → Option Text
  | c :: d :: rest =>
    if c = Console.escape ∧ d = '[' then
      match rest.dropWhile isParameter with
      | final :: behind => if final = 'm' then some behind else none
      | [] => none
    else none
  | _ => none

/-- A rendition is an escape, a bracket, parameters and a final letter. -/
theorem behindRendition?_eq_some_iff {t behind : Text} :
    behindRendition? t = some behind ↔
      ∃ parameters : Text, (∀ c ∈ parameters, isParameter c) ∧
        t = Console.escape :: CodePoint.ofChar '[' :: (parameters ++ CodePoint.ofChar 'm' :: behind) := by
  constructor
  · intro found
    rcases t with - | ⟨c, - | ⟨d, rest⟩⟩
    · cases found
    · cases found
    · rw [behindRendition?] at found
      split at found
      next opens =>
        obtain ⟨rfl, rfl⟩ := opens
        split at found
        next final others dropped =>
          split at found
          next closes =>
            obtain rfl : others = behind := Option.some.inj found
            refine ⟨rest.takeWhile isParameter, fun c => List.mem_takeWhile_imp, ?_⟩
            rw [← closes, ← dropped, List.takeWhile_append_dropWhile]
          next => cases found
        next => cases found
      next => cases found
  · intro stands
    rcases stands with ⟨parameters, all, rfl⟩
    have not_parameter : isParameter 'm' = false := by decide
    simp [behindRendition?, List.dropWhile_append_of_pos all, not_parameter]

theorem length_behindRendition? {t behind : Text} (found : behindRendition? t = some behind) :
    behind.length < t.length := by
  rcases behindRendition?_eq_some_iff.1 found with ⟨parameters, -, rfl⟩
  simp only [List.length_cons, List.length_append]
  omega

/-- A text without its renditions, taken out from the left. -/
def withoutRenditions : Text → Text
  | [] => []
  | c :: rest =>
    match _found : behindRendition? (c :: rest) with
    | some behind => withoutRenditions behind
    | none => c :: withoutRenditions rest
termination_by t => t.length
decreasing_by
  · exact length_behindRendition? _found
  · exact Nat.lt_succ_self _

theorem withoutRenditions_of_eq_some {t behind : Text} (found : behindRendition? t = some behind) :
    withoutRenditions t = withoutRenditions behind := by
  cases t with
  | nil => cases found
  | cons c rest =>
      rw [withoutRenditions]
      split
      next other same =>
        obtain rfl : other = behind := Option.some.inj (same.symm.trans found)
        rfl
      next missing =>
        rw [found] at missing
        cases missing

theorem withoutRenditions_of_eq_none {c : CodePoint} {rest : Text}
    (missing : behindRendition? (c :: rest) = none) :
    withoutRenditions (c :: rest) = c :: withoutRenditions rest := by
  rw [withoutRenditions]
  split
  next behind found =>
    rw [missing] at found
    cases found
  next => rfl

/-!
### Taking texts apart
-/

/-- A text that does not carry on a rendition which another text has begun. -/
def Breaks (t : Text) : Prop := ∀ c ∈ t.head?, isParameter c = false ∧ c ≠ '[' ∧ c ≠ 'm'

theorem breaks_nil : Breaks [] := by
  intro c mem
  cases mem

theorem breaks_cons_iff {c : CodePoint} {rest : Text} :
    Breaks (c :: rest) ↔ isParameter c = false ∧ c ≠ '[' ∧ c ≠ 'm' := by
  simp [Breaks]

variable {x y : Text}

theorem dropWhile_append_of_breaks (breaks : Breaks y) :
    (x ++ y).dropWhile isParameter = x.dropWhile isParameter ++ y := by
  rw [List.dropWhile_append]
  split
  next empty =>
    rw [List.isEmpty_iff.1 empty, List.nil_append]
    cases y with
    | nil => rfl
    | cons c rest => rw [List.dropWhile_cons_of_neg (by simp [(breaks_cons_iff.1 breaks).1])]
  next => rfl

/-- Whether a rendition stands at the start of a text does not depend on a text behind it that breaks it. -/
theorem behindRendition?_append (breaks : Breaks y) (some_text : x ≠ []) :
    behindRendition? (x ++ y) = (behindRendition? x).map (· ++ y) := by
  rcases x with - | ⟨c, - | ⟨d, rest⟩⟩
  · exact absurd rfl some_text
  · cases y with
    | nil => rfl
    | cons d rest => simp [behindRendition?, (breaks_cons_iff.1 breaks).2.1]
  · simp only [List.cons_append, behindRendition?, dropWhile_append_of_breaks breaks]
    split
    · cases rest.dropWhile isParameter with
      | nil =>
          cases y with
          | nil => rfl
          | cons c after => simp [(breaks_cons_iff.1 breaks).2.2]
      | cons final behind =>
          simp only [List.cons_append]
          split <;> rfl
    · rfl

/-- Texts can be taken apart where the second one breaks off what the first has begun. -/
theorem withoutRenditions_append (breaks : Breaks y) :
    withoutRenditions (x ++ y) = withoutRenditions x ++ withoutRenditions y := by
  induction x using withoutRenditions.induct with
  | case1 => simp [withoutRenditions]
  | case2 c rest behind found ih =>
      have found_too := behindRendition?_append breaks (List.cons_ne_nil c rest)
      rw [found, Option.map_some] at found_too
      rw [withoutRenditions_of_eq_some found_too, withoutRenditions_of_eq_some found, ih]
  | case3 c rest missing ih =>
      have missing_too := behindRendition?_append breaks (List.cons_ne_nil c rest)
      rw [missing, Option.map_none] at missing_too
      rw [List.cons_append] at missing_too ⊢
      rw [withoutRenditions_of_eq_none missing_too, withoutRenditions_of_eq_none missing, ih, List.cons_append]

/-- Texts can be taken apart where the first one has no escape. -/
theorem withoutRenditions_free_append (free : Console.escape ∉ x) :
    withoutRenditions (x ++ y) = x ++ withoutRenditions y := by
  induction x with
  | nil => rfl
  | cons c rest ih =>
      rw [List.mem_cons, not_or] at free
      have missing : behindRendition? (c :: (rest ++ y)) = none := by
        rw [Option.eq_none_iff_forall_ne_some]
        intro behind found
        rcases behindRendition?_eq_some_iff.1 found with ⟨parameters, -, same⟩
        exact free.1 (List.cons.inj same).1.symm
      rw [List.cons_append, withoutRenditions_of_eq_none missing, ih free.2, List.cons_append]

/-- Without an escape there is nothing to take out. -/
theorem withoutRenditions_of_free (free : Console.escape ∉ x) : withoutRenditions x = x := by
  have split : withoutRenditions (x ++ []) = x ++ withoutRenditions [] := withoutRenditions_free_append free
  simpa [withoutRenditions] using split

/-- A text that keeps apart what stands around it: it breaks what comes before and begins nothing itself. -/
structure Solid (t : Text) : Prop where
  ne_nil : t ≠ []
  breaks : Breaks t
  free : Console.escape ∉ t

theorem Solid.breaks_append {t : Text} (solid : Solid t) (y : Text) : Breaks (t ++ y) := by
  cases t with
  | nil => exact absurd rfl solid.ne_nil
  | cons c rest => exact solid.breaks

theorem Solid.withoutRenditions_append {t : Text} (solid : Solid t) :
    withoutRenditions (x ++ (t ++ y)) = withoutRenditions x ++ (t ++ withoutRenditions y) := by
  rw [Text.withoutRenditions_append (solid.breaks_append y), withoutRenditions_free_append solid.free]

theorem Solid.withoutRenditions_intercalate {separator : Text} (solid : Solid separator) (texts : List Text) :
    withoutRenditions (separator.intercalate texts) = separator.intercalate (texts.map withoutRenditions) := by
  induction texts with
  | nil => simp [withoutRenditions]
  | cons first rest ih =>
      cases rest with
      | nil => simp
      | cons second others =>
          rw [List.map_cons] at ih
          rw [List.intercalate_cons_cons, List.append_assoc, solid.withoutRenditions_append, ih, List.map_cons,
            List.map_cons, List.intercalate_cons_cons, List.append_assoc]

/-!
### Styles
-/

theorem isParameter_of_mem_ofNat {n : Nat} {c : CodePoint} (mem : c ∈ Text.ofNat n) : isParameter c := by
  rcases List.mem_map.1 mem with ⟨digit, written, rfl⟩
  have is_digit : digit.isDigit := Nat.isDigit_of_mem_toDigits (by decide) le_rfl written
  have bounds : 0x30 ≤ digit.toNat ∧ digit.toNat ≤ 0x39 := by
    simpa [Char.isDigit, Char.le_def, UInt32.le_iff_toNat_le] using is_digit
  simp [isParameter, Console.between, CodePoint.ofChar, bounds]

/-- A rendition of a palette is taken out, whatever follows it. -/
theorem withoutRenditions_rendition_append (n : Nat) :
    withoutRenditions (Palette.rendition n ++ y) = withoutRenditions y := by
  apply withoutRenditions_of_eq_some
  rw [behindRendition?_eq_some_iff]
  refine ⟨Text.ofNat n, fun c => isParameter_of_mem_ofNat, ?_⟩
  have opening : Text.of "\x1b[" = [Console.escape, CodePoint.ofChar '['] := by decide
  have closing : Text.of "m" = [CodePoint.ofChar 'm'] := by decide
  simp [Palette.rendition, opening, closing]

/-- A text that starts or ends a style: a rendition, or nothing. -/
def IsStyle (s : Text) : Prop := s = [] ∨ ∃ n, s = Palette.rendition n

theorem isStyle_nil : IsStyle [] := .inl rfl

theorem isStyle_rendition (n : Nat) : IsStyle (Palette.rendition n) := .inr ⟨n, rfl⟩

/-- A style is taken out, whatever follows it. -/
theorem IsStyle.withoutRenditions_append (style : IsStyle x) :
    withoutRenditions (x ++ y) = withoutRenditions y := by
  rcases style with rfl | ⟨n, rfl⟩
  · rfl
  · exact withoutRenditions_rendition_append n

/-- Before a text that breaks, a style breaks as well. -/
theorem IsStyle.breaks_append (style : IsStyle x) (breaks : Breaks y) : Breaks (x ++ y) := by
  rcases style with rfl | ⟨n, rfl⟩
  · exact breaks
  · have opening : Breaks (Text.of "\x1b[") := by
      intro c first
      obtain rfl : Console.escape = c := Option.some.inj first
      decide
    exact opening

theorem IsStyle.breaks_styled (style : IsStyle x) (p : Palette) {t : Text} (solid : Solid t) :
    Breaks (p.styled x t) := by
  rw [Palette.styled, List.append_assoc]
  exact style.breaks_append (solid.breaks_append p.reset)

end Marginalia.Text
