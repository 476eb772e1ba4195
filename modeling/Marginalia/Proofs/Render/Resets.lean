/-
Module: Marginalia.Proofs.Render.Resets
Purpose: No style outlasts its row. Where no text that is drawn has an escape or a line feed of its own, every
  escape of a coloured rendering is one that the palette put there. Each of them starts a whole rendition, which
  no cut of a long line can reach, and behind every style of a row stands the reset, so that the last rendition
  of a line is always the one that ends them all. Rows of which this holds can be put side by side and one below
  the other.
Main exports: Text.Whole, Text.Sealed, Text.Sealed.append, Text.Whole.append_sealed, Text.Calm, Text.SealedRow,
  Text.SealedRow.emphasizeFrom, Text.SealedLines, Diagnostic.Calm, Diagnostic.styles_end_with_row
-/

import Marginalia.Proofs.Render.Batch
import Marginalia.Proofs.Render.Coloring
import Marginalia.Proofs.Render.Degradation

namespace Marginalia

open CodePoint (newline)
open Console (escape)
open Render

theorem Palette.ofStyles_colored : Palette.colored.OfStyles := Palette.ofStyles_ofColors true

namespace Text

/-!
### Escapes in a text
-/

/-- Every escape of a text starts a whole rendition. -/
def Whole (t : Text) : Prop :=
  ∀ front rest, t = front ++ escape :: rest → ∃ behind, behindRendition? (escape :: rest) = some behind

/-- Every escape of a text starts a whole rendition, and the last one starts the reset. -/
structure Sealed (t : Text) : Prop where
  whole : Whole t
  reset : ∀ front rest, t = front ++ escape :: rest → escape ∉ rest → Palette.colored.reset <+: escape :: rest

variable {x y t : Text}

/-- A mark in two joined texts stands in the second one, or in the first one with the second behind it. -/
theorem mark_in_append {mark : CodePoint} {front rest : Text} (split : x ++ y = front ++ mark :: rest) :
    (∃ behind, y = behind ++ mark :: rest) ∨ ∃ between, x = front ++ mark :: between ∧ rest = between ++ y := by
  rcases List.append_eq_append_iff.1 split with ⟨behind, -, in_second⟩ | ⟨between, in_first, same⟩
  · exact .inl ⟨behind, in_second⟩
  · rcases between with - | ⟨c, between⟩
    · exact .inl ⟨[], same.symm⟩
    · obtain ⟨rfl, rfl⟩ := List.cons.inj same
      exact .inr ⟨between, in_first, rfl⟩

/-- A rendition at the start of a text is one whatever stands behind the text. -/
theorem behindRendition?_append_right {behind : Text} (found : behindRendition? x = some behind) (y : Text) :
    behindRendition? (x ++ y) = some (behind ++ y) := by
  rcases behindRendition?_eq_some_iff.1 found with ⟨parameters, all, rfl⟩
  exact behindRendition?_eq_some_iff.2 ⟨parameters, all, by simp⟩

theorem whole_of_free (free : escape ∉ t) : Whole t := by
  intro front rest split
  exact absurd (split ▸ List.mem_append_right front (List.mem_cons_self ..)) free

theorem sealed_of_free (free : escape ∉ t) : Sealed t where
  whole := whole_of_free free
  reset := fun front _ split => absurd (split ▸ List.mem_append_right front (List.mem_cons_self ..)) free

theorem Whole.append (whole : Whole x) (also : Whole y) : Whole (x ++ y) := by
  intro front rest split
  rcases mark_in_append split with ⟨behind, in_second⟩ | ⟨between, in_first, rfl⟩
  · exact also behind rest in_second
  · rcases whole front between in_first with ⟨behind, found⟩
    exact ⟨behind ++ y, behindRendition?_append_right found y⟩

theorem Sealed.append (first : Sealed x) (second : Sealed y) : Sealed (x ++ y) where
  whole := first.whole.append second.whole
  reset := by
    intro front rest split last
    rcases mark_in_append split with ⟨behind, in_second⟩ | ⟨between, in_first, rfl⟩
    · exact second.reset behind rest in_second last
    · rw [List.mem_append, not_or] at last
      exact (first.reset front between in_first last.1).trans (List.prefix_append (escape :: between) y)

/-- In front of a sealed text that has an escape any styles can be left open. -/
theorem Whole.append_sealed (whole : Whole x) (second : Sealed y) (resets : escape ∈ y) : Sealed (x ++ y) where
  whole := whole.append second.whole
  reset := by
    intro front rest split last
    rcases mark_in_append split with ⟨behind, in_second⟩ | ⟨between, -, rfl⟩
    · exact second.reset behind rest in_second last
    · exact absurd (List.mem_append_right between resets) last

/-- A text whose only escape is its first code point has that one escape. -/
theorem eq_of_only_escape {tail front rest : Text} (only : escape ∉ tail)
    (split : escape :: tail = front ++ escape :: rest) : rest = tail := by
  rcases front with - | ⟨c, front⟩
  · exact (List.cons.inj split).2.symm
  · rw [(List.cons.inj split).2] at only
    exact absurd (List.mem_append_right front (List.mem_cons_self ..)) only

theorem rendition_eq (n : Nat) :
    Palette.rendition n =
      escape :: CodePoint.ofChar '[' :: (Text.ofNat n ++ [CodePoint.ofChar 'm']) := by
  have opening : Text.of "\x1b[" = [escape, CodePoint.ofChar '['] := by decide
  have closing : Text.of "m" = [CodePoint.ofChar 'm'] := by decide
  rw [Palette.rendition, opening, closing]
  rfl

theorem escape_not_mem_behind_escape (n : Nat) :
    escape ∉ CodePoint.ofChar '[' :: (Text.ofNat n ++ [CodePoint.ofChar 'm']) := by
  simp only [List.mem_cons, List.mem_append, List.not_mem_nil, or_false, not_or]
  exact ⟨by decide, escape_not_mem_ofNat n, by decide⟩

theorem whole_rendition (n : Nat) : Whole (Palette.rendition n) := by
  intro front rest split
  rw [rendition_eq] at split
  rw [eq_of_only_escape (escape_not_mem_behind_escape n) split, ← rendition_eq]
  refine ⟨[], behindRendition?_eq_some_iff.2 ⟨Text.ofNat n, fun c => isParameter_of_mem_ofNat, ?_⟩⟩
  rw [rendition_eq]

theorem sealed_reset : Sealed Palette.colored.reset where
  whole := whole_rendition 0
  reset := by
    intro front rest split _
    have spelled : Palette.colored.reset = Palette.rendition 0 := rfl
    rw [spelled, rendition_eq] at split ⊢
    obtain rfl := eq_of_only_escape (escape_not_mem_behind_escape 0) split
    exact List.prefix_rfl

theorem IsStyle.whole (style : IsStyle x) : Whole x := by
  rcases style with rfl | ⟨n, rfl⟩
  · exact whole_of_free List.not_mem_nil
  · exact whole_rendition n

/-- What holds of the empty text, and of two texts around a separator if it holds of both, holds of texts joined by
    the separator. -/
theorem intercalate_of_joins {holds : Text → Prop} {separator : Text} (nil : holds [])
    (joins : ∀ x y, holds x → holds y → holds (x ++ separator ++ y)) {texts : List Text}
    (all : ∀ t ∈ texts, holds t) : holds (separator.intercalate texts) := by
  induction texts with
  | nil => exact nil
  | cons first rest ih =>
      rw [List.forall_mem_cons] at all
      rcases rest with - | ⟨second, others⟩
      · rw [List.intercalate_singleton]
        exact all.1
      · rw [List.intercalate_cons_of_ne_nil (List.cons_ne_nil second others)]
        exact joins _ _ all.1 (ih all.2)

/-!
### Rows

A row is sealed if its escapes are and it has no line feed.
-/

/-- A text without an escape and without a line feed. -/
def Calm (t : Text) : Prop := ∀ c ∈ t, c ≠ escape ∧ c ≠ newline

instance : DecidablePred Calm := fun t => inferInstanceAs (Decidable (∀ c ∈ t, c ≠ escape ∧ c ≠ newline))

theorem calm_append_iff : Calm (x ++ y) ↔ Calm x ∧ Calm y := List.forall_mem_append

theorem Calm.append (calm : Calm x) (also : Calm y) : Calm (x ++ y) := calm_append_iff.2 ⟨calm, also⟩

theorem Calm.escape_not_mem (calm : Calm t) : escape ∉ t := fun mem => (calm escape mem).1 rfl

theorem Calm.newline_not_mem (calm : Calm t) : newline ∉ t := fun mem => (calm newline mem).2 rfl

theorem calm_replicate {c : CodePoint} (n : Nat) (calm : Calm [c]) : Calm (List.replicate n c) := by
  intro d mem
  rw [List.eq_of_mem_replicate mem]
  exact calm c (List.mem_singleton_self c)

theorem calm_blanks (n : Nat) : Calm (Text.blanks n) := calm_replicate n (by decide)

theorem calm_ofNat (n : Nat) : Calm (Text.ofNat n) := by
  intro c mem
  have digit := isParameter_of_mem_ofNat mem
  constructor
  · rintro rfl
    exact absurd digit (by decide)
  · rintro rfl
    exact absurd digit (by decide)

theorem calm_ofInt (n : Int) : Calm (Text.ofInt n) := by
  cases n with
  | ofNat n => exact calm_ofNat n
  | negSucc n => exact List.forall_mem_cons.2 ⟨by decide, calm_ofNat (n + 1)⟩

theorem calm_padLeft (width n : Nat) : Calm (Text.padLeft width (Text.ofNat n)) :=
  (calm_blanks _).append (calm_ofNat n)

theorem calm_underline (width : Nat) : Calm (underline width).1 := by
  have dashes : ∀ n, Calm (List.replicate n horizontal) := fun n => calm_replicate n (by decide)
  have middle : Calm [tee] := by decide
  rw [underline]
  split
  · exact middle
  · exact (dashes _).append (middle.append (dashes _))

/-- A line is cut in front of an ellipsis, and what is left of it is a part of the line. -/
theorem Calm.truncate (calm : Calm t) (taken : Int) : Calm (truncate t taken) := by
  have cut : Calm [ellipsis] := by decide
  rw [Render.truncate]
  split
  · exact Calm.append (fun c mem => calm c (List.mem_of_mem_take mem)) cut
  · exact calm

/-- A row whose escapes are sealed. -/
structure SealedRow (row : Text) : Prop where
  sealed : Sealed row
  single : newline ∉ row

theorem Calm.row (calm : Calm t) : SealedRow t := ⟨sealed_of_free calm.escape_not_mem, calm.newline_not_mem⟩

theorem SealedRow.append (first : SealedRow x) (second : SealedRow y) : SealedRow (x ++ y) where
  sealed := first.sealed.append second.sealed
  single := by
    rw [List.mem_append, not_or]
    exact ⟨first.single, second.single⟩

theorem IsStyle.newline_not_mem (style : IsStyle x) : newline ∉ x := by
  rcases style with rfl | ⟨n, rfl⟩
  · exact List.not_mem_nil
  · rw [rendition_eq]
    simp only [List.mem_cons, List.mem_append, List.not_mem_nil, or_false, not_or]
    exact ⟨by decide, by decide, (calm_ofNat n).newline_not_mem, by decide⟩

/-- What stands between a style and the reset is sealed, in front of it other styles may be open. -/
theorem IsStyle.row_append (style : IsStyle x) (row : SealedRow y) (resets : escape ∈ y) : SealedRow (x ++ y) where
  sealed := style.whole.append_sealed row.sealed resets
  single := by
    rw [List.mem_append, not_or]
    exact ⟨style.newline_not_mem, row.single⟩

theorem SealedRow.styled {style : Text} (starts : IsStyle style) (calm : Calm t) :
    SealedRow (Palette.colored.styled style t) := by
  have reset : SealedRow Palette.colored.reset := ⟨sealed_reset, by decide⟩
  rw [Palette.styled, List.append_assoc]
  refine starts.row_append (calm.row.append reset) (List.mem_append_right t ?_)
  decide

theorem escape_mem_styled (style t : Text) : escape ∈ Palette.colored.styled style t :=
  List.mem_append_right (style ++ t) (by decide)

/-- A text with its code spans in bold is sealed, from every place in a code span on. -/
theorem SealedRow.emphasizeFrom {run : Option Text} (calm : Calm t) (open_calm : Calm (Palette.openRun run)) :
    SealedRow (Palette.colored.emphasizeFrom run t) := by
  have mark : Calm [CodePoint.backtick] := by decide
  induction t generalizing run with
  | nil =>
      cases run with
      | none => exact calm.row
      | some run => exact open_calm.row
  | cons c rest ih =>
      obtain ⟨here, others⟩ : Calm [c] ∧ Calm rest := List.forall_mem_append.1 calm
      have outside : SealedRow (Palette.colored.emphasizeFrom none rest) := ih others (by decide)
      by_cases is_mark : c = CodePoint.backtick
      · subst is_mark
        have opened : SealedRow (Palette.colored.emphasizeFrom (some []) rest) := ih others mark
        rcases run with - | (- | ⟨d, run⟩)
        · simpa [Palette.emphasizeFrom] using opened
        · simpa [Palette.emphasizeFrom] using mark.row.append opened
        · have content : Calm (d :: run).reverse := (List.forall_mem_cons.1 open_calm).2
          have bold := SealedRow.styled Palette.ofStyles_colored.bold content
          simpa [Palette.emphasizeFrom] using ((mark.row.append bold).append mark.row).append outside
      · rcases run with - | run
        · simpa [Palette.emphasizeFrom, is_mark] using here.row.append outside
        · have longer : Calm (Palette.openRun (some (c :: run))) := by
            simpa [Palette.openRun] using Calm.append open_calm here
          simpa [Palette.emphasizeFrom, is_mark] using ih others longer

theorem SealedRow.emphasize (calm : Calm t) : SealedRow (Palette.colored.emphasize t) := by
  rw [Palette.emphasize]
  split
  · exact calm.row
  · exact SealedRow.emphasizeFrom calm (by decide)

end Text

/-!
### The rows of a rendering
-/

namespace Render

open Palette (ofStyles_colored)
open Text

variable {t : Text} (width : Nat)

/-- A framed row: blanks, the frame in its style, and a row behind it. -/
theorem sealedRow_frame {glyphs : Text} (calm : Calm glyphs) :
    SealedRow (Text.blanks width ++ [CodePoint.blank] ++ Palette.colored.styled Palette.colored.dim glyphs) :=
  ((calm_blanks width).append (calm_blanks 1)).row.append (.styled ofStyles_colored.dim calm)

theorem sealedRow_headerRow (severity : Severity) {code : Option Text} {message : Text}
    (calm_code : ∀ t ∈ code, Calm t) (calm : Calm message) :
    SealedRow (headerRow .colored severity code message) := by
  have name : Calm severity.name := by cases severity <;> decide
  have mark : Calm (Text.of ": ") := by decide
  have heading : ∀ codePart, Calm codePart → SealedRow (Palette.colored.severity severity ++
      Palette.colored.styled Palette.colored.bold (severity.name ++ codePart) ++ Text.of ": " ++
        Palette.colored.emphasize message) := by
    intro codePart calm_part
    have title := SealedRow.styled ofStyles_colored.bold (name.append calm_part)
    have styles := (ofStyles_colored.severity severity).row_append title (escape_mem_styled ..)
    exact (styles.append mark.row).append (.emphasize calm)
  rcases code with - | (- | ⟨c, rest⟩)
  · exact heading [] (List.forall_mem_nil _)
  · exact heading [] (List.forall_mem_nil _)
  · exact heading _ (Calm.append (Calm.append (by decide) (calm_code (c :: rest) rfl)) (by decide))

theorem sealedRow_bannerRow {location : Text} (calm : Calm location) :
    SealedRow (bannerRow .colored width location) :=
  ((sealedRow_frame width (by decide)).append calm.row).append (.styled ofStyles_colored.dim (by decide))

theorem sealedRow_separatorRow : SealedRow (separatorRow .colored width) := sealedRow_frame width (by decide)

theorem sealedRow_closingRow : SealedRow (closingRow .colored width) := sealedRow_frame width (by decide)

theorem sealedRow_contextRow (number : Nat) (calm : Calm t) : SealedRow (contextRow .colored width number t) := by
  have front := (calm_padLeft width number).append (show Calm [CodePoint.blank, vertical] by decide)
  exact ((SealedRow.styled ofStyles_colored.dim front).append (calm_blanks 1).row).append (calm.truncate _).row

theorem sealedRow_labelledRow (number : Nat) (calm : Calm t) : SealedRow (labelledRow .colored width number t) := by
  have number_row := SealedRow.styled ofStyles_colored.dim (calm_padLeft width number)
  have frame := SealedRow.styled ofStyles_colored.dim (show Calm [vertical] by decide)
  exact (((number_row.append (calm_blanks 1).row).append frame).append (calm_blanks 1).row).append
    (calm.truncate _).row

theorem sealedRow_pointerRows {label : Label} (calm : ∀ message ∈ label.message, Calm message)
    (position : Position) : ∀ row ∈ pointerRows .colored width label position, SealedRow row := by
  have gutter : SealedRow (pointerGutter .colored width) :=
    (sealedRow_frame width (by decide)).append (calm_blanks 1).row
  have color := ofStyles_colored.priority label.priority
  have message : Calm (label.message.getD []) := by
    cases given : label.message with
    | none => exact List.forall_mem_nil _
    | some message => exact calm message given
  intro row mem
  simp only [pointerRows, List.mem_cons, List.not_mem_nil, or_false] at mem
  rcases mem with rfl | rfl
  · exact (gutter.append (calm_blanks _).row).append (.styled color (calm_underline _))
  · exact (gutter.append (calm_blanks _).row).append (.styled color (Calm.append (by decide) message))

theorem sealedRow_trailerRow {color kind item : Text} (starts : IsStyle color) (calm_kind : Calm kind)
    (calm : Calm item) : SealedRow (trailerRow .colored width color kind item) :=
  (((calm_blanks (width + 3)).row.append (.styled starts calm_kind)).append
    (show Calm (Text.of ": ") by decide).row).append (SealedRow.emphasize calm)

theorem calm_counted (n : Nat) {noun : Text} (calm : Calm noun) : Calm (counted n noun) := by
  have ending : Calm (if n = 1 then [] else Text.of "s") := by
    split <;> decide
  exact (((calm_ofNat n).append (calm_blanks 1)).append calm).append ending

theorem sealedRow_summaryRow {severities : List Severity} {row : Text}
    (summary : summaryRow .colored severities = some row) : SealedRow row := by
  have counts : ∀ part ∈ (if severities.count .error = 0 then [] else [counted (severities.count .error) "error"]) ++
      (if severities.count .warning = 0 then [] else [counted (severities.count .warning) "warning"]), Calm part := by
    intro part mem
    rw [List.mem_append, List.mem_ite_nil_left, List.mem_ite_nil_left, List.mem_singleton,
      List.mem_singleton] at mem
    rcases mem with ⟨-, rfl⟩ | ⟨-, rfl⟩
    · exact calm_counted _ (by decide)
    · exact calm_counted _ (by decide)
  have comma : Calm (Text.of ", ") := by decide
  have joined := intercalate_of_joins (List.forall_mem_nil _)
    (fun x y calm also => (Calm.append calm comma).append also) counts
  simp only [summaryRow, Option.ite_none_left_eq_some, Option.some.injEq] at summary
  obtain ⟨-, rfl⟩ := summary
  exact .styled ofStyles_colored.bold (Calm.append joined (by decide))

/-!
### Blocks of rows
-/

theorem sealedRow_lineRows (number : Nat) (calm : Calm t) {labels : List PositionedLabel}
    (messages : ∀ l ∈ labels, ∀ message ∈ l.label.message, Calm message) :
    ∀ row ∈ lineRows .colored width labels number t, SealedRow row := by
  intro row mem
  rw [lineRows] at mem
  split at mem
  next =>
    rw [List.mem_singleton.1 mem]
    exact sealedRow_contextRow width number calm
  next onLine =>
    rcases List.mem_cons.1 mem with rfl | mem
    · exact sealedRow_labelledRow width number calm
    · rcases List.mem_flatMap.1 mem with ⟨l, on_line, of_label⟩
      refine sealedRow_pointerRows width (messages l ?_) l.position row of_label
      exact (List.mem_filter.1 on_line).1

/-- The lines of a source have no line feed, and without an escape in the content they have none either. -/
theorem calm_of_line {source : Source} (free : ∀ content ∈ source.content, escape ∉ content) {n : Int}
    (at_line : source.line n = .ok (some t)) : Calm t := by
  rcases bind_eq_ok_iff.1 at_line with ⟨k, -, found⟩
  rw [pure_eq_ok_iff, Option.bind_eq_some_iff] at found
  rcases found with ⟨lines, known, found⟩
  rcases Option.map_eq_some_iff.1 known with ⟨content, is_content, rfl⟩
  intro c in_line
  constructor
  · rintro rfl
    rcases exists_eq_terminated_append found with ⟨rest, split⟩
    apply free content is_content
    rw [split]
    exact List.mem_append_right _ (List.mem_append_left _ in_line)
  · rintro rfl
    exact newline_not_mem_of_mem_lines (List.mem_of_getElem? found) in_line

/-- In the block of a calm source every row is sealed. -/
theorem sealedRow_contextRows? {source : Source} (free : ∀ content ∈ source.content, escape ∉ content)
    {attached : List Label} (messages : ∀ label ∈ attached, ∀ message ∈ label.message, Calm message)
    {placed : List PlacedLabel} (outcome : (placeLabels (some source) attached).outcome = .ok placed)
    {contextLines : Nat} {rows : List Text}
    (block : contextRows? .colored (some source) contextLines width placed = .ok (some rows)) :
    ∀ row ∈ rows, SealedRow row := by
  rcases placeLabels_eq_ok_iff.1 outcome with ⟨labels, at_labels, rfl⟩
  rw [contextRows?_eq, Except.ok.injEq, Option.map_eq_some_iff] at block
  rcases block with ⟨groups, grouped, rfl⟩
  have drawn_messages : ∀ l ∈ labels, ∀ message ∈ l.label.message, Calm message := by
    intro l mem
    rcases exists_left_of_mem at_labels mem with ⟨label, in_attached, at_label⟩
    rw [at_label.1]
    exact messages label in_attached
  intro row mem
  simp only [drawGroups, List.cons_append, List.mem_cons, List.mem_append, List.mem_flatMap, List.not_mem_nil,
    or_false] at mem
  rcases mem with rfl | ⟨group, in_groups, of_group⟩ | rfl | rfl
  · exact sealedRow_separatorRow width
  · have in_block : group ∈ (sourceGroups source contextLines labels).getD [] := by
      rw [grouped]
      exact in_groups
    rcases line_of_mem_sourceGroups in_block with ⟨at_line, on_line⟩
    refine sealedRow_lineRows width group.number (calm_of_line free at_line) (fun l mem => ?_) row of_group
    rw [on_line] at mem
    exact drawn_messages l (List.mem_filter.1 mem).1
  · exact sealedRow_separatorRow width
  · exact sealedRow_closingRow width

theorem calm_locationText {name : Option Text} (calm : ∀ t ∈ name, Calm t) (line column : Int) :
    Calm (locationText name line column) := by
  have place : Calm (Text.of ":" ++ Text.ofInt column) := Calm.append (by decide) (calm_ofInt column)
  cases name with
  | none => exact (Calm.append (by decide) (calm_ofInt line)).append place
  | some name => exact ((Calm.append (calm name rfl) (by decide)).append (calm_ofInt line)).append place

theorem sealedRow_bannerRow? {source : Option Source} (calm : ∀ s ∈ source, Calm s.name)
    {placed : List PlacedLabel} {row : Text} (banner : bannerRow? .colored source width placed = some row) :
    SealedRow row := by
  rcases placed with - | ⟨first, others⟩
  · cases banner
  · cases banner
    refine sealedRow_bannerRow width (calm_locationText (fun name named => ?_) _ _)
    rcases Option.map_eq_some_iff.1 named with ⟨s, found, rfl⟩
    exact calm s found

end Render

/-!
### The lines of a rendering
-/

namespace Text

variable {x y t : Text}

/-- A text of which every line is sealed. -/
def SealedLines (t : Text) : Prop := ∀ line ∈ t.lines, Sealed line

theorem SealedRow.lines (row : SealedRow t) : SealedLines t := by
  intro line mem
  rw [lines_of_newline_not_mem row.single, List.mem_singleton] at mem
  rw [mem]
  exact row.sealed

theorem sealedLines_nil : SealedLines [] := Calm.row (List.forall_mem_nil _) |>.lines

theorem SealedLines.below (above : SealedLines x) (below : SealedLines y) : SealedLines (x ++ [newline] ++ y) := by
  intro line mem
  rw [List.append_assoc, List.singleton_append, lines_append_newline, List.mem_append] at mem
  rcases mem with mem | mem
  · exact above line mem
  · exact below line mem

theorem SealedLines.apart (above : SealedLines x) (below : SealedLines y) : SealedLines (x ++ blankLine ++ y) := by
  have gap : blankLine ++ y = [newline] ++ [] ++ ([newline] ++ y) := rfl
  simpa [gap] using above.below (sealedLines_nil.below below)

theorem sealedLines_stack {rows : List Text} (all : ∀ row ∈ rows, SealedLines row) : SealedLines (stack rows) :=
  intercalate_of_joins sealedLines_nil (fun _ _ above below => above.below below) all

end Text

namespace Diagnostic

open Text

/-- Nothing that is shown of a diagnostic against a source has an escape, and but for the content of the source
    nothing has a line feed. -/
structure Calm (d : Diagnostic) (source : Option Source) : Prop where
  message : d.message.Calm
  code : ∀ code ∈ d.code, code.Calm
  labels : ∀ label ∈ d.labels, ∀ message ∈ label.message, message.Calm
  notes : ∀ note ∈ d.notes, note.Calm
  help : ∀ advice ∈ d.help, advice.Calm
  name : ∀ s ∈ source, s.name.Calm
  content : ∀ s ∈ source, ∀ content ∈ s.content, escape ∉ content

variable {sources : Lookup} {options : Option RenderOptions} {colors : Option Bool} {contextLines : Option Int}

theorem sealedLines_trailer? {width : Nat} {color kind : Text} {items : List Text} (starts : IsStyle color)
    (calm_kind : kind.Calm) (calm : ∀ item ∈ items, item.Calm) {rows : Text}
    (trailer : trailer? .colored width color kind items = some rows) : SealedLines rows := by
  rcases items with - | ⟨first, rest⟩
  · cases trailer
  · obtain rfl := Option.some.inj trailer
    refine sealedLines_stack fun row mem => ?_
    rcases List.mem_map.1 mem with ⟨item, in_items, rfl⟩
    exact (sealedRow_trailerRow width starts calm_kind (calm item in_items)).lines

/-- The parts of a coloured diagnostic are all made of sealed rows. -/
theorem sealedLines_of_sections {d : Diagnostic} {lines : Nat} {sections : Sections}
    (calm : d.Calm (sources.find d.source).value)
    (drawn : (d.sections sources ⟨true, lines⟩).outcome = .ok sections) : SealedLines sections.text := by
  rcases sections_eq_ok_iff.1 drawn with ⟨placed, width, severity, context, outcome, -, -, -, block, rfl⟩
  have styles := Palette.ofStyles_colored
  refine sealedLines_stack fun part mem => ?_
  simp only [List.mem_filterMap, List.mem_cons, List.not_mem_nil, or_false, id_eq] at mem
  rcases mem with ⟨_, rfl | rfl | rfl | rfl | rfl, shown⟩
  · obtain rfl := Option.some.inj shown
    exact (sealedRow_headerRow severity calm.code calm.message).lines
  · exact (sealedRow_bannerRow? width calm.name shown).lines
  · rcases Option.map_eq_some_iff.1 shown with ⟨rows, rfl, rfl⟩
    cases found : (sources.find d.source).value with
    | none =>
        rw [found] at block
        cases block
    | some source =>
        rw [found] at block outcome
        refine sealedLines_stack fun row mem => ?_
        exact (sealedRow_contextRows? width (calm.content source found) calm.labels outcome block row mem).lines
  · exact sealedLines_trailer? styles.note (by decide) calm.notes shown
  · exact sealedLines_trailer? styles.help (by decide) calm.help shown

/-- No style outlasts its row. Let a rendering be coloured and nothing that is shown have an escape or a line feed of
    its own, apart from the line feeds between the lines of a source. In every line of a drawn diagnostic, and of
    diagnostics drawn together with their summary, each escape starts a whole rendition, and the last rendition is
    the reset. There is something to reset: a drawn diagnostic starts with the colour of its severity. -/
theorem styles_end_with_row (sources : Lookup) (options : Option RenderOptions) (colors : Option Bool)
    (contextLines : Option Int) (colored : colors.getD (options.getD {}).colors = true) :
    (∀ d : Diagnostic, d.Calm (sources.find d.source).value →
      ∀ text, (d.render sources options colors contextLines).outcome = .ok text →
        (∃ severity, d.severity.toSeverity = .ok severity ∧ Palette.colored.severity severity <+: text) ∧
        ∀ line ∈ text.lines, Sealed line) ∧
    ∀ ds : List Diagnostic, (∀ d ∈ ds, d.Calm (sources.find d.source).value) →
      ∀ text, (renderAll ds sources options colors contextLines).outcome = .ok text →
        ∀ line ∈ text.lines, Sealed line := by
  have single : ∀ d : Diagnostic, d.Calm (sources.find d.source).value →
      ∀ text, (d.render sources options colors contextLines).outcome = .ok text → text.SealedLines := by
    intro d calm text drawn
    rcases render_eq_ok_iff.1 drawn with ⟨-, sections, parts, rfl⟩
    rw [colored] at parts
    exact sealedLines_of_sections calm parts
  refine ⟨fun d calm text drawn => ⟨?_, single d calm text drawn⟩, fun ds calm text drawn => ?_⟩
  · rcases render_eq_ok_iff.1 drawn with ⟨-, sections, parts, rfl⟩
    rw [colored] at parts
    rcases sections_eq_ok_iff.1 parts with ⟨_, _, severity, _, -, -, known, -, -, same⟩
    have header : headerRow .colored severity d.code d.message = sections.header := by rw [same]; rfl
    have title := severity_isPrefix_headerRow .colored severity d.code d.message
    rw [header] at title
    exact ⟨severity, known, ((List.prefix_append _ _).trans title).trans sections.header_isPrefix_text⟩
  · rcases ds with - | ⟨first, rest⟩
    · cases drawn
      exact sealedLines_nil
    rcases (renderAll_eq_ok_iff (List.cons_ne_nil first rest)).1 drawn with ⟨texts, severities, each, -, rfl⟩
    have body : SealedLines (blankLine.intercalate texts) := by
      refine intercalate_of_joins sealedLines_nil (fun _ _ above below => above.apart below) fun text mem => ?_
      rcases exists_left_of_mem each mem with ⟨d, in_ds, shown⟩
      exact single d (calm d in_ds) text shown
    rw [colored]
    show SealedLines _
    cases summary : summaryRow (.ofColors true) severities with
    | none => exact body
    | some row => exact body.apart (sealedRow_summaryRow summary).lines

/-- A source of one long line. -/
def longSample : Source := .ofText ['s'] (List.replicate 100 (CodePoint.ofChar 'a'))

/-- A diagnostic whose message has adjacent code spans and a backtick that opens none, with a note and a label. -/
def backtickSample : Diagnostic where
  message := Text.of "`a``b`c`"
  severity := .given (.text "warning")
  code := none
  source := some ['s']
  labels := [.primary (.span (.position (.point Cell.first))) (some ['x']) none]
  help := []
  notes := [Text.of "``d`"]

theorem succeeds_render_backtickSample :
    Succeeds (backtickSample.render (.single longSample) (some ⟨true, 0⟩) none none).outcome := by
  have limits : WithinLimits ((Lookup.single longSample).find backtickSample.source).value
      (RenderOptions.contextInForce (some ⟨true, 0⟩) none) backtickSample.labels := by
    have one : Numeral.Writable 1 := by decide
    intro label mem p placed
    obtain rfl := List.mem_singleton.1 mem
    obtain rfl := Place.cells.inj (PlacedLabel.mk.inj (Except.ok.inj placed)).2
    exact ⟨one, one, fun _ _ _ => show 0 + markedWidth _ ≤ memoryLimit by decide⟩
  refine (render_succeeds_iff_of_withinLimits limits).2 ⟨by simp, fun label mem => ?_, ?_⟩
  · obtain rfl := List.mem_singleton.1 mem
    exact ⟨_, rfl⟩
  · exact ⟨.warning, rfl⟩

theorem styles_end_with_row_cut_line : ∃ text,
    (backtickSample.render (.single longSample) (some ⟨true, 0⟩) none none).outcome = .ok text ∧
      Palette.colored.warning <+: text ∧ ∀ line ∈ text.lines, Sealed line := by
  have calm : backtickSample.Calm ((Lookup.single longSample).find backtickSample.source).value := by
    refine ⟨by decide, by simp [backtickSample], ?_, by decide, by decide, ?_, ?_⟩
    · intro label mem message told
      obtain rfl := List.mem_singleton.1 mem
      obtain rfl := Option.some.inj told
      decide
    · intro s found
      obtain rfl := Option.some.inj found
      decide
    · intro s found content known
      obtain rfl := Option.some.inj found
      obtain rfl := Option.some.inj known
      exact (calm_replicate 100 (by decide)).escape_not_mem
  rcases succeeds_render_backtickSample with ⟨text, drawn⟩
  rcases (styles_end_with_row (.single longSample) (some ⟨true, 0⟩) none none rfl).1 backtickSample calm text drawn
    with ⟨⟨severity, named, starts⟩, lines⟩
  obtain rfl : Severity.warning = severity := Except.ok.inj named
  exact ⟨text, drawn, starts, lines⟩

end Diagnostic

end Marginalia
