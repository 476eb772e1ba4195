/-
Module: Marginalia.Proofs.Render.Location
Purpose: The place that a diagnostic is shown at. The banner of a drawn diagnostic shows the cell at which the
  first label starts once its span is resolved, the one-line form shows what the span says by itself. Both name
  the source in the same way, and the places are the same or differ only by what was looked up: the first match
  of a search in place of the cell where the search began, the cell of an offset in place of the offset.
Main exports: Render.bracketed, Render.bracketed_bannerRow, start_of_placeLabel, Render.PlacesAgree,
  Diagnostic.compact_eq_append_place, Diagnostic.banner_agrees_with_compact
-/

import Marginalia.Compact
import Marginalia.Proofs.Render.Degradation
import Marginalia.Proofs.Span.Searching

namespace Marginalia

open Render

namespace Render

/-!
### The place in a banner
-/

/-- What a row shows between its first opening and its last closing bracket. -/
def bracketed (row : Text) : Text :=
  let inside := (row.dropWhile fun c => c ≠ CodePoint.ofChar '[').drop 1
  ((inside.reverse.dropWhile fun c => c ≠ CodePoint.ofChar ']').drop 1).reverse

theorem bracketed_append {front : Text} (free : CodePoint.ofChar '[' ∉ front) (t : Text) :
    bracketed (front ++ CodePoint.ofChar '[' :: (t ++ [CodePoint.ofChar ']'])) = t := by
  have behind : (front ++ CodePoint.ofChar '[' :: (t ++ [CodePoint.ofChar ']'])).dropWhile
      (fun c => c ≠ CodePoint.ofChar '[') = CodePoint.ofChar '[' :: (t ++ [CodePoint.ofChar ']']) := by
    rw [List.dropWhile_append_of_pos, List.dropWhile_cons_of_neg (by simp)]
    intro c mem
    rw [decide_eq_true_eq]
    rintro rfl
    exact free mem
  simp only [bracketed, behind]
  simp

/-- The brackets of a banner hold the place and nothing else, whatever brackets the place has itself. -/
theorem bracketed_bannerRow (width : Nat) (location : Text) :
    bracketed (bannerRow .plain width location) = location := by
  have row : bannerRow .plain width location =
      (Text.blanks width ++ [CodePoint.blank, topLeft, horizontal]) ++
        CodePoint.ofChar '[' :: (location ++ [CodePoint.ofChar ']']) := by
    have dim : Palette.plain.dim = [] := rfl
    simp [bannerRow, dim]
  rw [row]
  apply bracketed_append
  rw [Text.blanks, List.mem_append]
  rintro (mem | mem)
  · exact absurd (List.eq_of_mem_replicate mem) (by decide)
  · exact absurd mem (by decide)

/-!
### The first label
-/

variable {source : Option Source} {label : Label} {span : Span}

/-- A placed label starts where its span resolves to; octets without a source are shown at the first cell, where
    they resolve to. -/
theorem start_of_placeLabel (is_span : label.toSpan = .ok span) {placed : PlacedLabel}
    (at_label : (placeLabel source label).outcome = .ok placed) :
    ∃ position, (span.resolve source).outcome = .ok position ∧
      (placed.place.position?.map (·.start)).getD Cell.first = position.start := by
  rcases span.succeeds_resolve source with ⟨position, resolved⟩
  refine ⟨position, resolved, ?_⟩
  cases source with
  | some source =>
      rcases placeLabel_eq_ok_iff.1 at_label with ⟨drawn, ⟨-, same, also_span, also_resolved⟩, rfl⟩
      obtain rfl : span = same := Except.ok.inj (is_span.symm.trans also_span)
      rw [Except.ok.inj (resolved.symm.trans also_resolved)]
      rfl
  | none =>
      simp only [placeLabel, Checked.outcome_bind, Checked.outcome_ofExcept, is_span] at at_label
      cases span with
      | position p =>
          cases at_label
          cases resolved
          rfl
      | octets r =>
          cases at_label
          cases resolved
          rfl
      | search s =>
          cases at_label
          cases resolved
          rfl

/-- The first of some placed labels is the place of the first label. -/
theorem exists_cons_of_placeLabels {rest : List Label} {placed : List PlacedLabel}
    (outcome : (placeLabels source (label :: rest)).outcome = .ok placed) :
    ∃ first others, placed = first :: others ∧ (placeLabel source label).outcome = .ok first := by
  simp only [placeLabels, Checked.outcome_bind, Checked.outcome_pure, bind_eq_ok_iff, Except.ok.injEq] at outcome
  rcases outcome with ⟨first, at_label, others, -, rfl⟩
  exact ⟨first, others, rfl, at_label⟩

/-!
### Places in agreement
-/

/-- The place of octets in a one-line form, behind the name of the source if there is one to show. -/
def octetsText (name : Option Text) (r : OctetRange) : Text :=
  let front : Text := if name.getD [] = [] then [] else name.getD [] ++ Text.of ":"
  front ++ (Text.of "byte " ++ Text.ofNat r.start)

/-- How the place that a banner shows goes with the one of the one-line form, for a first label on a span. Both
    show the start of a position, and of a search without a match the place where it began. Of a search with a
    match the banner shows the first one, which lies in its window. Of octets the one-line form shows the offset
    and the banner its cell, or the first cell if the offset is not one of the content. -/
inductive PlacesAgree (name : Option Text) (source : Option Source) : Span → Text → Text → Prop where
  | position (p : Position) :
      PlacesAgree name source (.position p) (locationText name p.start.line p.start.column)
        (locationText name p.start.line p.start.column)
  | searchMissed (s : Search) (no_match : ∀ known ∈ source, ∀ cell, ¬ s.MatchesAt known cell) :
      PlacesAgree name source (.search s) (locationText name s.line s.afterColumn)
        (locationText name s.line s.afterColumn)
  | searchFound (s : Search) (known : Source) (is_known : source = some known) (cell : Cell)
      (least : IsLeast {cell | s.MatchesAt known cell} cell) (first : s.line ≤ cell.line)
      (last : cell.line < s.line + s.maxLines) (column : cell.line = s.line → s.afterColumn ≤ cell.column) :
      PlacesAgree name source (.search s) (locationText name cell.line cell.column)
        (locationText name s.line s.afterColumn)
  | octetsInside (r : OctetRange) (known : Source) (is_known : source = some known) (cell : Cell)
      (at_offset : known.cellAt? r.start = some cell) :
      PlacesAgree name source (.octets r) (locationText name cell.line cell.column) (octetsText name r)
  | octetsOutside (r : OctetRange) (outside : ∀ known ∈ source, ∀ length, known.octetLength = some length →
      length < r.start) :
      PlacesAgree name source (.octets r) (locationText name 1 1) (octetsText name r)

/-- An offset without a cell is not one of the content. -/
theorem length_lt_of_cellAt?_eq_none {known : Source} {offset length : Nat} (no_cell : known.cellAt? offset = none)
    (of_content : known.octetLength = some length) : length < offset := by
  rcases Option.map_eq_some_iff.1 of_content with ⟨octets, encoded, rfl⟩
  rw [Source.cellAt?, encoded] at no_cell
  by_contra inside
  simp only at no_cell
  rw [if_neg (by omega)] at no_cell
  cases no_cell

/-- Where a span resolves to and what it says by itself are places in agreement. -/
theorem placesAgree_compactPlace (name : Option Text) {position : Position}
    (resolved : (span.resolve source).outcome = .ok position) :
    PlacesAgree name source span (locationText name position.start.line position.start.column)
      (Diagnostic.compactPlace name span) := by
  cases span with
  | position p =>
      obtain rfl : p = position := Except.ok.inj resolved
      exact .position p
  | search s =>
      have missed : (∀ known ∈ source, ∀ cell, ¬ s.MatchesAt known cell) →
          (s.resolve source).outcome = .ok s.fallback → PlacesAgree name source (.search s)
            (locationText name position.start.line position.start.column)
            (Diagnostic.compactPlace name (.search s)) := by
        intro no_match fell_back
        obtain rfl : s.fallback = position := Except.ok.inj (fell_back.symm.trans resolved)
        exact .searchMissed s no_match
      cases source with
      | none => exact missed (fun known is_known => by cases is_known) rfl
      | some known =>
          rcases s.outcome_resolve known with ⟨cell, least, found⟩ | ⟨no_match, fell_back⟩
          · obtain rfl : s.foundAt cell = position := Except.ok.inj (found.symm.trans resolved)
            have some_lines := s.maxLines_pos
            have last := least.1.last
            rw [Search.lastLine] at last
            exact .searchFound s known rfl cell least least.1.first (by omega) least.1.column
          · refine missed ?_ fell_back
            intro also_known is_known
            cases is_known
            exact no_match
  | octets r =>
      have place : Diagnostic.compactPlace name (.octets r) = octetsText name r := by
        rcases name with - | (- | ⟨c, rest⟩)
        · rfl
        · rfl
        · simp [Diagnostic.compactPlace, octetsText]
      rw [place]
      obtain rfl : (r.resolve source).value = position := Except.ok.inj resolved
      cases source with
      | none => exact .octetsOutside r fun known is_known => by cases is_known
      | some known =>
          rw [OctetRange.resolve]
          cases at_offset : known.cellAt? r.start with
          | none =>
              refine .octetsOutside r ?_
              intro also_known is_known length of_content
              cases is_known
              exact length_lt_of_cellAt?_eq_none at_offset of_content
          | some start =>
              simp only
              cases known.cellAt? r.stop with
              | none => exact .octetsInside r known rfl start at_offset
              | some stop => exact .octetsInside r known rfl start at_offset

end Render

namespace Diagnostic

variable {d : Diagnostic} {sources : Lookup} {options : Option RenderOptions} {colors : Option Bool}
  {contextLines : Option Int} {label : Label} {rest : List Label} {span : Span}

/-- The one-line form ends in the place of the first label, behind what is shown of a diagnostic without
    labels. -/
theorem compact_eq_append_place (attached : d.labels = label :: rest) (is_span : label.toSpan = .ok span) :
    ∃ front, ({ d with labels := [] } : Diagnostic).compact = .ok front ∧
      d.compact = .ok (front ++ Text.of " (" ++ compactPlace d.source span ++ Text.of ")") := by
  refine ⟨_, rfl, ?_⟩
  simp only [compact, attached, is_span]
  rfl

/-- Both forms of a diagnostic point at the same place. Let its first label stand for a span, and its source be
    none or lead to a source of that name. The one-line form can always be had, and ends in a place in
    parentheses. If the diagnostic is drawn without colours, the banner shows one in brackets, and the two places
    are in agreement. -/
theorem banner_agrees_with_compact (d : Diagnostic) (sources : Lookup) (options : Option RenderOptions)
    (colors : Option Bool) (contextLines : Option Int) (attached : d.labels = label :: rest)
    (is_span : label.toSpan = .ok span)
    (named : ∀ id, d.source = some id → ∃ source, (sources.find d.source).value = some source ∧ source.name = id)
    (colorless : colors.getD (options.getD {}).colors = false) :
    ∃ front place, ({ d with labels := [] } : Diagnostic).compact = .ok front ∧
      d.compact = .ok (front ++ Text.of " (" ++ place ++ Text.of ")") ∧
      ∀ text, (d.render sources options colors contextLines).outcome = .ok text →
        ∃ sections banner,
          (d.sections sources ⟨false, RenderOptions.contextInForce options contextLines⟩).outcome = .ok sections ∧
          text = sections.text ∧ sections.banner = some banner ∧
          PlacesAgree d.source (sources.find d.source).value span (bracketed banner) place := by
  rcases compact_eq_append_place attached is_span with ⟨front, without_labels, one_line⟩
  refine ⟨front, _, without_labels, one_line, fun text drawn => ?_⟩
  have same_name : (sources.find d.source).value.map (·.name) = d.source := by
    cases source_id : d.source with
    | none => rfl
    | some id =>
        rcases named id source_id with ⟨source, found, rfl⟩
        rw [← source_id, found, source_id, Option.map_some]
  rcases render_eq_ok_iff.1 drawn with ⟨-, sections, parts, rfl⟩
  rw [colorless] at parts
  rcases sections_eq_ok_iff.1 parts with ⟨placed, width, severity, context, outcome, -, -, -, -, made⟩
  rw [attached] at outcome
  rcases exists_cons_of_placeLabels outcome with ⟨first, others, rfl, at_label⟩
  rcases start_of_placeLabel is_span at_label with ⟨position, resolved, start⟩
  refine ⟨sections, _, parts, rfl, by rw [made]; rfl, ?_⟩
  rw [Palette.ofColors, if_neg Bool.false_ne_true, bracketed_bannerRow, start, same_name]
  exact placesAgree_compactPlace d.source resolved

/-- A diagnostic on the second octet of a second line. -/
def octetSample : Diagnostic where
  message := ['m']
  severity := .known .error
  code := none
  source := some ['s']
  labels := [.primary (.tuple [.int 3, .int 1]) none none]
  help := []
  notes := []

/-- A source of two lines. -/
def octetSource : Source := .ofText ['s'] ['a', '\n', 'x', 'b']

/-- The one-line form says the offset, the banner the cell that stands there. -/
theorem banner_agrees_with_compact_octet :
    octetSample.compact = .ok (Text.of "m (s:byte 3)") ∧
      ∃ sections banner,
        (octetSample.sections (.single octetSource) ⟨false, 0⟩).outcome = .ok sections ∧
        sections.banner = some banner ∧ bracketed banner = Text.of "s:2:2" := by
  have one_line : octetSample.compact = .ok (Text.of "m (s:byte 3)") := by rfl
  have at_cell : octetSource.cellAt? 3 = some ⟨2, 2, by decide, by decide⟩ := by decide
  have limits : WithinLimits ((Lookup.single octetSource).find octetSample.source).value
      (RenderOptions.contextInForce none (some 0)) octetSample.labels := by
    intro label mem p placed
    obtain rfl := List.mem_singleton.1 mem
    obtain rfl := Place.cells.inj (PlacedLabel.mk.inj (Except.ok.inj placed)).2
    refine ⟨?_, ?_, ?_⟩
    · show Numeral.Writable 2
      decide
    · show Numeral.Writable 2
      decide
    · intro _ _ _
      show 2 - 1 + markedWidth _ ≤ memoryLimit
      decide
  have spans : ∀ label ∈ octetSample.labels, Succeeds label.toSpan := by
    intro label mem
    obtain rfl := List.mem_singleton.1 mem
    exact ⟨_, rfl⟩
  have drawn : Succeeds (octetSample.render (.single octetSource) none (some false) (some 0)).outcome :=
    (render_succeeds_iff_of_withinLimits limits).2 ⟨by simp, spans, trivial⟩
  have named : ∀ id, octetSample.source = some id →
      ∃ source, ((Lookup.single octetSource).find octetSample.source).value = some source ∧ source.name = id := by
    intro id given
    cases given
    exact ⟨octetSource, rfl, rfl⟩
  rcases drawn with ⟨text, drawn⟩
  rcases octetSample.banner_agrees_with_compact (.single octetSource) none (some false) (some 0) rfl rfl named rfl with
    ⟨front, place, -, -, shown⟩
  rcases shown text drawn with ⟨sections, banner, parts, -, has_banner, agree⟩
  refine ⟨one_line, sections, banner, parts, has_banner, ?_⟩
  generalize bracketed banner = shown_place at agree
  cases agree with
  | octetsInside r known is_known cell at_offset =>
      cases is_known
      obtain rfl := Option.some.inj (at_cell.symm.trans at_offset)
      rfl
  | octetsOutside r outside => exact absurd (outside _ rfl 4 rfl) (by decide)

end Diagnostic

end Marginalia
