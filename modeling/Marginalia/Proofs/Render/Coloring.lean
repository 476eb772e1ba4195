/-
Module: Marginalia.Proofs.Render.Coloring
Purpose: Colours change nothing but renditions. Whatever a message, a code, a name or a source line holds,
  halves of escape sequences included, no style that is put into a row can complete a rendition or cut one
  in two: behind every style and in front of every reset stands a glyph that breaks what was begun, or what
  stands there has no escape. So what is left of a row without its renditions does not depend on the palette,
  and from the rows this passes to blocks, to single diagnostics and to diagnostics drawn together.
Main exports: Palette.OfStyles, Palette.OfStyles.withoutRenditions_emphasizeFrom, Render.exists_contextRows?,
  Diagnostic.Sections.withoutRenditions, Diagnostic.sections_agree, Diagnostic.render_agree,
  Diagnostic.renderAll_agree, Diagnostic.colored_agrees_with_plain
-/

import Marginalia.Proofs.Render.Layout
import Marginalia.Proofs.Text.Renditions

namespace Marginalia

open Render Text

/-- A palette that writes nothing but renditions. -/
structure Palette.OfStyles (p : Palette) : Prop where
  error : IsStyle p.error
  warning : IsStyle p.warning
  info : IsStyle p.info
  hint : IsStyle p.hint
  note : IsStyle p.note
  help : IsStyle p.help
  bold : IsStyle p.bold
  dim : IsStyle p.dim
  reset : IsStyle p.reset

theorem Palette.ofStyles_ofColors (colors : Bool) : (Palette.ofColors colors).OfStyles := by
  cases colors with
  | false => constructor <;> exact isStyle_nil
  | true => constructor <;> exact isStyle_rendition _

namespace Palette.OfStyles

variable {p : Palette} {style t y : Text}

theorem severity (styles : p.OfStyles) (s : Severity) : IsStyle (p.severity s) := by
  cases s with
  | error => exact styles.error
  | warning => exact styles.warning
  | info => exact styles.info
  | hint => exact styles.hint

theorem priority (styles : p.OfStyles) (priority : Priority) : IsStyle (p.priority priority) := by
  cases priority with
  | primary => exact styles.error
  | secondary => exact styles.warning

/-- Text without an escape stands between its style and the reset as it is. -/
theorem withoutRenditions_styled_append_of_free (styles : p.OfStyles) (starts : IsStyle style)
    (free : Console.escape ∉ t) :
    withoutRenditions (p.styled style t ++ y) = t ++ withoutRenditions y := by
  rw [styled, List.append_assoc, List.append_assoc, starts.withoutRenditions_append,
    withoutRenditions_free_append free, styles.reset.withoutRenditions_append]

/-- The text between a style and the reset is kept apart from a text that breaks. -/
theorem withoutRenditions_styled_append (styles : p.OfStyles) (starts : IsStyle style) (breaks : Breaks y) :
    withoutRenditions (p.styled style t ++ y) = withoutRenditions t ++ withoutRenditions y := by
  rw [styled, List.append_assoc, List.append_assoc, starts.withoutRenditions_append,
    Text.withoutRenditions_append (styles.reset.breaks_append breaks), styles.reset.withoutRenditions_append]

theorem withoutRenditions_styled (styles : p.OfStyles) (starts : IsStyle style) (t : Text) :
    withoutRenditions (p.styled style t) = withoutRenditions t := by
  have alone : withoutRenditions (p.styled style t ++ []) = withoutRenditions t ++ withoutRenditions [] :=
    styles.withoutRenditions_styled_append starts breaks_nil
  simpa [withoutRenditions] using alone

end Palette.OfStyles

/-!
### Emphasis
-/

/-- What a text holds from a possible opening backtick on. -/
def Palette.openRun : Option Text → Text
  | none => []
  | some run => CodePoint.backtick :: run.reverse

theorem solid_newline : Solid [CodePoint.newline] where
  ne_nil := List.cons_ne_nil _ _
  breaks := breaks_cons_iff.2 (by decide)
  free := by decide

theorem solid_backtick : Solid [CodePoint.backtick] where
  ne_nil := List.cons_ne_nil _ _
  breaks := breaks_cons_iff.2 (by decide)
  free := by decide

/-- Setting a code span in bold inserts renditions, also behind a text that ends within one. -/
theorem Palette.OfStyles.withoutRenditions_codeSpan {p : Palette} (styles : p.OfStyles)
    (front run rest : Text) :
    withoutRenditions (front ++ (CodePoint.backtick :: p.styled p.bold run ++ CodePoint.backtick :: rest)) =
      withoutRenditions (front ++ (CodePoint.backtick :: run ++ CodePoint.backtick :: rest)) := by
  have breaks : Breaks (CodePoint.backtick :: rest) := solid_backtick.breaks_append rest
  have bold := solid_backtick.withoutRenditions_append (x := front)
    (y := p.styled p.bold run ++ CodePoint.backtick :: rest)
  have bare := solid_backtick.withoutRenditions_append (x := front) (y := run ++ CodePoint.backtick :: rest)
  rw [styles.withoutRenditions_styled_append styles.bold breaks] at bold
  rw [Text.withoutRenditions_append breaks] at bare
  exact bold.trans bare.symm

/-- Emphasis only inserts renditions: behind every text, and from every place in a code span on. -/
theorem Palette.OfStyles.withoutRenditions_emphasizeFrom {p : Palette} (styles : p.OfStyles) (t front : Text)
    (run : Option Text) :
    withoutRenditions (front ++ p.emphasizeFrom run t) =
      withoutRenditions (front ++ (Palette.openRun run ++ t)) := by
  -- What is copied moves into the front, so that an escape there meets the same text on both sides.
  induction t generalizing run front with
  | nil => cases run <;> simp [emphasizeFrom, openRun]
  | cons c rest ih =>
      by_cases mark : c = CodePoint.backtick
      · subst mark
        rcases run with - | (- | ⟨d, run⟩)
        · have later := ih front (some [])
          simpa [emphasizeFrom, openRun] using later
        · have later := ih (front ++ [CodePoint.backtick]) (some [])
          simpa [emphasizeFrom, openRun] using later
        · have later := ih (front ++ CodePoint.backtick :: (d :: run).reverse ++ [CodePoint.backtick]) none
          have closes : p.emphasizeFrom (some (d :: run)) (CodePoint.backtick :: rest) =
              CodePoint.backtick :: p.styled p.bold (d :: run).reverse ++
                CodePoint.backtick :: p.emphasizeFrom none rest := by
            simp [emphasizeFrom]
          rw [closes, styles.withoutRenditions_codeSpan]
          simpa [openRun] using later
      · rcases run with - | run
        · have later := ih (front ++ [c]) none
          simpa [emphasizeFrom, mark, openRun] using later
        · have later := ih front (some (c :: run))
          simpa [emphasizeFrom, mark, openRun] using later

theorem Palette.OfStyles.withoutRenditions_emphasize {p : Palette} (styles : p.OfStyles) (t : Text) :
    withoutRenditions (p.emphasize t) = withoutRenditions t := by
  rw [emphasize]
  split
  · rfl
  · exact styles.withoutRenditions_emphasizeFrom t [] none

/-!
### Rows

What is left of a row, told without its palette.
-/

namespace Render

theorem escape_not_mem_blanks (n : Nat) : Console.escape ∉ Text.blanks n := by
  intro mem
  exact absurd (List.eq_of_mem_replicate mem) (by decide)

theorem escape_not_mem_blank : Console.escape ∉ [CodePoint.blank] := escape_not_mem_blanks 1

theorem escape_not_mem_ofNat (n : Nat) : Console.escape ∉ Text.ofNat n := by
  intro mem
  have digit := isParameter_of_mem_ofNat mem
  exact absurd digit (by decide)

theorem escape_not_mem_padLeft (width n : Nat) : Console.escape ∉ Text.padLeft width (Text.ofNat n) := by
  rw [Text.padLeft, List.mem_append, not_or]
  exact ⟨escape_not_mem_blanks _, escape_not_mem_ofNat n⟩

theorem escape_not_mem_underline (width : Nat) : Console.escape ∉ (underline width).1 := by
  have dash : Console.escape ≠ horizontal := by decide
  have middle : Console.escape ≠ tee := by decide
  rw [underline]
  split <;> simp [dash, middle]

variable {p : Palette} (styles : p.OfStyles) (width : Nat)

section
include styles

/-- In front of a framed row only the frame has a style. -/
theorem withoutRenditions_frame_append {glyphs : Text} (free : Console.escape ∉ glyphs) (y : Text) :
    withoutRenditions (Text.blanks width ++ [CodePoint.blank] ++ p.styled p.dim glyphs ++ y) =
      Text.blanks width ++ [CodePoint.blank] ++ glyphs ++ withoutRenditions y := by
  simp only [List.append_assoc]
  rw [withoutRenditions_free_append (escape_not_mem_blanks width), withoutRenditions_free_append escape_not_mem_blank,
    styles.withoutRenditions_styled_append_of_free styles.dim free]

theorem withoutRenditions_frame {glyphs : Text} (free : Console.escape ∉ glyphs) :
    withoutRenditions (Text.blanks width ++ [CodePoint.blank] ++ p.styled p.dim glyphs) =
      Text.blanks width ++ [CodePoint.blank] ++ glyphs := by
  simpa [withoutRenditions] using withoutRenditions_frame_append styles width free []

theorem withoutRenditions_heading (severity : Severity) (title message : Text) :
    withoutRenditions (p.severity severity ++ p.styled p.bold title ++ Text.of ": " ++ p.emphasize message) =
      withoutRenditions title ++ Text.of ": " ++ withoutRenditions message := by
  have solid : Solid (Text.of ": ") := ⟨by decide, breaks_cons_iff.2 (by decide), by decide⟩
  simp only [List.append_assoc]
  rw [(styles.severity severity).withoutRenditions_append,
    styles.withoutRenditions_styled_append styles.bold (solid.breaks_append _),
    withoutRenditions_free_append solid.free, styles.withoutRenditions_emphasize]

theorem withoutRenditions_bannerRow (location : Text) :
    withoutRenditions (bannerRow p width location) =
      Text.blanks width ++ [CodePoint.blank] ++ [topLeft, horizontal, '['] ++
        (withoutRenditions location ++ [CodePoint.ofChar ']']) := by
  have opening : Console.escape ∉ [topLeft, horizontal, CodePoint.ofChar '['] := by decide
  have solid : Solid [CodePoint.ofChar ']'] := ⟨by decide, breaks_cons_iff.2 (by decide), by decide⟩
  rw [bannerRow, List.append_assoc, withoutRenditions_frame_append styles width opening,
    Text.withoutRenditions_append (styles.dim.breaks_styled p solid),
    styles.withoutRenditions_styled styles.dim, withoutRenditions_of_free solid.free]

theorem withoutRenditions_separatorRow :
    withoutRenditions (separatorRow p width) = Text.blanks width ++ [CodePoint.blank] ++ [vertical] :=
  withoutRenditions_frame styles width (by decide)

theorem withoutRenditions_closingRow :
    withoutRenditions (closingRow p width) =
      Text.blanks width ++ [CodePoint.blank] ++ bottomLeft :: List.replicate 5 horizontal :=
  withoutRenditions_frame styles width (by decide)

theorem withoutRenditions_contextRow (number : Nat) (text : Text) :
    withoutRenditions (contextRow p width number text) =
      Text.padLeft width (Text.ofNat number) ++ [CodePoint.blank, vertical] ++
        ([CodePoint.blank] ++ withoutRenditions (truncate text (takenWidth width))) := by
  have front : Console.escape ∉ Text.padLeft width (Text.ofNat number) ++ [CodePoint.blank, vertical] := by
    rw [List.mem_append, not_or]
    exact ⟨escape_not_mem_padLeft width number, by decide⟩
  rw [contextRow, List.append_assoc, styles.withoutRenditions_styled_append_of_free styles.dim front,
    withoutRenditions_free_append escape_not_mem_blank]

theorem withoutRenditions_labelledRow (number : Nat) (text : Text) :
    withoutRenditions (labelledRow p width number text) =
      Text.padLeft width (Text.ofNat number) ++ ([CodePoint.blank] ++ ([vertical] ++
        ([CodePoint.blank] ++ withoutRenditions (truncate text (takenWidth width))))) := by
  have frame : Console.escape ∉ [vertical] := by decide
  simp only [labelledRow, List.append_assoc]
  rw [styles.withoutRenditions_styled_append_of_free styles.dim (escape_not_mem_padLeft width number),
    withoutRenditions_free_append escape_not_mem_blank,
    styles.withoutRenditions_styled_append_of_free styles.dim frame,
    withoutRenditions_free_append escape_not_mem_blank]

theorem withoutRenditions_pointerGutter_append (y : Text) :
    withoutRenditions (pointerGutter p width ++ y) =
      Text.blanks width ++ [CodePoint.blank] ++ [dot] ++ ([CodePoint.blank] ++ withoutRenditions y) := by
  rw [pointerGutter, List.append_assoc, withoutRenditions_frame_append styles width (by decide),
    withoutRenditions_free_append escape_not_mem_blank]

theorem withoutRenditions_pointerRows (label : Label) (position : Position) :
    (pointerRows p width label position).map withoutRenditions =
      [Text.blanks width ++ [CodePoint.blank] ++ [dot] ++ ([CodePoint.blank] ++
          (Text.blanks (position.start.column - 1) ++ (underline (markedWidth position)).1)),
        Text.blanks width ++ [CodePoint.blank] ++ [dot] ++ ([CodePoint.blank] ++
          (Text.blanks (position.start.column - 1 + (underline (markedWidth position)).2) ++
            withoutRenditions ([bottomLeft, horizontal, horizontal, CodePoint.blank] ++
              label.message.getD [])))] := by
  have color := styles.priority label.priority
  simp only [pointerRows, List.map_cons, List.map_nil, List.append_assoc (pointerGutter p width)]
  rw [withoutRenditions_pointerGutter_append styles, withoutRenditions_pointerGutter_append styles,
    withoutRenditions_free_append (escape_not_mem_blanks _),
    withoutRenditions_free_append (escape_not_mem_blanks _), styles.withoutRenditions_styled color,
    styles.withoutRenditions_styled color, withoutRenditions_of_free (escape_not_mem_underline _)]

theorem withoutRenditions_trailerRow {color kind : Text} (starts : IsStyle color)
    (free : Console.escape ∉ kind) (item : Text) :
    withoutRenditions (trailerRow p width color kind item) =
      Text.blanks (width + 3) ++ (kind ++ (Text.of ": " ++ withoutRenditions item)) := by
  have mark : Console.escape ∉ Text.of ": " := by decide
  simp only [trailerRow, List.append_assoc]
  rw [withoutRenditions_free_append (escape_not_mem_blanks _),
    styles.withoutRenditions_styled_append_of_free starts free, withoutRenditions_free_append mark,
    styles.withoutRenditions_emphasize]

end

theorem severity_isPrefix_headerRow (p : Palette) (severity : Severity) (code : Option Text)
    (message : Text) :
    p.severity severity ++ (p.bold ++ severity.name) <+: headerRow p severity code message := by
  unfold headerRow
  simp only [Palette.styled, List.append_assoc]
  exact (List.prefix_append_right_inj _).2 ((List.prefix_append_right_inj _).2 (List.prefix_append _ _))

/-!
### Blocks of rows
-/

variable {q : Palette} (others : q.OfStyles)

section
include styles others

theorem map_withoutRenditions_lineRows (sorted : List PositionedLabel) (number : Nat) (text : Text) :
    (lineRows p width sorted number text).map withoutRenditions =
      (lineRows q width sorted number text).map withoutRenditions := by
  simp only [lineRows]
  cases sorted.filter fun l => l.line = number with
  | nil =>
      simp only [List.map_cons, List.map_nil, withoutRenditions_contextRow styles,
        withoutRenditions_contextRow others]
  | cons first rest =>
      simp only [List.map_cons, List.map_flatMap, withoutRenditions_labelledRow styles,
        withoutRenditions_labelledRow others, withoutRenditions_pointerRows styles,
        withoutRenditions_pointerRows others]

theorem map_withoutRenditions_drawGroups (groups : List LineGroup) :
    (drawGroups p width groups).map withoutRenditions = (drawGroups q width groups).map withoutRenditions := by
  simp only [drawGroups, List.map_append, List.map_cons, List.map_nil, List.map_flatMap,
    withoutRenditions_separatorRow styles, withoutRenditions_separatorRow others,
    withoutRenditions_closingRow styles, withoutRenditions_closingRow others,
    map_withoutRenditions_lineRows styles width others]

/-- The block of placed labels is drawn in each of two palettes, and is the same up to renditions. -/
theorem exists_contextRows? {source : Option Source} {labels : List Label} {placed : List PlacedLabel}
    (outcome : (placeLabels source labels).outcome = .ok placed) (contextLines : Nat) :
    ∃ context other, contextRows? p source contextLines width placed = .ok context ∧
      contextRows? q source contextLines width placed = .ok other ∧
      context.map (List.map withoutRenditions) = other.map (List.map withoutRenditions) := by
  cases source with
  | none => exact ⟨none, none, rfl, rfl, rfl⟩
  | some source =>
      rcases placeLabels_eq_ok_iff.1 outcome with ⟨drawn, -, rfl⟩
      refine ⟨_, _, contextRows?_eq .., contextRows?_eq .., ?_⟩
      simp only [Option.map_map, Function.comp_def, map_withoutRenditions_drawGroups styles width others]

theorem map_withoutRenditions_bannerRow? (source : Option Source) (placed : List PlacedLabel) :
    (bannerRow? p source width placed).map withoutRenditions =
      (bannerRow? q source width placed).map withoutRenditions := by
  cases placed with
  | nil => rfl
  | cons first rest =>
      simp only [bannerRow?, Option.map_some, withoutRenditions_bannerRow styles,
        withoutRenditions_bannerRow others]

theorem map_withoutRenditions_trailer? {color other kind : Text} (starts : IsStyle color)
    (also : IsStyle other) (free : Console.escape ∉ kind) (items : List Text) :
    (trailer? p width color kind items).map withoutRenditions =
      (trailer? q width other kind items).map withoutRenditions := by
  cases items with
  | nil => rfl
  | cons first rest =>
      have rows := fun item : Text => withoutRenditions_trailerRow styles width starts free item
      have same_rows := fun item : Text => withoutRenditions_trailerRow others width also free item
      simp only [trailer?, Option.map_some, solid_newline.withoutRenditions_intercalate, List.map_map,
        Function.comp_def, rows, same_rows]

theorem map_withoutRenditions_summaryRow (severities : List Severity) :
    (summaryRow p severities).map withoutRenditions = (summaryRow q severities).map withoutRenditions := by
  simp only [summaryRow, apply_ite (Option.map withoutRenditions), Option.map_none, Option.map_some,
    styles.withoutRenditions_styled styles.bold, others.withoutRenditions_styled others.bold]

theorem withoutRenditions_headerRow (severity : Severity) (code : Option Text) (message : Text) :
    withoutRenditions (headerRow p severity code message) =
      withoutRenditions (headerRow q severity code message) := by
  unfold headerRow
  rw [withoutRenditions_heading styles, withoutRenditions_heading others]

end

end Render

namespace Diagnostic

/-- The parts of a drawn diagnostic without their renditions. -/
def Sections.withoutRenditions (s : Sections) : Sections where
  header := s.header.withoutRenditions
  banner := s.banner.map Text.withoutRenditions
  context := s.context.map (List.map Text.withoutRenditions)
  notes := s.notes.map Text.withoutRenditions
  help := s.help.map Text.withoutRenditions

theorem Sections.withoutRenditions_text (s : Sections) :
    s.text.withoutRenditions = s.withoutRenditions.text := by
  have stacked : ∀ rows, (stack rows).withoutRenditions = stack (rows.map Text.withoutRenditions) :=
    solid_newline.withoutRenditions_intercalate
  have parts : [some s.header, s.banner, s.context.map stack, s.notes, s.help].map
      (Option.map Text.withoutRenditions) =
        [some s.withoutRenditions.header, s.withoutRenditions.banner, s.withoutRenditions.context.map stack,
          s.withoutRenditions.notes, s.withoutRenditions.help] := by
    simp only [List.map_cons, List.map_nil, Option.map_some, Option.map_map, Function.comp_def, stacked,
      Sections.withoutRenditions]
  rw [Sections.text, Sections.text, ← parts, stacked, List.map_filterMap, List.filterMap_map]
  rfl

theorem Sections.header_isPrefix_text (s : Sections) : s.header <+: s.text := by
  have parts : [some s.header, s.banner, s.context.map stack, s.notes, s.help].filterMap id =
      s.header :: [s.banner, s.context.map stack, s.notes, s.help].filterMap id := rfl
  rw [Sections.text, stack, parts]
  cases ([s.banner, s.context.map stack, s.notes, s.help].filterMap id) with
  | nil => exact ⟨[], by rw [List.append_nil, List.intercalate_singleton]⟩
  | cons second others =>
      rw [List.intercalate_cons_cons, List.append_assoc]
      exact List.prefix_append _ _

variable (d : Diagnostic) (sources : Lookup)

/-- Drawn in two palettes, the parts of a diagnostic are the same up to renditions, and so is the fault if
    there is one. -/
theorem sections_agree (contextLines : Nat) (colors others : Bool) :
    Sections.withoutRenditions <$> (d.sections sources ⟨colors, contextLines⟩).outcome =
      Sections.withoutRenditions <$> (d.sections sources ⟨others, contextLines⟩).outcome := by
  have styles := Palette.ofStyles_ofColors colors
  have other_styles := Palette.ofStyles_ofColors others
  simp only [sections, Checked.outcome_bind, Checked.outcome_ofLogged, Checked.outcome_ofExcept,
    Checked.outcome_pure, map_bind]
  refine bind_congr_of_ok fun source _ => bind_congr_of_ok fun placed outcome =>
    bind_congr fun width => bind_congr fun severity => bind_congr fun _ => ?_
  rcases exists_contextRows? styles width other_styles outcome contextLines with
    ⟨context, other, drawn, also_drawn, same⟩
  have note : Console.escape ∉ Text.of "note" := by decide
  have help : Console.escape ∉ Text.of "help" := by decide
  rw [drawn, also_drawn]
  change Except.ok _ = Except.ok _
  simp only [Sections.withoutRenditions, same, withoutRenditions_headerRow styles other_styles,
    map_withoutRenditions_bannerRow? styles width other_styles,
    map_withoutRenditions_trailer? styles width other_styles styles.note other_styles.note note,
    map_withoutRenditions_trailer? styles width other_styles styles.help other_styles.help help]

variable (options : Option RenderOptions) (contextLines : Option Int)

/-- Whether options can be does not depend on colours, nor does the number of lines. -/
theorem merged_error_or_ok :
    (∃ fault, ∀ colors, merged options (some colors) contextLines = .error fault) ∨
      ∃ lines, ∀ colors, merged options (some colors) contextLines = .ok ⟨colors, lines⟩ := by
  by_cases nonneg : ∀ n, contextLines = some n → 0 ≤ n
  · exact .inr ⟨_, fun colors => merged_of_nonneg nonneg⟩
  · simp only [not_forall, Int.not_le] at nonneg
    rcases nonneg with ⟨n, given, negative⟩
    exact .inl ⟨.negativeContext n, fun colors => merged_eq_error_iff.2 ⟨n, negative, given, rfl⟩⟩

variable {options contextLines}

/-- A drawn diagnostic starts with its severity in the style that the palette has for it. -/
theorem exists_severity_isPrefix {colors : Bool} {text : Text}
    (drawn : (d.render sources options (some colors) contextLines).outcome = .ok text) :
    ∃ severity, d.severity.toSeverity = .ok severity ∧
      (Palette.ofColors colors).severity severity ++ ((Palette.ofColors colors).bold ++ severity.name) <+:
        text := by
  rcases merged_error_or_ok options contextLines with ⟨fault, refused⟩ | ⟨lines, accepted⟩
  · rw [d.render_of_merged_error sources (refused colors)] at drawn
    cases drawn
  rw [d.render_of_merged sources (accepted colors)] at drawn
  rcases map_eq_ok_iff.1 drawn with ⟨sections, parts, rfl⟩
  rcases sections_eq_ok_iff.1 parts with ⟨placed, width, severity, context, -, -, known, -, -, same⟩
  have header : headerRow (.ofColors colors) severity d.code d.message = sections.header := by rw [same]
  refine ⟨severity, known, (severity_isPrefix_headerRow _ severity d.code d.message).trans ?_⟩
  rw [header]
  exact sections.header_isPrefix_text

/-- Without its renditions a drawn diagnostic is made of its parts without theirs. -/
theorem map_withoutRenditions_render {colors : Option Bool} {resolved : RenderOptions}
    (accepted : merged options colors contextLines = .ok resolved) :
    Text.withoutRenditions <$> (d.render sources options colors contextLines).outcome =
      Sections.text <$> Sections.withoutRenditions <$> (d.sections sources resolved).outcome := by
  rw [d.render_of_merged sources accepted]
  simp only [← comp_map, Function.comp_def, Sections.withoutRenditions_text]

/-- A diagnostic is drawn the same with and without colours, up to renditions. -/
theorem render_agree (colors others : Bool) :
    Text.withoutRenditions <$> (d.render sources options (some colors) contextLines).outcome =
      Text.withoutRenditions <$> (d.render sources options (some others) contextLines).outcome := by
  rcases merged_error_or_ok options contextLines with ⟨fault, refused⟩ | ⟨lines, accepted⟩
  · rw [d.render_of_merged_error sources (refused colors), d.render_of_merged_error sources (refused others)]
  · rw [d.map_withoutRenditions_render sources (accepted colors),
      d.map_withoutRenditions_render sources (accepted others), d.sections_agree sources lines colors others]

theorem renderEach_agree (lines : Nat) (colors others : Bool) (ds : List Diagnostic) :
    List.map Text.withoutRenditions <$> (renderEach sources ⟨colors, lines⟩ ds).outcome =
      List.map Text.withoutRenditions <$> (renderEach sources ⟨others, lines⟩ ds).outcome := by
  have chain : ∀ (options : RenderOptions) (d : Diagnostic) (rest : List Diagnostic),
      List.map Text.withoutRenditions <$> (renderEach sources options (d :: rest)).outcome =
        (Text.withoutRenditions <$> (d.render sources (some options) none none).outcome) >>= fun text =>
          (List.map Text.withoutRenditions <$> (renderEach sources options rest).outcome) >>= fun texts =>
            .ok (text :: texts) := by
    intro options d rest
    simp only [renderEach, Checked.outcome_bind, Checked.outcome_pure, map_bind, bind_map_left]
    rfl
  induction ds with
  | nil => rfl
  | cons d rest ih =>
      rw [chain, chain, ih, d.map_withoutRenditions_render sources (merged_self _),
        d.map_withoutRenditions_render sources (merged_self _), d.sections_agree sources lines colors others]

/-- Without their renditions diagnostics drawn together are made of the single ones and the summary without
    theirs. -/
theorem map_withoutRenditions_renderAll {colors : Option Bool} {resolved : RenderOptions}
    (accepted : merged options colors contextLines = .ok resolved) (rest : List Diagnostic) :
    Text.withoutRenditions <$> (renderAll (d :: rest) sources options colors contextLines).outcome =
      (List.map Text.withoutRenditions <$> (renderEach sources resolved (d :: rest)).outcome) >>= fun texts =>
        (severities (d :: rest)).mapError .severity >>= fun severities =>
          .ok ([CodePoint.newline, CodePoint.newline].intercalate (texts ++
            ((summaryRow (.ofColors resolved.colors) severities).map Text.withoutRenditions).toList)) := by
  have solid : Solid [CodePoint.newline, CodePoint.newline] :=
    ⟨List.cons_ne_nil _ _, breaks_cons_iff.2 (by decide), by decide⟩
  have drawn : (renderAll (d :: rest) sources options colors contextLines).outcome =
      (renderEach sources resolved (d :: rest)).outcome >>= fun texts =>
        (severities (d :: rest)).mapError .severity >>= fun severities =>
          .ok ([CodePoint.newline, CodePoint.newline].intercalate (texts ++
            (summaryRow (.ofColors resolved.colors) severities).toList)) := by
    simp only [renderAll, Checked.outcome_bind, Checked.outcome_ofExcept, Checked.outcome_pure, accepted]
    rfl
  rw [drawn, map_bind, bind_map_left]
  refine bind_congr fun texts => ?_
  rw [map_bind]
  refine bind_congr fun severities => congrArg Except.ok ?_
  rw [solid.withoutRenditions_intercalate, List.map_append]
  cases summaryRow (.ofColors resolved.colors) severities <;> rfl

/-- Diagnostics are drawn together the same with and without colours, up to renditions. -/
theorem renderAll_agree (colors others : Bool) (ds : List Diagnostic) :
    Text.withoutRenditions <$> (renderAll ds sources options (some colors) contextLines).outcome =
      Text.withoutRenditions <$> (renderAll ds sources options (some others) contextLines).outcome := by
  rcases ds with - | ⟨d, rest⟩
  · rfl
  rcases merged_error_or_ok options contextLines with ⟨fault, refused⟩ | ⟨lines, accepted⟩
  · simp only [renderAll, Checked.outcome_bind, Checked.outcome_ofExcept, refused]
  · have summary := map_withoutRenditions_summaryRow (Palette.ofStyles_ofColors colors)
      (Palette.ofStyles_ofColors others)
    rw [d.map_withoutRenditions_renderAll sources (accepted colors),
      d.map_withoutRenditions_renderAll sources (accepted others),
      renderEach_agree sources lines colors others]
    simp only [summary]

/-- Two outcomes that agree up to renditions are both texts or both the same fault. -/
theorem exists_ok_of_agree {ε : Type} {colored plain : Except ε Text}
    (agree : Text.withoutRenditions <$> colored = Text.withoutRenditions <$> plain) {text : Text}
    (drawn : plain = .ok text) :
    ∃ shown, colored = .ok shown ∧ shown.withoutRenditions = text.withoutRenditions := by
  rw [drawn] at agree
  exact map_eq_ok_iff.1 agree

end Diagnostic

/-- A message with a code span. -/
def Diagnostic.codeSpanSample : Diagnostic where
  message := ['`', 'a', '`']
  severity := .known .error
  code := none
  source := none
  labels := []
  help := []
  notes := []

/-- Coloured and plain renderings differ only by renditions, for a single diagnostic and for several with
    their summary. Taking the renditions out of both gives the same text, or both fail in the same way. What
    is drawn without colours is drawn with colours too; if it has no escape, then taking the renditions out
    of the coloured rendering gives it back exactly. A coloured rendering does have colours, that of the
    severity in front of its name, and a plain one starts with the name. -/
theorem Diagnostic.colored_agrees_with_plain (sources : Lookup) (options : Option RenderOptions)
    (contextLines : Option Int) :
    (∀ d : Diagnostic,
      Text.withoutRenditions <$> (d.render sources options (some true) contextLines).outcome =
        Text.withoutRenditions <$> (d.render sources options (some false) contextLines).outcome ∧
      ∀ plain, (d.render sources options (some false) contextLines).outcome = .ok plain →
        ∃ colored severity, (d.render sources options (some true) contextLines).outcome = .ok colored ∧
          (Console.escape ∉ plain → colored.withoutRenditions = plain) ∧
          d.severity.toSeverity = .ok severity ∧ severity.name <+: plain ∧
          Palette.colored.severity severity ++ (Palette.colored.bold ++ severity.name) <+: colored) ∧
    ∀ ds : List Diagnostic,
      Text.withoutRenditions <$> (renderAll ds sources options (some true) contextLines).outcome =
        Text.withoutRenditions <$> (renderAll ds sources options (some false) contextLines).outcome ∧
      ∀ plain, (renderAll ds sources options (some false) contextLines).outcome = .ok plain →
        ∃ colored, (renderAll ds sources options (some true) contextLines).outcome = .ok colored ∧
          (Console.escape ∉ plain → colored.withoutRenditions = plain) := by
  refine ⟨fun d => ⟨d.render_agree sources true false, fun plain drawn => ?_⟩,
    fun ds => ⟨renderAll_agree sources true false ds, fun plain drawn => ?_⟩⟩
  · rcases exists_ok_of_agree (d.render_agree sources true false) drawn with ⟨colored, shown, same⟩
    rcases d.exists_severity_isPrefix sources drawn with ⟨severity, known, name⟩
    rcases d.exists_severity_isPrefix sources shown with ⟨other, also_known, styled_name⟩
    obtain rfl : severity = other := Except.ok.inj (known.symm.trans also_known)
    have plain_name : severity.name <+: plain := by cases severity <;> exact name
    exact ⟨colored, severity, shown, fun free => same.trans (withoutRenditions_of_free free), known, plain_name,
      styled_name⟩
  · rcases exists_ok_of_agree (renderAll_agree sources true false ds) drawn with ⟨colored, shown, same⟩
    exact ⟨colored, shown, fun free => same.trans (withoutRenditions_of_free free)⟩

theorem Diagnostic.colored_agrees_with_plain_code_span :
    ∃ colored, (Diagnostic.codeSpanSample.render .nothing none (some true) none).outcome = .ok colored ∧
      colored = Text.of "\x1b[31m\x1b[1merror\x1b[0m: `\x1b[1ma\x1b[0m`" ∧
      colored.withoutRenditions = Text.of "error: `a`" := by
  have drawn : (Diagnostic.codeSpanSample.render .nothing none (some false) none).outcome =
      .ok (Text.of "error: `a`") := by rfl
  have free : Console.escape ∉ Text.of "error: `a`" := by decide
  rcases ((Diagnostic.colored_agrees_with_plain .nothing none none).1 .codeSpanSample).2 _ drawn with
    ⟨colored, severity, shown, same, -⟩
  exact ⟨colored, shown, Except.ok.inj (shown.symm.trans rfl), same free⟩

end Marginalia
