/-
Module: Marginalia.Proofs.Render.Notices
Purpose: What a drawing says about what it could not draw as asked. A span is degraded in a source in three
  ways: its pattern has no match, its range of octets starts outside the content, or it starts inside and ends
  behind it. Each of them is said once, when the label is placed; the banner, the gutter and the rows look at
  places only and say nothing. A diagnostic whose source is not found says this instead, once, and nothing about
  its labels.
Main exports: Span.Degrades, Span.notices_of_degrades, Span.notices_of_whole, Render.LabelsTell,
  Render.notices_placeLabels, Diagnostic.Tells, Diagnostic.exists_tells, Diagnostic.notices_render,
  Diagnostic.render_tells_each_once
-/

import Marginalia.Proofs.Render.Location

namespace Marginalia

open Render

/-!
### Spans that are degraded
-/

/-- The ways in which a span is not found in a source as it was asked for, with what is said about each. In a
    source without a content no pattern has a match, and every offset is outside. -/
inductive Span.Degrades (source : Source) : Span → Notice → Prop
  | searchMissing (s : Search) (missing : ∀ cell, ¬ s.MatchesAt source cell) :
      Degrades source (.search s) (.patternMissing s.pattern source.name s.line s.lastLine)
  | startOutside (r : OctetRange) (outside : ∀ length, source.octetLength = some length → length < r.start) :
      Degrades source (.octets r) (.offsetOutside r.start source.name)
  | endPast (r : OctetRange) (length : Nat) (known : source.octetLength = some length) (inside : r.start ≤ length)
      (past : length < r.stop) : Degrades source (.octets r) (.rangeRunsPast r.start r.length source.name)

variable {source : Source} {span : Span} {n : Notice}

/-- What is said about spans is said on their channel. -/
theorem Span.Degrades.channel_eq (degrades : span.Degrades source n) : n.channel = "pentiment.spans" := by
  cases degrades with
  | searchMissing s missing => rfl
  | startOutside r outside => rfl
  | endPast r length known inside past => rfl

/-- An offset with a cell is one of the content. -/
theorem Source.exists_octetLength_of_cellAt? {offset : Nat} {cell : Cell}
    (at_offset : source.cellAt? offset = some cell) :
    ∃ length, source.octetLength = some length ∧ offset ≤ length := by
  rw [cellAt?] at at_offset
  split at at_offset
  next => cases at_offset
  next octets known =>
    split at at_offset
    next => cases at_offset
    next inside => exact ⟨octets.length, by rw [octetLength, known]; rfl, by omega⟩

/-- A search leaves its notice when its scan finds nothing. -/
theorem Search.notices_resolve {s : Search} {found : Option Position}
    (scanned : s.scan source s.line s.line_pos (s.afterColumn - 1) s.maxLines = .ok found) :
    (s.resolve (some source)).notices =
      if found = none then [.patternMissing s.pattern source.name s.line s.lastLine] else [] := by
  rw [resolve, scanned]
  cases found with
  | none => rfl
  | some position => rfl

namespace Span

theorem notices_of_degrades (degrades : span.Degrades source n) : (span.resolve (some source)).notices = [n] := by
  cases degrades with
  | searchMissing s missing =>
      have scanned := s.scan_first_match source s.line s.line_pos (s.afterColumn - 1) s.maxLines
      rw [← s.setOf_matchesAt source] at scanned
      rcases scanned with ⟨cell, least, -⟩ | ⟨-, missed⟩
      · exact absurd least.1 (missing cell)
      · exact Search.notices_resolve missed
  | startOutside r outside =>
      rw [resolve, Checked.notices_ofLogged, OctetRange.resolve]
      cases at_start : source.cellAt? r.start with
      | none => rfl
      | some start =>
          rcases Source.exists_octetLength_of_cellAt? at_start with ⟨length, known, inside⟩
          exact absurd inside (Nat.not_le.2 (outside length known))
  | endPast r length known inside past =>
      rw [resolve, Checked.notices_ofLogged, OctetRange.resolve]
      cases at_start : source.cellAt? r.start with
      | none => exact absurd inside (Nat.not_le.2 (length_lt_of_cellAt?_eq_none at_start known))
      | some start =>
          simp only
          cases at_stop : source.cellAt? r.stop with
          | none => rfl
          | some stop =>
              rcases Source.exists_octetLength_of_cellAt? at_stop with ⟨also, also_known, reached⟩
              obtain rfl : length = also := Option.some.inj (known.symm.trans also_known)
              exact absurd reached (Nat.not_le.2 past)

theorem notices_of_whole (whole : ∀ n, ¬ span.Degrades source n) : (span.resolve (some source)).notices = [] := by
  cases span with
  | position p => rfl
  | octets r =>
      rw [resolve, Checked.notices_ofLogged, OctetRange.resolve]
      cases at_start : source.cellAt? r.start with
      | none =>
          exact absurd (.startOutside r fun length known => length_lt_of_cellAt?_eq_none at_start known) (whole _)
      | some start =>
          simp only
          cases at_stop : source.cellAt? r.stop with
          | none =>
              rcases Source.exists_octetLength_of_cellAt? at_start with ⟨length, known, inside⟩
              exact absurd (.endPast r length known inside (length_lt_of_cellAt?_eq_none at_stop known)) (whole _)
          | some stop => rfl
  | search s =>
      have scanned := s.scan_first_match source s.line s.line_pos (s.afterColumn - 1) s.maxLines
      rw [← s.setOf_matchesAt source] at scanned
      rcases scanned with ⟨cell, -, found⟩ | ⟨none_left, -⟩
      · exact Search.notices_resolve found
      · exact absurd (.searchMissing s (Set.eq_empty_iff_forall_notMem.1 none_left)) (whole _)

/-- In a source without a content all spans but positions are degraded. -/
theorem exists_degrades_iff_of_content_eq_none (unknown : source.content = none) :
    (∃ n, span.Degrades source n) ↔ ∀ p, span ≠ .position p := by
  have no_length : source.octetLength = none := by rw [Source.octetLength, Source.octets, unknown]; rfl
  cases span with
  | position p =>
      refine iff_of_false ?_ fun other => other p rfl
      rintro ⟨n, degrades⟩
      cases degrades
  | octets r =>
      refine iff_of_true ⟨_, .startOutside r fun length known => ?_⟩ fun p same => Span.noConfusion same
      rw [no_length] at known
      cases known
  | search s =>
      refine iff_of_true ⟨_, .searchMissing s fun cell found => ?_⟩ fun p same => Span.noConfusion same
      rcases found.stands with ⟨text, at_line, -⟩
      rw [source.line_eq cell.line_pos, Source.lines, unknown] at at_line
      cases at_line

end Span

/-!
### Labels
-/

namespace Render

/-- What is said about labels, in their order: one notice for each label whose span is degraded, and none for the
    others. -/
inductive LabelsTell (source : Source) : List Label → List Notice → Prop
  | nil : LabelsTell source [] []
  | degraded {label : Label} {labels : List Label} {span : Span} {n : Notice} {log : List Notice}
      (is_span : label.toSpan = .ok span) (degrades : span.Degrades source n) (rest : LabelsTell source labels log) :
      LabelsTell source (label :: labels) (n :: log)
  | whole {label : Label} {labels : List Label} {span : Span} {log : List Notice}
      (is_span : label.toSpan = .ok span) (whole : ∀ n, ¬ span.Degrades source n)
      (rest : LabelsTell source labels log) : LabelsTell source (label :: labels) log

variable {label : Label} {labels : List Label} {log : List Notice}

theorem LabelsTell.channel_eq (told : LabelsTell source labels log) : ∀ n ∈ log, n.channel = "pentiment.spans" := by
  induction told with
  | nil => exact fun n mem => absurd mem List.not_mem_nil
  | degraded _ degrades _ ih => exact List.forall_mem_cons.2 ⟨degrades.channel_eq, ih⟩
  | whole _ _ _ ih => exact ih

/-- There is something, or nothing, to be said about any labels that stand for spans. -/
theorem exists_labelsTell (source : Source) (spans : ∀ label ∈ labels, Succeeds label.toSpan) :
    ∃ log, LabelsTell source labels log := by
  induction labels with
  | nil => exact ⟨[], .nil⟩
  | cons label rest ih =>
      rw [List.forall_mem_cons] at spans
      rcases spans with ⟨⟨span, is_span⟩, spans⟩
      rcases ih spans with ⟨log, told⟩
      by_cases degraded : ∃ n, span.Degrades source n
      · rcases degraded with ⟨n, degrades⟩
        exact ⟨n :: log, .degraded is_span degrades told⟩
      · exact ⟨log, .whole is_span (not_exists.1 degraded) told⟩

theorem notices_placeLabel (is_span : label.toSpan = .ok span) :
    (placeLabel (some source) label).notices = (span.resolve (some source)).notices := by
  have given : (Checked.ofExcept RenderFault.span label.toSpan).outcome = .ok span := by
    rw [Checked.outcome_ofExcept, is_span]
    rfl
  have step : placeLabel (some source) label = Checked.ofExcept .span label.toSpan >>= fun span =>
      ExceptT.adapt .line (span.resolve (some source)) >>= fun position => pure ⟨label, .cells position⟩ := by
    rw [placeLabel]
    congr
    funext span
    cases span <;> rfl
  rw [step, Checked.notices_bind_of_ok given, Checked.notices_ofExcept, List.nil_append,
    Checked.notices_bind_of_silent fun position => rfl, Checked.notices_adapt]

/-- Without a source nothing is looked up, and so nothing is said. -/
theorem notices_placeLabel_none (label : Label) : (placeLabel none label).notices = [] := by
  rw [placeLabel, Checked.notices_bind_of_silent, Checked.notices_ofExcept]
  intro span
  cases span with
  | position p => rfl
  | octets r => rfl
  | search s => rfl

/-- Placing labels says what there is to say about each of them, in order. -/
theorem notices_placeLabels (told : LabelsTell source labels log) :
    (placeLabels (some source) labels).notices = log := by
  have step : ∀ {label : Label} {labels : List Label} {span : Span}, label.toSpan = .ok span →
      (placeLabels (some source) (label :: labels)).notices =
        (span.resolve (some source)).notices ++ (placeLabels (some source) labels).notices := by
    intro label labels span is_span
    rcases exists_place (some source) is_span with ⟨place, at_place⟩
    rw [placeLabels, Checked.notices_bind_of_ok at_place, notices_placeLabel is_span,
      Checked.notices_bind_of_silent fun others => rfl]
  induction told with
  | nil => rfl
  | degraded is_span degrades _ ih => rw [step is_span, Span.notices_of_degrades degrades, ih, List.singleton_append]
  | whole is_span whole _ ih => rw [step is_span, Span.notices_of_whole whole, ih, List.nil_append]

theorem notices_placeLabels_none (labels : List Label) : (placeLabels none labels).notices = [] := by
  induction labels with
  | nil => rfl
  | cons label rest ih =>
      have later : ∀ placed : PlacedLabel,
          (placeLabels none rest >>= fun others => pure (placed :: others)).notices = [] := by
        intro placed
        rw [Checked.notices_bind_of_silent fun others => rfl, ih]
      rw [placeLabels, Checked.notices_bind_of_silent later, notices_placeLabel_none]

end Render

/-!
### Sources
-/

namespace Lookup

variable {name : Option Text}

/-- Nothing is said about a source that is found. -/
theorem notices_find_of_found {sources : Lookup} (found : (sources.find name).value = some source) :
    (sources.find name).notices = [] := by
  cases name with
  | none => rfl
  | some name =>
      cases sources with
      | nothing => rfl
      | single s =>
          rw [find] at found ⊢
          split
          next => rfl
          next differs =>
            rw [if_neg differs] at found
            cases found
      | mapping entries =>
          rw [find] at found ⊢
          split at found
          next => rfl
          next => rfl
          next => cases found

/-- A name that leads to nothing in a mapping is said. -/
theorem notices_find_mapping {entries : List (Text × Entry)} {name : Text}
    (missing : ((mapping entries).find (some name)).value = none) :
    ((mapping entries).find (some name)).notices = [.sourceUnknown name] := by
  rw [find] at missing ⊢
  split at missing
  next => cases missing
  next => cases missing
  next => rfl

theorem find_of_unasked {sources : Lookup} (unasked : name = none ∨ sources = .nothing) :
    sources.find name = pure none := by
  rcases unasked with rfl | rfl
  · rfl
  · cases name with
    | none => rfl
    | some name => rfl

end Lookup

/-!
### Diagnostics
-/

namespace Diagnostic

/-- What is said about a diagnostic. Nothing is asked without a name or without sources; a name that leads to no
    source is said once; of a source that is found, what is said is what there is to say about the labels. -/
inductive Tells (d : Diagnostic) : Lookup → List Notice → Prop
  | unasked (sources : Lookup) (unasked : d.source = none ∨ sources = .nothing) : Tells d sources []
  | mismatch (s : Source) (name : Text) (named : d.source = some name) (differs : s.name ≠ name) :
      Tells d (.single s) [.sourceMismatch name s.name]
  | unknown (entries : List (Text × Lookup.Entry)) (name : Text) (named : d.source = some name)
      (missing : ((Lookup.mapping entries).find d.source).value = none) :
      Tells d (.mapping entries) [.sourceUnknown name]
  | resolved (sources : Lookup) (source : Source) (log : List Notice)
      (found : (sources.find d.source).value = some source) (told : LabelsTell source d.labels log) :
      Tells d sources log

variable {d : Diagnostic} {sources : Lookup} {options : Option RenderOptions} {colors : Option Bool}
  {contextLines : Option Int} {text : Text} {log : List Notice}

/-- The parts of a diagnostic say what finding the source and placing the labels say: the steps behind these are
    plain checks. -/
theorem notices_sections (options : RenderOptions) :
    (d.sections sources options).notices =
      (sources.find d.source).notices ++ (placeLabels (sources.find d.source).value d.labels).notices := by
  rw [sections, Checked.notices_bind_of_ok (Checked.outcome_ofLogged _), Checked.notices_ofLogged,
    Checked.notices_bind_of_silent]
  intro placed
  refine (Checked.notices_bind_of_silent fun width => ?_).trans (Checked.notices_ofExcept ..)
  refine (Checked.notices_bind_of_silent fun severity => ?_).trans (Checked.notices_ofExcept ..)
  refine (Checked.notices_bind_of_silent fun fits => ?_).trans (Checked.notices_ofExcept ..)
  exact (Checked.notices_bind_of_silent fun context => rfl).trans (Checked.notices_ofExcept ..)

/-- A drawing says what its parts say, unless the options are refused. -/
theorem notices_render (nonneg : ∀ n, contextLines = some n → 0 ≤ n) :
    (d.render sources options colors contextLines).notices =
      (sources.find d.source).notices ++ (placeLabels (sources.find d.source).value d.labels).notices := by
  have given : (Checked.ofExcept RenderFault.options (merged options colors contextLines)).outcome =
      .ok ⟨colors.getD (options.getD {}).colors, RenderOptions.contextInForce options contextLines⟩ := by
    rw [Checked.outcome_ofExcept, merged_of_nonneg nonneg]
    rfl
  rw [render, Checked.notices_bind_of_ok given, Checked.notices_ofExcept, List.nil_append,
    Checked.notices_bind_of_silent fun sections => rfl, notices_sections]

/-- There is something, or nothing, to be said about any diagnostic whose labels stand for spans. -/
theorem exists_tells (sources : Lookup) (spans : ∀ label ∈ d.labels, Succeeds label.toSpan) :
    ∃ log, d.Tells sources log := by
  cases found : (sources.find d.source).value with
  | some source =>
      rcases exists_labelsTell source spans with ⟨log, told⟩
      exact ⟨log, .resolved sources source log found told⟩
  | none =>
      cases named : d.source with
      | none => exact ⟨[], .unasked sources (.inl named)⟩
      | some name =>
          cases sources with
          | nothing => exact ⟨[], .unasked .nothing (.inr rfl)⟩
          | single s =>
              refine ⟨_, .mismatch s name named fun same => ?_⟩
              rw [named, Lookup.find, if_pos same] at found
              cases found
          | mapping entries => exact ⟨_, .unknown entries name named found⟩

/-- What is to be said about a diagnostic is what its drawing says. -/
theorem notices_eq_of_tells (nonneg : ∀ n, contextLines = some n → 0 ≤ n) (told : d.Tells sources log) :
    (d.render sources options colors contextLines).notices = log := by
  rw [notices_render nonneg]
  cases told with
  | unasked sources unasked =>
      rw [Lookup.find_of_unasked unasked]
      exact notices_placeLabels_none d.labels
  | mismatch s name named differs =>
      rw [named, Lookup.find, if_neg differs]
      exact congrArg (_ :: ·) (notices_placeLabels_none d.labels)
  | unknown entries name named missing =>
      rw [named] at missing ⊢
      rw [Lookup.notices_find_mapping missing, missing, notices_placeLabels_none, List.append_nil]
  | resolved sources source log found told =>
      rw [Lookup.notices_find_of_found found, List.nil_append, found, notices_placeLabels told]

/-- Each degraded condition is said exactly once. Let a diagnostic be drawn. What is said is exactly this, in this
    order: that its name leads to no source, if it has a name and there is a lookup; and, if the name leads to a
    source, one notice for each label in order whose span is degraded in that source. So without a source at most one
    notice is left, on the channel of the rendering and never about a label, and with a source all notices are on
    the channel of spans; where this source has no content, all spans but positions count. -/
theorem render_tells_each_once (drawn : (d.render sources options colors contextLines).outcome = .ok text) :
    (∀ log, (d.render sources options colors contextLines).notices = log ↔ d.Tells sources log) ∧
    ((sources.find d.source).value = none →
      (d.render sources options colors contextLines).notices.map Notice.channel =
        if d.source = none ∨ sources = .nothing then [] else [Text.of "pentiment.render"]) ∧
    ∀ source, (sources.find d.source).value = some source →
      LabelsTell source d.labels (d.render sources options colors contextLines).notices ∧
      (∀ n ∈ (d.render sources options colors contextLines).notices, n.channel = "pentiment.spans") ∧
      (source.content = none → ∀ span : Span, (∃ n, span.Degrades source n) ↔ ∀ p, span ≠ .position p) := by
  rcases render_eq_ok_iff.1 drawn with ⟨nonneg, sections, parts, -⟩
  rcases sections_eq_ok_iff.1 parts with ⟨placed, -, -, -, outcome, -⟩
  rcases exists_tells sources ((succeeds_placeLabels _).1 ⟨placed, outcome⟩) with ⟨log, told⟩
  have same : (d.render sources options colors contextLines).notices = log := notices_eq_of_tells nonneg told
  refine ⟨fun other => ?_, fun missing => ?_, fun source found => ?_⟩
  · constructor
    · rintro rfl
      rw [same]
      exact told
    · exact notices_eq_of_tells nonneg
  · rw [same]
    cases told with
    | unasked sources unasked => rw [if_pos unasked, List.map_nil]
    | mismatch s name named differs =>
        rw [if_neg (by simp [named])]
        rfl
    | unknown entries name named missing =>
        rw [if_neg (by simp [named])]
        rfl
    | resolved sources source log found told =>
        rw [missing] at found
        cases found
  · rcases exists_labelsTell source ((succeeds_placeLabels _).1 ⟨placed, outcome⟩) with ⟨log, told⟩
    rw [notices_eq_of_tells nonneg (.resolved sources source log found told)]
    exact ⟨told, told.channel_eq, fun unknown _ => Span.exists_degrades_iff_of_content_eq_none unknown⟩

/-- A search for a letter that is not there. -/
def missingSample : Search where
  line := 1
  pattern := ['z']
  afterColumn := 1
  maxLines := 3
  line_pos := Cell.first.line_pos
  pattern_ne := List.cons_ne_nil _ _
  afterColumn_pos := Cell.first.column_pos
  maxLines_pos := Nat.le_add_left 1 2

/-- Octets that are there, octets that run past the end, a pattern that is missing, and octets that are outside. -/
def degradedSample : Diagnostic where
  message := ['m']
  severity := .known .error
  code := none
  source := some ['s']
  labels := [.primary (.tuple [.int 0, .int 1]) none none, .primary (.tuple [.int 0, .int 5]) none none,
    .primary (.span (.search missingSample)) none none, .primary (.tuple [.int 7, .int 1]) none none]
  help := []
  notes := []

/-- A source of one short line. -/
def shortLine : Lookup := .single (.ofText ['s'] ['a', 'b'])

/-- Of four labels three are degraded, and each of them is told in its turn. -/
theorem render_tells_each_once_degraded :
    Succeeds (degradedSample.render shortLine none (some false) (some 0)).outcome ∧
      degradedSample.Tells shortLine
        [.rangeRunsPast 0 5 ['s'], .patternMissing ['z'] ['s'] 1 3, .offsetOutside 7 ['s']] := by
  have small : ∀ p : Position, p.start = Cell.first → markedWidth p = 1 →
      SmallEnough (shortLine.find degradedSample.source).value (RenderOptions.contextInForce none (some 0)) p := by
    intro p start width
    have one : Numeral.Writable 1 := by decide
    refine ⟨?_, ?_, fun _ _ _ => ?_⟩
    · rw [start]
      exact one
    · rw [start]
      exact one
    · rw [start, width]
      decide
  have limits : WithinLimits (shortLine.find degradedSample.source).value
      (RenderOptions.contextInForce none (some 0)) degradedSample.labels := by
    intro label mem p placed
    simp only [degradedSample, List.mem_cons, List.not_mem_nil, or_false] at mem
    rcases mem with rfl | rfl | rfl | rfl
    · obtain rfl := Place.cells.inj (PlacedLabel.mk.inj (Except.ok.inj placed)).2
      exact small _ rfl rfl
    · obtain rfl := Place.cells.inj (PlacedLabel.mk.inj (Except.ok.inj placed)).2
      exact small _ rfl rfl
    · obtain rfl := Place.cells.inj (PlacedLabel.mk.inj (Except.ok.inj placed)).2
      exact small _ rfl rfl
    · obtain rfl := Place.cells.inj (PlacedLabel.mk.inj (Except.ok.inj placed)).2
      exact small _ rfl rfl
  have spans : ∀ label ∈ degradedSample.labels, Succeeds label.toSpan := by
    intro label mem
    simp only [degradedSample, List.mem_cons, List.not_mem_nil, or_false] at mem
    rcases mem with rfl | rfl | rfl | rfl
    · exact ⟨_, rfl⟩
    · exact ⟨_, rfl⟩
    · exact ⟨_, rfl⟩
    · exact ⟨_, rfl⟩
  have drawn : Succeeds (degradedSample.render shortLine none (some false) (some 0)).outcome :=
    (render_succeeds_iff_of_withinLimits limits).2 ⟨by simp, spans, trivial⟩
  refine ⟨drawn, ?_⟩
  rcases drawn with ⟨text, drawn⟩
  refine ((render_tells_each_once drawn).1 _).1 ?_
  rw [notices_render (by simp)]
  decide +kernel

end Diagnostic

end Marginalia
