/-
Module: Marginalia.Proofs.Formatting
Purpose: One diagnostic and many at the entry points. The lookup that many names get from the sources finds under
  each of them what the lookup for that name alone finds, also where the text of one file goes under all of them,
  so that a diagnostic of a batch is formatted as it is on its own. A batch is therefore the texts of its members
  with a summary, or the fault of the first member that has none.
Main exports: Lookup.ofNames, Sources.find_toLookup, Sources.ofContent, Diagnostic.settled, Diagnostic.outcome_format,
  Diagnostic.outcome_format_of_mem, Diagnostic.formatAll_agrees_with_format
-/

import Marginalia.Format
import Marginalia.Proofs.Files
import Marginalia.Proofs.Render.Batch
import Marginalia.Proofs.Render.Layout

namespace Marginalia

open Render

/-!
### One name among many
-/

/-- A mapping that is made of names finds what was put under each of them. -/
theorem Lookup.entry?_map {names : List Text} {name : Text} (mem : name ∈ names) (entry : Text → Entry) :
    entry? (names.map fun n => (n, entry n)) name = some (entry name) := by
  induction names with
  | nil => exact absurd mem List.not_mem_nil
  | cons first rest ih =>
      by_cases here : first = name
      · simp [here, entry?]
      · have step : entry? ((first :: rest).map fun n => (n, entry n)) name =
            entry? (rest.map fun n => (n, entry n)) name := by simp [here, entry?]
        rw [step, ih ((List.mem_cons.1 mem).resolve_left (Ne.symm here))]

/-- A lookup that has one text under each of some names. -/
def Lookup.ofNames (names : List Text) (content : Text) : Lookup :=
  .mapping (names.map fun name => (name, .source (.ofText name content)))

/-- Under each of the names the text is found, and nothing is noted. -/
theorem Lookup.find_ofNames {names : List Text} {name : Option Text} (content : Text)
    (mem : ∀ id, name = some id → id ∈ names) :
    (ofNames names content).find name = pure (name.map fun id => .ofText id content) := by
  cases name with
  | none => rfl
  | some id =>
      rw [ofNames, find, entry?_map (mem id rfl) fun id => .source (.ofText id content)]
      rfl

namespace Sources

theorem mem_distinctNames_iff {names : List (Option Text)} {name : Text} :
    name ∈ distinctNames names ↔ some name ∈ names := by
  induction names with
  | nil => simp [distinctNames]
  | cons first rest ih =>
      cases first with
      | none => simp [distinctNames, ih]
      | some other =>
          by_cases same : name = other
          · simp [distinctNames, same]
          · simp [distinctNames, same, ih]

variable {view : FileView} {path content : Text} {names : List (Option Text)} {name : Option Text}

/-- The text of a file goes under every name. -/
theorem exists_toLookup_eq_ofNames (text : view.readText (FilePath.parse path) = .ok content)
    (names : List (Option Text)) :
    ∃ ids, (Sources.path path).toLookup view names = pure (.ofNames ids content) ∧
      ∀ id, some id ∈ names → id ∈ ids := by
  simp only [toLookup, FileView.isFile_of_readText text, text, ← mem_distinctNames_iff]
  -- Without any name the text goes under the path, which nobody asks for.
  cases distinctNames names with
  | nil => exact ⟨[path], rfl, fun id mem => absurd mem List.not_mem_nil⟩
  | cons first rest => exact ⟨first :: rest, rfl, fun id mem => mem⟩

/-- The text of a file is found under every name. -/
theorem exists_lookup_of_readText (text : view.readText (FilePath.parse path) = .ok content)
    (names : List (Option Text)) :
    ∃ lookup, ((Sources.path path).toLookup view names).outcome = .ok lookup ∧
      ∀ name ∈ names, (lookup.find name).value = name.map fun id => .ofText id content := by
  rcases exists_toLookup_eq_ofNames text names with ⟨ids, looked, all⟩
  refine ⟨.ofNames ids content, by rw [looked, Checked.outcome_pure], fun name mem => ?_⟩
  rw [Lookup.find_ofNames content fun id named => all id (by rwa [← named])]
  rfl

/-- Under one of many names the same source is found as if it were the only name, and the sources can be had for
    many names exactly if they can be had for one. -/
theorem find_toLookup (sources : Sources) (view : FileView) (mem : name ∈ names) :
    ((sources.toLookup view names).outcome.map fun lookup => (lookup.find name).value) =
      (sources.toLookup view [name]).outcome.map fun lookup => (lookup.find name).value := by
  cases sources with
  | nothing => rfl
  | single s => rfl
  | mapping entries => rfl
  | path path =>
      cases text : view.readText (FilePath.parse path) with
      | ok content =>
          rcases exists_lookup_of_readText text names with ⟨lookup, looked, find⟩
          rcases exists_lookup_of_readText text [name] with ⟨own, looked_own, find_own⟩
          rw [looked, looked_own, Except.map, Except.map, find name mem, find_own name (List.mem_singleton_self name)]
      | error fault =>
          -- Without a text to put under them the names make no difference.
          rw [toLookup, toLookup]
          rcases view.isFile (FilePath.parse path) with - | - | -
          · rfl
          · rfl
          · simp only [Checked.outcome_bind, Checked.outcome_ofExcept, text]
            rfl

/-- A text under the name that a diagnostic gives its source. -/
def ofContent (content : Text) : Option Text → Sources
  | none => .nothing
  | some id => .single (.ofText id content)

theorem find_ofContent (view : FileView) (content : Text) (name : Option Text) :
    ∃ lookup, ((ofContent content name).toLookup view [name]).outcome = .ok lookup ∧
      (lookup.find name).value = name.map fun id => .ofText id content := by
  cases name with
  | none => exact ⟨.mapping [], rfl, rfl⟩
  | some id =>
      refine ⟨.single (.ofText id content), rfl, ?_⟩
      have same : (Source.ofText id content).name = id := rfl
      rw [Lookup.find, if_pos same]
      rfl

end Sources

/-!
### One diagnostic among many
-/

namespace Diagnostic

variable {ds : List Diagnostic} {d : Diagnostic} {sources : Sources} {options : Option RenderOptions}
  {colors : Option Bool} {contextLines : Option Int} {env : Environment} {view : FileView}

/-- Of the sources drawing reads only the one that the diagnostic names. -/
theorem render_congr {lookup other : Lookup} (same : (lookup.find d.source).value = (other.find d.source).value) :
    (d.render lookup options colors contextLines).outcome = (d.render other options colors contextLines).outcome := by
  simp only [render, sections, Checked.outcome_bind, Checked.outcome_ofLogged, same]

/-- What is settled before anything is drawn: the lookup for all names, and the options. -/
def settled (sources : Sources) (options : Option RenderOptions) (env : Environment) (view : FileView)
    (names : List (Option Text)) : Except FormatFault (Lookup × RenderOptions) := do
  let lookup ← (sources.toLookup view names).outcome
  let base ← (optionsOr options env).mapError .options
  return (lookup, base)

/-- Where the lookup can be had the options are left to be settled. -/
theorem settled_bind {β : Type} {names : List (Option Text)} {lookup : Lookup}
    (looked : (sources.toLookup view names).outcome = .ok lookup)
    (rest : Lookup × RenderOptions → Except FormatFault β) :
    settled sources options env view names >>= rest =
      (optionsOr options env).mapError .options >>= fun base => rest (lookup, base) := by
  rw [settled, looked]
  cases optionsOr options env with
  | error fault => rfl
  | ok base => rfl

theorem outcome_format :
    (d.format sources options colors contextLines env view).outcome =
      settled sources options env view [d.source] >>= fun s =>
        (d.render s.1 (some s.2) colors contextLines).outcome.mapError .render := by
  simp only [format, settled, Checked.outcome_bind, Checked.outcome_ofExcept, Checked.outcome_adapt, bind_assoc,
    pure_bind]

theorem outcome_formatAll :
    (formatAll ds sources options colors contextLines env view).outcome =
      settled sources options env view (ds.map (·.source)) >>= fun s =>
        (renderAll ds s.1 (some s.2) colors contextLines).outcome.mapError .render := by
  simp only [formatAll, settled, Checked.outcome_bind, Checked.outcome_ofExcept, Checked.outcome_adapt, bind_assoc,
    pure_bind]

/-- In a batch a diagnostic is formatted as on its own, with what is settled for the whole batch. -/
theorem outcome_format_of_mem (mem : d ∈ ds) :
    (d.format sources options colors contextLines env view).outcome =
      settled sources options env view (ds.map (·.source)) >>= fun s =>
        (d.render s.1 (some s.2) colors contextLines).outcome.mapError .render := by
  have named : d.source ∈ ds.map (·.source) := List.mem_map_of_mem mem
  have agree := sources.find_toLookup view named
  rw [outcome_format]
  cases many : (sources.toLookup view (ds.map (·.source))).outcome with
  | error fault =>
      rw [many] at agree
      rw [settled, settled, many, map_eq_error_iff.1 agree.symm]
  | ok lookup =>
      rw [many] at agree
      rcases map_eq_ok_iff.1 agree.symm with ⟨own, one, same⟩
      rw [settled_bind one, settled_bind many]
      simp only [render_congr same]

/-!
### Batches
-/

/-- A batch fails exactly as the first of its members that fails on its own. -/
theorem formatAll_eq_error_iff (some_ds : ds ≠ []) {fault : FormatFault} :
    (formatAll ds sources options colors contextLines env view).outcome = .error fault ↔
      FirstFailure (fun d => (d.format sources options colors contextLines env view).outcome) ds fault := by
  rw [outcome_formatAll, firstFailure_congr fun d mem => outcome_format_of_mem mem]
  cases settled sources options env view (ds.map (·.source)) with
  | error cause =>
      refine Iff.trans ?_ (firstFailure_iff_of_all some_ds fun d mem => rfl).symm
      exact ⟨fun same => Except.error.inj same, fun same => congrArg Except.error same⟩
  | ok s =>
      show Except.mapError _ _ = _ ↔ FirstFailure (fun d => Except.mapError _ _) ds fault
      simp only [mapError_eq_error_iff, firstFailure_mapError_iff, renderAll_eq_error_iff]

/-- Members that are formatted on their own are formatted together, with a summary under the options in force. -/
theorem formatAll_of_formats (some_ds : ds ≠ []) {texts : List Text}
    (formatted : List.Forall₂ (fun d text =>
      (d.format sources options colors contextLines env view).outcome = .ok text) ds texts) :
    ∃ base severities, optionsOr options env = .ok base ∧
      List.Forall₂ (fun d severity => d.severity.toSeverity = .ok severity) ds severities ∧
      (formatAll ds sources options colors contextLines env view).outcome = .ok (withSummary
        (blankLine.intercalate texts) (summaryRow (.ofColors (colors.getD base.colors)) severities)) := by
  have members : List.Forall₂ (fun d text => d ∈ ds ∧
      (d.format sources options colors contextLines env view).outcome = .ok text) ds texts :=
    (List.forall₂_and_left ds texts).2 ⟨fun d mem => mem, formatted⟩
  have drawn := members.imp fun d text both => (outcome_format_of_mem both.1).symm.trans both.2
  rw [outcome_formatAll]
  cases prepared : settled sources options env view (ds.map (·.source)) with
  | error fault =>
      rw [prepared] at drawn
      rcases drawn with - | ⟨refused, -⟩
      · exact absurd rfl some_ds
      · cases refused
  | ok s =>
      rw [prepared] at drawn
      have each := drawn.imp fun d text shown => mapError_eq_ok_iff.1 shown
      rcases exists_severities_of_renders each with ⟨severities, known⟩
      rcases bind_eq_ok_iff.1 prepared with ⟨lookup, -, rest⟩
      rcases bind_eq_ok_iff.1 rest with ⟨base, given, made⟩
      obtain rfl := pure_eq_ok_iff.1 made
      exact ⟨base, severities, mapError_eq_ok_iff.1 given, known,
        mapError_eq_ok_iff.2 ((renderAll_eq_ok_iff some_ds).2 ⟨texts, severities, each, known, rfl⟩)⟩

/-- With the path of a file a diagnostic is formatted as with the text of the file under the name that it gives its
    source. -/
theorem format_path {path content : Text} (text : view.readText (FilePath.parse path) = .ok content)
    (d : Diagnostic) :
    (d.format (.path path) options colors contextLines env view).outcome =
      (d.format (.ofContent content d.source) options colors contextLines env view).outcome := by
  rcases Sources.exists_lookup_of_readText text [d.source] with ⟨lookup, looked, find⟩
  rcases Sources.find_ofContent view content d.source with ⟨own, looked_own, find_own⟩
  have same := (find d.source (List.mem_singleton_self _)).trans find_own.symm
  rw [outcome_format, outcome_format, settled_bind looked, settled_bind looked_own]
  simp only [render_congr same]

/-- Formatting together agrees with formatting one by one, whatever the sources, the options and the environment.
    If each diagnostic of a batch is formatted on its own, the batch is these texts in order, with a blank line
    between them and, exactly if one of the diagnostics is an error or a warning, with a summary behind another
    blank line. If one of them is not, the batch fails with the fault of the first that is not. With the path of
    a file the one lookup of the batch finds the text of the file under the name of each source, and every
    diagnostic is formatted as with that text alone. -/
theorem formatAll_agrees_with_format (ds : List Diagnostic) (some_ds : ds ≠ []) (sources : Sources)
    (options : Option RenderOptions) (colors : Option Bool) (contextLines : Option Int) (env : Environment)
    (view : FileView) :
    (∀ texts, List.Forall₂ (fun d text =>
        (d.format sources options colors contextLines env view).outcome = .ok text) ds texts →
      ∃ base severities summary, optionsOr options env = .ok base ∧
        List.Forall₂ (fun d severity => d.severity.toSeverity = .ok severity) ds severities ∧
        summary = summaryRow (.ofColors (colors.getD base.colors)) severities ∧
        (summary.isSome ↔ ∃ d ∈ ds, d.severity.toSeverity = .ok .error ∨ d.severity.toSeverity = .ok .warning) ∧
        (formatAll ds sources options colors contextLines env view).outcome =
          .ok (withSummary (blankLine.intercalate texts) summary)) ∧
    (∀ fault, (formatAll ds sources options colors contextLines env view).outcome = .error fault ↔
      FirstFailure (fun d => (d.format sources options colors contextLines env view).outcome) ds fault) ∧
    ∀ path content, sources = .path path → view.readText (FilePath.parse path) = .ok content →
      (∃ lookup, (sources.toLookup view (ds.map (·.source))).outcome = .ok lookup ∧
        ∀ d ∈ ds, (lookup.find d.source).value = d.source.map fun id => .ofText id content) ∧
      ∀ d ∈ ds, (d.format sources options colors contextLines env view).outcome =
        (d.format (.ofContent content d.source) options colors contextLines env view).outcome := by
  refine ⟨fun texts formatted => ?_, fun fault => formatAll_eq_error_iff some_ds, ?_⟩
  · rcases formatAll_of_formats some_ds formatted with ⟨base, severities, given, known, together⟩
    refine ⟨base, severities, _, given, known, rfl, ?_, together⟩
    rw [summaryRow_isSome_iff, mem_values_iff known, mem_values_iff known, ← exists_or]
    simp only [and_or_left]
  · rintro path content rfl text
    rcases Sources.exists_lookup_of_readText text (ds.map (·.source)) with ⟨lookup, looked, find⟩
    exact ⟨⟨lookup, looked, fun d mem => find d.source (List.mem_map_of_mem mem)⟩, fun d _ => format_path text d⟩

end Diagnostic

/-- A diagnostic on the first cell of the source that it names. -/
def Diagnostic.namingSample (severity : Severity) (name : CodePoint) : Diagnostic where
  message := ['m']
  severity := .known severity
  code := none
  source := some [name]
  labels := [.primary (.span (.position (.point Cell.first))) none none]
  help := []
  notes := []

/-- Its label where it is drawn. -/
def Render.PositionedLabel.namingSample : PositionedLabel :=
  ⟨.primary (.span (.position (.point Cell.first))) none none, .point Cell.first⟩

/-- A file of one letter, wherever one is looked for. -/
def FileView.letterSample : FileView := fun _ => .file [0x61]

theorem Diagnostic.succeeds_format_namingSample (severity : Severity) (name : CodePoint) :
    Succeeds ((namingSample severity name).format (.ofContent ['a'] (namingSample severity name).source)
      (some ⟨false, 2⟩) none none {} .letterSample).outcome := by
  rcases Sources.find_ofContent .letterSample ['a'] (namingSample severity name).source with ⟨lookup, looked, found⟩
  have fits : checkPointers (some (.ofText [name] ['a'])) ([.namingSample].map PositionedLabel.placed) = .ok () := by
    simp only [checkPointers, sortedLabels_map_placed, List.mergeSort_singleton]
    rfl
  have block := contextRows?_plain (.ofText [name] ['a']) 2 1 [.namingSample]
  have made : Succeeds ((namingSample severity name).sections lookup ⟨false, 2⟩).outcome := by
    refine ⟨_, sections_eq_ok_iff.2 ⟨[PositionedLabel.namingSample.placed], 1, severity,
      (sourceGroups (.ofText [name] ['a']) 2 [.namingSample]).map (framedRows 1), ?_, rfl, rfl, ?_, ?_, rfl⟩⟩
    · rw [found]
      rfl
    · rw [found]
      exact fits
    · rw [found]
      exact block
  rcases made with ⟨sections, made⟩
  have drawn : ((namingSample severity name).render lookup (some ⟨false, 2⟩) none none).outcome = .ok sections.text :=
    render_eq_ok_iff.2 ⟨(by simp), sections, made, rfl⟩
  refine ⟨sections.text, ?_⟩
  rw [outcome_format, settled_bind looked]
  exact mapError_eq_ok_iff.2 drawn

theorem Diagnostic.formatAll_agrees_with_format_two_names : ∃ first second row,
    ((namingSample .error 'u').format (.path ['p']) (some ⟨false, 2⟩) none none {} .letterSample).outcome =
      .ok first ∧
    ((namingSample .warning 'v').format (.path ['p']) (some ⟨false, 2⟩) none none {} .letterSample).outcome =
      .ok second ∧
    (formatAll [namingSample .error 'u', namingSample .warning 'v'] (.path ['p']) (some ⟨false, 2⟩) none none {}
      .letterSample).outcome = .ok (first ++ blankLine ++ second ++ blankLine ++ row) := by
  obtain ⟨together, -, of_file⟩ := formatAll_agrees_with_format [namingSample .error 'u', namingSample .warning 'v']
    (List.cons_ne_nil _ _) (.path ['p']) (some ⟨false, 2⟩) none none {} .letterSample
  rcases of_file ['p'] ['a'] rfl rfl with ⟨-, own⟩
  rcases succeeds_format_namingSample .error 'u' with ⟨first, shown⟩
  rcases succeeds_format_namingSample .warning 'v' with ⟨second, also_shown⟩
  have first_own := (own _ (List.mem_cons_self ..)).trans shown
  have second_own := (own _ (List.mem_cons_of_mem _ (List.mem_singleton_self _))).trans also_shown
  obtain ⟨base, severities, summary, -, -, -, counted, batch⟩ :=
    together [first, second] (.cons first_own (.cons second_own .nil))
  rcases Option.isSome_iff_exists.1 (counted.2 ⟨_, List.mem_cons_self .., .inl rfl⟩) with ⟨row, rfl⟩
  refine ⟨first, second, row, first_own, second_own, ?_⟩
  rw [batch, withSummary, List.intercalate_cons_of_ne_nil (List.cons_ne_nil _ _), List.intercalate_singleton]

end Marginalia
