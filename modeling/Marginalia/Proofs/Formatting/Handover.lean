/-
Module: Marginalia.Proofs.Formatting.Handover
Purpose: The forms in which a text is handed over: as a source, as an entry of a mapping, with or without its
  name, or as the path of a file. The entry points tell them apart twice, where the sources become a lookup and
  where the lookup is searched, and in both places they come to the same: every diagnostic that names the text
  finds it under its name, nothing is noted on the way, and so nothing that is drawn shows how it came.
Main exports: Sources.HandOver, Sources.HandOver.exists_lookup, Diagnostic.formatAll_of_handOver
-/

import Marginalia.Proofs.Formatting
import Marginalia.Proofs.Source.Stored

namespace Marginalia

open Render

/-- Ways to hand over a text under a name. What else a mapping holds, and under which names the text of a file
    will be asked for, is left open. -/
inductive Sources.HandOver (view : FileView) (name t : Text) : Sources → Prop where
  | single : HandOver view name t (.single (.ofText name t))
  | source {entries : List (Text × Lookup.Entry)}
      (held : Lookup.entry? entries name = some (.source (.ofText name t))) : HandOver view name t (.mapping entries)
  | text {entries : List (Text × Lookup.Entry)} (held : Lookup.entry? entries name = some (.text t)) :
      HandOver view name t (.mapping entries)
  | file {path : Text} (stored : view.read (FilePath.parse path) = .ok t.encode) : HandOver view name t (.path path)

namespace Sources

variable {view : FileView} {name t : Text} {sources : Sources} {names : List (Option Text)}

/-- However a text is handed over, the lookup that is made of it finds it under its name, without a notice. -/
theorem HandOver.exists_lookup (handed : HandOver view name t sources) (scalar : ∀ c ∈ t, c.isSurrogate = false)
    (one_name : ∀ id ∈ names, id = none ∨ id = some name) :
    ∃ lookup, sources.toLookup view names = pure lookup ∧
      ∀ id ∈ names, lookup.find id = pure (id.map fun _ => .ofText name t) := by
  -- Only the name itself has to be looked up; without a name nothing is.
  have of_find : ∀ lookup : Lookup, lookup.find (some name) = pure (some (.ofText name t)) →
      ∀ id ∈ names, lookup.find id = pure (id.map fun _ => .ofText name t) := by
    intro lookup found id mem
    rcases one_name id mem with rfl | rfl
    · rfl
    · exact found
  cases handed with
  | single => exact ⟨_, rfl, of_find _ (if_pos rfl)⟩
  | source held => exact ⟨_, rfl, of_find _ (by rw [Lookup.find, held])⟩
  | text held => exact ⟨_, rfl, of_find _ (by rw [Lookup.find, held])⟩
  | file stored =>
      have text := FileView.readText_of_encode scalar stored
      rcases exists_toLookup_eq_ofNames text names with ⟨ids, looked, all⟩
      refine ⟨_, looked, fun id mem => ?_⟩
      rw [Lookup.find_ofNames t fun asked same => all asked (by rwa [← same])]
      rcases one_name id mem with rfl | rfl
      · rfl
      · rfl

end Sources

namespace Diagnostic

variable {ds : List Diagnostic} {d : Diagnostic} {lookup other : Lookup} {options : Option RenderOptions}
  {colors : Option Bool} {contextLines : Option Int}

/-- Drawing asks a lookup for nothing but the source of the diagnostic, and notes what the lookup notes. -/
theorem render_eq_of_find (same : lookup.find d.source = other.find d.source) :
    d.render lookup options colors contextLines = d.render other options colors contextLines := by
  simp only [render, sections, same]

theorem renderEach_eq_of_find {options : RenderOptions}
    (same : ∀ d ∈ ds, lookup.find d.source = other.find d.source) :
    renderEach lookup options ds = renderEach other options ds := by
  induction ds with
  | nil => rfl
  | cons d rest ih =>
      rw [List.forall_mem_cons] at same
      rw [renderEach, renderEach, render_eq_of_find same.1, ih same.2]

theorem renderAll_eq_of_find (same : ∀ d ∈ ds, lookup.find d.source = other.find d.source) :
    renderAll ds lookup options colors contextLines = renderAll ds other options colors contextLines := by
  cases ds with
  | nil => rfl
  | cons d rest => simp only [renderAll, renderEach_eq_of_find same]

/-- Where the lookup can be had without a notice, formatting goes on from there. -/
theorem formatAll_of_lookup {sources : Sources} {view : FileView}
    (looked : sources.toLookup view (ds.map (·.source)) = pure lookup) (env : Environment) :
    formatAll ds sources options colors contextLines env view =
      Checked.ofExcept .options (optionsOr options env) >>= fun base =>
        ExceptT.adapt .render (renderAll ds lookup (some base) colors contextLines) := by
  rw [formatAll, looked]
  rfl

/-- All ways to hand over a text come to the same. Let a text without surrogates be handed over under a name, as a
    source, under the name in a mapping that may hold anything else, as a source or bare, or as the path of a file
    that holds its octets. Then every diagnostic of a batch that names no other source finds the text under its
    name, and the batch is formatted, or fails, as with the source itself, with the same notices, whatever the
    options, what overrides them and the environment. -/
theorem formatAll_of_handOver (ds : List Diagnostic) (name t : Text) (scalar : ∀ c ∈ t, c.isSurrogate = false)
    (one_name : ∀ d ∈ ds, d.source = none ∨ d.source = some name) (view : FileView) (sources : Sources)
    (handed : sources.HandOver view name t) (options : Option RenderOptions) (colors : Option Bool)
    (contextLines : Option Int) (env : Environment) :
    (∃ lookup, (sources.toLookup view (ds.map (·.source))).outcome = .ok lookup ∧
      ∀ d ∈ ds, (lookup.find d.source).value = d.source.map fun _ => .ofText name t) ∧
    formatAll ds sources options colors contextLines env view =
      formatAll ds (.single (.ofText name t)) options colors contextLines env view := by
  have names : ∀ id ∈ ds.map (·.source), id = none ∨ id = some name := List.forall_mem_map.2 one_name
  rcases handed.exists_lookup scalar names with ⟨lookup, looked, find⟩
  have itself : (Sources.single (.ofText name t)).HandOver view name t := .single
  rcases itself.exists_lookup scalar names with ⟨own, looked_own, find_own⟩
  rw [List.forall_mem_map] at find find_own
  refine ⟨⟨lookup, by rw [looked, Checked.outcome_pure], fun d mem => by rw [find d mem]; rfl⟩, ?_⟩
  rw [formatAll_of_lookup looked, formatAll_of_lookup looked_own]
  simp only [renderAll_eq_of_find fun d mem => (find d mem).trans (find_own d mem).symm]

end Diagnostic

/-- Two diagnostics, one with a source and one without, as they are drawn from some sources where every file holds
    one text. -/
def Diagnostic.handedSample (sources : Sources) : Checked FormatFault Text :=
  formatAll [namingSample .error 'u', { namingSample .warning 'u' with source := none }] sources none none none {}
    (fun _ => .file Source.storedSample.encode)

theorem Diagnostic.formatAll_of_handOver_stored_sample :
    (∃ lookup, ((Sources.path ['p']).toLookup (fun _ => .file Source.storedSample.encode) [some ['u'], none]).outcome =
        .ok lookup ∧ (lookup.find (some ['u'])).value = some (.ofText ['u'] Source.storedSample)) ∧
    handedSample (.path ['p']) = handedSample (.single (.ofText ['u'] Source.storedSample)) ∧
    handedSample (.mapping [(['u'], .source (.ofText ['u'] Source.storedSample))]) =
      handedSample (.single (.ofText ['u'] Source.storedSample)) ∧
    handedSample (.mapping [(['v'], .other), (['u'], .text Source.storedSample)]) =
      handedSample (.single (.ofText ['u'] Source.storedSample)) := by
  have scalar : ∀ c ∈ Source.storedSample, c.isSurrogate = false := by decide
  have each := formatAll_of_handOver [namingSample .error 'u', { namingSample .warning 'u' with source := none }] ['u']
    Source.storedSample scalar (by simp [namingSample]) (fun _ => .file Source.storedSample.encode)
  obtain ⟨⟨lookup, looked, find⟩, stored⟩ := each (.path ['p']) (.file rfl) none none none {}
  exact ⟨⟨lookup, looked, find _ (List.mem_cons_self ..)⟩, stored, (each _ (.source rfl) none none none {}).2,
    (each _ (.text rfl) none none none {}).2⟩

end Marginalia
