/-
Module: Marginalia.Proofs.Corpus.Usable
Purpose: Every case that is drawn can be used, whatever the sampler draws. Drawing never fails: no range of
  numbers is empty and no span is refused. Each case has a name of its own, and its source is short and the
  spans of its labels small, so that its report can be drawn with and without colours and shown in one line;
  a listing is one block for each case.
Main exports: Corpus.PointsInto.denotes, Corpus.IsUsable, Corpus.IsDrawn.isUsable, Corpus.IsBlock,
  Corpus.exists_blocks, Corpus.IsCorpus, Corpus.yields_corpus, Corpus.drawCases_usable
-/

import Marginalia.Corpus.Listing
import Marginalia.Proofs.Corpus.Numbering
import Marginalia.Proofs.Document.Showing
import Marginalia.Proofs.Render.Limits
import Marginalia.Proofs.Span.Conversion

namespace Marginalia.Corpus

open Draw Render

/-!
### Spans that are drawn
-/

variable {source : Source} {content : Text} {given : SpanLike} {c : Case}

/-- What is drawn to stand for a span does stand for one, which the checked constructor builds from its
    numbers; and apart from octets these are small if the source is short. -/
theorem PointsInto.denotes (points : PointsInto source given) (small : IsSmall source) :
    ∃ span, given.Denotes span ∧ span.Within 300100 := by
  rcases small with ⟨lines, octets⟩
  cases points with
  | octets r start length => exact ⟨.octets r, .span _, trivial⟩
  | position start stop line column one_line ordered further =>
      exact ⟨_, .span _, .between (by omega) (by omega) (by omega)⟩
  | point cell line column => exact ⟨_, .span _, .point (by omega) (by omega)⟩
  | search search line afterColumn maxLines => exact ⟨_, .span _, by omega, by omega⟩
  | tuple start length start_le some_octets length_le =>
      exact ⟨_, .pair rfl (octets_built some_octets (by omega) (by omega)), trivial⟩
  | range start length start_le some_octets length_le =>
      have count : ((start + length : Nat) : Int) - start = length := by omega
      refine ⟨.octets ⟨start, length, some_octets⟩, .indices ?_, trivial⟩
      rw [count]
      exact octets_built some_octets (by omega) (by omega)

/-!
### Cases that can be used
-/

/-- A case that a renderer can be tried on: each of its labels is on something that is converted to a span, one
    that its constructor takes, and its report can be drawn over its source, with colours or without, and shown
    in one line. -/
structure IsUsable (c : Case) : Prop where
  spans : ∀ label ∈ c.report.labels, ∃ span, label.span.Denotes span ∧ span.IsConstructed ∧
    label.toSpan = .ok span
  drawn : ∀ color, Succeeds (c.report.toDiagnostic.render (.single c.source) none (some color) none).outcome
  compact : Succeeds c.report.toDiagnostic.compact

/-- The source that is found for a report, if one is, is the source that was handed over. -/
theorem eq_of_find_single {name : Option Text} {found : Source}
    (at_name : ((Lookup.single source).find name).value = some found) : found = source := by
  cases name with
  | none => cases at_name
  | some name =>
      rw [Lookup.find] at at_name
      split at at_name
      · exact (Option.some.inj at_name).symm
      · cases at_name

/-- What is drawn as a case is usable: it stays far below the limits of drawing. -/
theorem IsDrawn.isUsable {index : Nat} (drawn : IsDrawn index c) : IsUsable c := by
  rcases c with ⟨source, report⟩
  rcases drawn with ⟨⟨content, rfl, short⟩, labels⟩
  have denotes : ∀ label ∈ report.labels, ∃ span, label.span.Denotes span ∧ span.Within 300100 := by
    intro label mem
    exact (labels label mem).denotes (.of_length_le _ short)
  have spans : ∀ label ∈ report.labels, Succeeds label.toSpan := by
    intro label mem
    rcases denotes label mem with ⟨span, is_span, -⟩
    exact ⟨span, SpanLike.toSpan_eq_ok_iff.2 is_span⟩
  have small : ∀ label ∈ report.labels, ∀ span, label.toSpan = .ok span → span.Within 300100 := by
    intro label mem span is_span
    rcases denotes label mem with ⟨other, is_other, within⟩
    obtain rfl : other = span := Except.ok.inj ((SpanLike.toSpan_eq_ok_iff.2 is_other).symm.trans is_span)
    exact within
  have limits : WithinLimits ((Lookup.single (.ofText (caseName index) content)).find report.source).value
      (RenderOptions.contextInForce none none) report.labels := by
    refine withinLimits_of_within small (by decide) ?_ (by decide)
    intro found_content mem
    rcases Option.bind_eq_some_iff.1 mem with ⟨found, at_name, has_content⟩
    rw [eq_of_find_single at_name] at has_content
    obtain rfl : content = found_content := Option.some.inj has_content
    exact Nat.lt_of_le_of_lt short (by decide)
  refine ⟨?_, ?_, Diagnostic.succeeds_compact spans⟩
  · intro label mem
    rcases denotes label mem with ⟨span, is_span, -⟩
    exact ⟨span, is_span, span.isConstructed, SpanLike.toSpan_eq_ok_iff.2 is_span⟩
  · intro color
    have nonneg : ∀ n : Int, none = some n → 0 ≤ n := by
      intro n given
      cases given
    exact (Diagnostic.render_succeeds_iff_of_withinLimits limits).2 ⟨nonneg, spans, trivial⟩

/-!
### Listings
-/

variable {compact color : Bool} {cases : List Case}

/-- What a listing holds for a case: the name of its source, its report in one line or in full, and a blank
    line. -/
def IsBlock (compact color : Bool) (c : Case) (block : Text) : Prop :=
  ∃ body,
    (if compact then c.report.toDiagnostic.compact = .ok body
      else (c.report.toDiagnostic.render (.single c.source) none (some color) none).outcome = .ok body) ∧
    Text.of "=== " ++ c.source.name ++ Text.of "\n" ++ body ++ Text.of "\n\n" = block

theorem showCase_eq_ok_iff {block : Text} : showCase compact color c = .ok block ↔ IsBlock compact color c block := by
  rw [showCase, IsBlock]
  cases compact with
  | true => simp only [if_true, bind_eq_ok_iff, mapError_eq_ok_iff, pure_eq_ok_iff]
  | false => simp only [Bool.false_eq_true, if_false, bind_eq_ok_iff, mapError_eq_ok_iff, pure_eq_ok_iff]

theorem IsUsable.succeeds_showCase (usable : IsUsable c) : Succeeds (showCase compact color c) := by
  have told : ∃ body, if compact then c.report.toDiagnostic.compact = .ok body
      else (c.report.toDiagnostic.render (.single c.source) none (some color) none).outcome = .ok body := by
    split
    · exact usable.compact
    · exact usable.drawn color
  rcases told with ⟨body, told⟩
  exact ⟨_, showCase_eq_ok_iff.2 ⟨body, told, rfl⟩⟩

/-- A listing is what its cases are shown as, one after the other. -/
theorem showCases_eq_mapM (cases : List Case) :
    showCases compact color cases = (cases.mapM (showCase compact color)).map List.flatten := by
  induction cases with
  | nil => rfl
  | cons c rest ih =>
      rw [showCases, ih, List.mapM_cons]
      cases showCase compact color c with
      | error fault => rfl
      | ok shown => cases rest.mapM (showCase compact color) <;> rfl

/-- A listing of usable cases has one block for each of them. -/
theorem exists_blocks (compact color : Bool) (usable : ∀ c ∈ cases, IsUsable c) :
    ∃ blocks, List.Forall₂ (IsBlock compact color) cases blocks ∧
      showCases compact color cases = .ok blocks.flatten := by
  have shown : Succeeds (cases.mapM (showCase compact color)) :=
    succeeds_mapM.2 fun c mem => (usable c mem).succeeds_showCase
  rcases shown with ⟨blocks, shown⟩
  refine ⟨blocks, (mapM_eq_ok_iff.1 shown).imp fun _ _ => showCase_eq_ok_iff.1, ?_⟩
  rw [showCases_eq_mapM, shown]
  rfl

/-!
### Corpora
-/

/-- What a corpus of a size is: as many cases, or none if the size is negative, whose sources go by names of
    their own, and of which each can be used. -/
structure IsCorpus (count : Int) (cases : List Case) : Prop where
  length : (cases.length : Int) = max count 0
  names : (cases.map (·.source.name)).Nodup
  usable : ∀ c ∈ cases, IsUsable c

/-- Cases of different numbers go by different names. -/
theorem nodup_names {index : Nat} (drawn : ∀ i c, cases[i]? = some c → IsDrawn (index + i) c) :
    (cases.map (·.source.name)).Nodup := by
  have named : ∀ i c, cases[i]? = some c → c.source.name = caseName (index + i) := by
    intro i c found
    rcases (drawn i c found).source with ⟨content, is_source, -⟩
    rw [is_source]
    rfl
  rw [List.Nodup, List.pairwise_map, List.pairwise_iff_getElem]
  intro i j in_front behind before same
  rw [named i _ (List.getElem?_eq_getElem in_front), named j _ (List.getElem?_eq_getElem behind)] at same
  have same_number := caseName_injective same
  omega

theorem yields_corpus {σ : Type} (s : Sampler σ) (count : Int) :
    (drawCases s 0 count.toNat).Yields (IsCorpus count) := by
  apply (yields_drawCases s 0 count.toNat).mono
  intro cases drawn
  refine ⟨?_, nodup_names drawn.2, ?_⟩
  · rw [drawn.1]
    exact Int.toNat_eq_max count
  · intro c mem
    rcases List.getElem?_of_mem mem with ⟨i, found⟩
    exact (drawn.2 i c found).isUsable

/-- Only usable cases are drawn. Whatever a sampler draws, within the bounds that it is asked for, no draw of a
    corpus fails: no bound is empty and no span is refused. There are as many cases as were asked for, under
    names of their own; every label is on something that is converted to a span which meets the conditions of
    its constructor; and every report can be drawn, with colours and without, and shown in one line. A listing
    of the cases is therefore one block for each of them; and so is the listing of every seed. -/
theorem drawCases_usable (count : Int) :
    (∀ {σ : Type} (s : Sampler σ) (state : σ), ∃ cases next,
      (drawCases s 0 count.toNat).outcome state = (.ok cases, next) ∧ IsCorpus count cases ∧
      ∀ compact color, ∃ blocks, List.Forall₂ (IsBlock compact color) cases blocks ∧
        showCases compact color cases = .ok blocks.flatten) ∧
    ∀ (seed : Int) (compact color : Bool),
      ((drawCases Twister.sampler 0 count.toNat).outcome (Twister.ofSeed seed)).1 = .ok (Corpus.cases seed count) ∧
      ∃ blocks, List.Forall₂ (IsBlock compact color) (Corpus.cases seed count) blocks ∧
        (blocks.length : Int) = max count 0 ∧
        listing { seed, count, compact, color } = .ok blocks.flatten := by
  constructor
  · intro σ s state
    rcases yields_corpus s count state with ⟨cases, next, drawn, corpus⟩
    exact ⟨cases, next, drawn, corpus, fun compact color => exists_blocks compact color corpus.usable⟩
  · intro seed compact color
    have corpus : IsCorpus count (Corpus.cases seed count) :=
      (yields_corpus Twister.sampler count).value (Twister.ofSeed seed)
    rcases exists_blocks compact color corpus.usable with ⟨blocks, each, shown⟩
    exact ⟨outcome_cases seed count, blocks, each, each.length_eq ▸ corpus.length, shown⟩

end Marginalia.Corpus
