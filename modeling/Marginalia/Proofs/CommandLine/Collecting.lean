/-
Module: Marginalia.Proofs.CommandLine.Collecting
Purpose: The mapping that the command makes of its sources. Sources that the arguments name are put in one after the
  other, so that the last one of a name stays; sources that the reports name are put in only where nothing stands
  yet. Each of the two loops is described by what one step does to the entry under any name, and a run by
  induction over its steps: which source stands under which name in the end, what makes the reading end early, and
  that nothing of this depends on the order of the reports.
Main exports: lookup_putSource, lookup_of_collectNamed_last, ReportStep, lookup_of_collectReported,
  succeeds_collectSources_iff, SourceUnder, collectSources_precedence
-/

import Mathlib.Data.List.Nodup
import Marginalia.Files.Tree
import Marginalia.Proofs.CommandLine.Loading

namespace Marginalia

/-!
### The mapping
-/

variable {view : FileView} {sources out : List (Text × Source)}

section Lookup

variable {β : Type} {entries : List (Text × β)} {x : Text}

theorem lookup_cons_eq_ite (entry : Text × β) :
    (entry :: entries).lookup x = if x = entry.1 then some entry.2 else entries.lookup x := by
  rw [List.lookup_cons]
  split
  next here => rw [if_pos (beq_iff_eq.1 here)]
  next other => rw [if_neg (ne_of_beq_false other)]

/-- Nothing is found exactly under what is no name of an entry. -/
theorem lookup_eq_none_iff_not_mem : entries.lookup x = none ↔ x ∉ entries.map (·.1) := by
  simp only [List.lookup_eq_none_iff, List.mem_map, bne_iff_ne, not_exists, not_and, ne_comm (a := x), ne_eq]

/-- What the loops ask before they put something in. -/
theorem any_eq_true_iff_lookup_ne_none :
    (entries.any fun entry => entry.1 = x) = true ↔ entries.lookup x ≠ none := by
  rw [Ne, lookup_eq_none_iff_not_mem]
  simp

/-- In a mapping without duplicates the entries are what is found. -/
theorem mem_iff_lookup_eq (distinct : (entries.map (·.1)).Nodup) {b : β} :
    (x, b) ∈ entries ↔ entries.lookup x = some b := by
  induction entries with
  | nil => simp
  | cons entry rest ih =>
      rw [List.map_cons, List.nodup_cons] at distinct
      rw [List.mem_cons, ih distinct.2, lookup_cons_eq_ite, Prod.ext_iff]
      split
      next here =>
        subst here
        rw [lookup_eq_none_iff_not_mem.2 distinct.1]
        simp [eq_comm]
      next other => simp [other]

end Lookup

/-- Where a source is put in the place of those of its name, it is found in their place. -/
theorem lookup_replaced (s : Source) (x : Text) :
    (sources.map fun entry => if entry.1 = s.name then (s.name, s) else entry).lookup x =
      if x = s.name then (sources.lookup x).map fun _ => s else sources.lookup x := by
  induction sources with
  | nil => simp
  | cons entry rest ih =>
      rw [List.map_cons, lookup_cons_eq_ite, ih, lookup_cons_eq_ite]
      by_cases here : entry.1 = s.name
      · by_cases same : x = s.name
        · simp [here, same]
        · simp [here, same]
      · by_cases same : x = entry.1
        · simp [here, same]
        · simp [here, same]

/-- Under the name of a source that was put in stands that source, and under other names what stood there. -/
theorem lookup_putSource (sources : List (Text × Source)) (s : Source) (x : Text) :
    (putSource sources s).lookup x = if x = s.name then some s else sources.lookup x := by
  simp only [putSource, any_eq_true_iff_lookup_ne_none]
  by_cases free : sources.lookup s.name = none
  · rw [if_neg (not_not_intro free), List.lookup_append, lookup_cons_eq_ite]
    split
    next same => rw [same, free, Option.none_or]
    next => exact Option.or_none
  · rw [if_pos free, lookup_replaced]
    split
    next same =>
      rcases Option.ne_none_iff_exists'.1 free with ⟨old, found⟩
      rw [same, found, Option.map_some]
    next => rfl

theorem nodup_putSource (s : Source) (distinct : (sources.map (·.1)).Nodup) :
    ((putSource sources s).map (·.1)).Nodup := by
  simp only [putSource, any_eq_true_iff_lookup_ne_none, ne_eq, lookup_eq_none_iff_not_mem]
  split
  next held =>
    have kept : ((sources.map fun entry => if entry.1 = s.name then (s.name, s) else entry).map (·.1)) =
        sources.map (·.1) := by
      rw [List.map_map]
      refine List.map_congr_left fun entry _ => ?_
      simp only [Function.comp_apply]
      split
      next here => exact here.symm
      next => rfl
    rwa [kept]
  next not_held =>
    have absent := not_not.1 not_held
    rw [List.map_append, List.nodup_append]
    refine ⟨distinct, List.pairwise_singleton _ _, fun name mem other new same => absent ?_⟩
    have new_name : other = s.name := List.mem_singleton.1 new
    rwa [← new_name, ← same]

/-!
### Sources of the arguments

Of each name the last one stays.
-/

theorem collectNamed_append (named rest : List (Option (Text × Text))) :
    collectNamed view sources (named ++ rest) =
      collectNamed view sources named >>= fun next => collectNamed view next rest := by
  induction named generalizing sources with
  | nil => rfl
  | cons use others ih =>
      rcases use with - | ⟨name, path⟩
      · rfl
      · simp only [List.cons_append, collectNamed, ih, bind_assoc]

/-- Sources can be had only from options that were used with their value. -/
theorem exists_pairs_of_collectNamed {uses : List (Option (Text × Text))}
    (collected : collectNamed view sources uses = .ok out) : ∃ named : List (Text × Text), uses = named.map some := by
  induction uses generalizing sources with
  | nil => exact ⟨[], rfl⟩
  | cons use rest ih =>
      rcases use with - | pair
      · cases collected
      · rcases bind_eq_ok_iff.1 collected with ⟨content, -, later⟩
        rcases ih later with ⟨named, rfl⟩
        exact ⟨pair :: named, rfl⟩

section Named

variable {named : List (Text × Text)}

theorem collectNamed_cons_eq_ok_iff {name path : Text} :
    collectNamed view sources (((name, path) :: named).map some) = .ok out ↔
      ∃ content, view.readText (FilePath.parse path) = .ok content ∧
        collectNamed view (putSource sources (.ofText name content)) (named.map some) = .ok out := by
  simp only [List.map_cons, collectNamed, bind_eq_ok_iff, mapError_eq_ok_iff]

theorem nodup_of_collectNamed (distinct : (sources.map (·.1)).Nodup)
    (collected : collectNamed view sources (named.map some) = .ok out) : (out.map (·.1)).Nodup := by
  induction named generalizing sources with
  | nil =>
      cases collected
      exact distinct
  | cons pair rest ih =>
      rcases collectNamed_cons_eq_ok_iff.1 collected with ⟨content, -, later⟩
      exact ih (nodup_putSource _ distinct) later

/-- Under a name that is not given stands what stood there before. -/
theorem lookup_of_collectNamed_of_not_mem {x : Text} (not_given : x ∉ named.map (·.1))
    (collected : collectNamed view sources (named.map some) = .ok out) : out.lookup x = sources.lookup x := by
  induction named generalizing sources with
  | nil =>
      cases collected
      rfl
  | cons pair rest ih =>
      rw [List.map_cons, List.mem_cons, not_or] at not_given
      rcases collectNamed_cons_eq_ok_iff.1 collected with ⟨content, -, later⟩
      rw [ih not_given.2 later, lookup_putSource]
      exact if_neg not_given.1

/-- Under a name that is given stands the text of the last file that is given under it. -/
theorem lookup_of_collectNamed_last {before after : List (Text × Text)} {x path : Text}
    (last : x ∉ after.map (·.1))
    (collected : collectNamed view sources ((before ++ (x, path) :: after).map some) = .ok out) :
    ∃ content, view.readText (FilePath.parse path) = .ok content ∧ out.lookup x = some (.ofText x content) := by
  rw [List.map_append, collectNamed_append, bind_eq_ok_iff] at collected
  -- Whatever was put in before, this step sets the entry, and no later one touches it.
  rcases collected with ⟨next, -, later⟩
  rcases collectNamed_cons_eq_ok_iff.1 later with ⟨content, text, rest⟩
  refine ⟨content, text, ?_⟩
  rw [lookup_of_collectNamed_of_not_mem last rest, lookup_putSource]
  exact if_pos rfl

/-- Every file that is given has to be read, also one whose name is given again. -/
theorem succeeds_collectNamed_iff : Succeeds (collectNamed view sources (named.map some)) ↔
    ∀ pair ∈ named, Succeeds (view.readText (FilePath.parse pair.2)) := by
  rw [← not_iff_not, not_succeeds_iff]
  simp only [collectNamed_eq_error_iff, exists_firstFailure_iff, List.forall_mem_map, readNamed, succeeds_mapError]

theorem exists_last_of_mem {x : Text} (given : x ∈ named.map (·.1)) :
    ∃ before path after, named = before ++ (x, path) :: after ∧ x ∉ after.map (·.1) := by
  induction named with
  | nil => exact absurd given List.not_mem_nil
  | cons pair rest ih =>
      by_cases again : x ∈ rest.map (·.1)
      · rcases ih again with ⟨before, path, after, rfl, last⟩
        exact ⟨pair :: before, path, after, rfl, last⟩
      · obtain rfl := (List.mem_cons.1 given).resolve_right again
        exact ⟨[], pair.2, rest, rfl, again⟩

/-- From nothing the arguments make a mapping of the names that they give. -/
theorem lookup_of_collectNamed_eq_none_iff {x : Text} (collected : collectNamed view [] (named.map some) = .ok out) :
    out.lookup x = none ↔ x ∉ named.map (·.1) := by
  constructor
  · intro free given
    rcases exists_last_of_mem given with ⟨before, path, after, rfl, last⟩
    rcases lookup_of_collectNamed_last last collected with ⟨content, -, found⟩
    rw [free] at found
    cases found
  · intro not_given
    rw [lookup_of_collectNamed_of_not_mem not_given collected, List.lookup_nil]

end Named

/-!
### Sources of the reports

Where something stands already it stays.
-/

/-- What one report does: it brings in the text of the file that it names, if nothing stands under that name, or it
    changes nothing, because something does or because it names no file. -/
inductive ReportStep (view : FileView) (sources : List (Text × Source)) (report : Report) :
    List (Text × Source) → Prop where
  | added {name content : Text} (named : report.source = some name) (free : sources.lookup name = none)
      (text : view.readText (FilePath.parse name) = .ok content) :
      ReportStep view sources report (putSource sources (.ofText name content))
  | kept (nothing_new : ∀ name, report.source = some name →
      sources.lookup name ≠ none ∨ view.isFile (FilePath.parse name) = .ok false) :
      ReportStep view sources report sources

variable {report : Report} {reports : List Report} {x : Text}

/-- Reports are gone through one by one. -/
theorem collectReported_cons_eq_ok_iff : collectReported view sources (report :: reports) = .ok out ↔
    ∃ next, ReportStep view sources report next ∧ collectReported view next reports = .ok out := by
  rw [collectReported]
  constructor
  · intro collected
    split at collected
    next unnamed =>
      exact ⟨sources, .kept fun name named => by simp [unnamed] at named, collected⟩
    next name named =>
      have own : ∀ other, report.source = some other → name = other := fun other also =>
        Option.some.inj (named.symm.trans also)
      split at collected
      next held =>
        have held := any_eq_true_iff_lookup_ne_none.1 held
        exact ⟨sources, .kept fun other also => .inl (own other also ▸ held), collected⟩
      next free =>
        rw [any_eq_true_iff_lookup_ne_none, not_not] at free
        split at collected
        next => cases collected
        next no_file => exact ⟨sources, .kept fun other also => .inr (own other also ▸ no_file), collected⟩
        next =>
          rcases bind_eq_ok_iff.1 collected with ⟨content, text, later⟩
          exact ⟨_, .added named free text, later⟩
  · rintro ⟨next, step, later⟩
    cases step with
    | added named free text =>
        have is_file := FileView.isFile_of_readText text
        simp only [named, if_neg fun held => any_eq_true_iff_lookup_ne_none.1 held free, is_file, text]
        exact later
    | kept nothing_new =>
        cases named : report.source with
        | none => exact later
        | some name =>
            simp only
            split
            next => exact later
            next free =>
              rcases nothing_new name named with held | no_file
              · exact absurd (any_eq_true_iff_lookup_ne_none.2 held) free
              · rw [no_file]
                exact later

theorem ReportStep.nodup (step : ReportStep view sources report out) (distinct : (sources.map (·.1)).Nodup) :
    (out.map (·.1)).Nodup := by
  cases step with
  | added => exact nodup_putSource _ distinct
  | kept => exact distinct

/-- After one report a name that was free has the file of that name, if the report names it and there is one. -/
theorem ReportStep.lookup_eq (step : ReportStep view sources report out) (x : Text) :
    out.lookup x = (sources.lookup x).or
      (if report.source = some x then (Source.ofFile view x).toOption else none) := by
  cases step with
  | @added name content named free text =>
      by_cases same : x = name
      · subst same
        rw [lookup_putSource, if_pos named, free, Source.ofFile, text]
        exact if_pos rfl
      · have other : report.source ≠ some x := fun also => same (Option.some.inj (also.symm.trans named))
        rw [lookup_putSource, if_neg other, Option.or_none]
        exact if_neg same
  | kept nothing_new =>
      split
      next named =>
        rcases nothing_new x named with held | no_file
        · rcases Option.ne_none_iff_exists'.1 held with ⟨s, found⟩
          rw [found, Option.some_or]
        · rw [Source.toOption_ofFile_eq_none (by simp [no_file]), Option.or_none]
      next => rw [Option.or_none]

/-- A report stops the reading only where nothing stands under the name that it gives its source. -/
theorem exists_reportStep_iff : (∃ next, ReportStep view sources report next) ↔
    ∀ x, report.source = some x → sources.lookup x = none →
      view.isFile (FilePath.parse x) = .ok false ∨ Succeeds (view.readText (FilePath.parse x)) := by
  constructor
  · rintro ⟨next, step⟩ x named free
    cases step with
    | @added name content also _ text =>
        obtain rfl := Option.some.inj (also.symm.trans named)
        exact .inr ⟨content, text⟩
    | kept nothing_new => exact .inl ((nothing_new x named).resolve_left (not_not_intro free))
  · intro passes
    by_cases new : ∃ name, report.source = some name ∧ sources.lookup name = none ∧
        view.isFile (FilePath.parse name) ≠ .ok false
    · rcases new with ⟨name, named, free, no_answer⟩
      rcases (passes name named free).resolve_left no_answer with ⟨content, text⟩
      exact ⟨_, .added named free text⟩
    · refine ⟨sources, .kept fun name named => ?_⟩
      by_contra! neither
      exact new ⟨name, named, neither⟩

theorem nodup_of_collectReported (distinct : (sources.map (·.1)).Nodup)
    (collected : collectReported view sources reports = .ok out) : (out.map (·.1)).Nodup := by
  induction reports generalizing sources with
  | nil =>
      cases collected
      exact distinct
  | cons report rest ih =>
      rcases collectReported_cons_eq_ok_iff.1 collected with ⟨next, step, later⟩
      exact ih (step.nodup distinct) later

/-- After all reports every name that was free has the file of that name, if some report names it and there is
    one. -/
theorem lookup_of_collectReported (collected : collectReported view sources reports = .ok out) (x : Text) :
    out.lookup x = (sources.lookup x).or
      (if some x ∈ reports.map (·.source) then (Source.ofFile view x).toOption else none) := by
  induction reports generalizing sources with
  | nil =>
      cases collected
      simp
  | cons report rest ih =>
      rcases collectReported_cons_eq_ok_iff.1 collected with ⟨next, step, later⟩
      rw [ih later, step.lookup_eq, Option.or_assoc, List.map_cons]
      -- A report that names the source again brings nothing that this one has not brought.
      by_cases named : report.source = some x
      · simp only [named, List.mem_cons, true_or, if_true]
        split
        next => rw [Option.or_self]
        next => rw [Option.or_none]
      · simp only [List.mem_cons, Ne.symm named, false_or, if_neg named, Option.none_or]

/-- Reports can all be gone through if each name that is free at the start is that of a text or of no file. -/
theorem succeeds_collectReported_iff : Succeeds (collectReported view sources reports) ↔
    ∀ x, some x ∈ reports.map (·.source) → sources.lookup x = none →
      view.isFile (FilePath.parse x) = .ok false ∨ Succeeds (view.readText (FilePath.parse x)) := by
  induction reports generalizing sources with
  | nil => simp [collectReported]
  | cons report rest ih =>
      have steps : Succeeds (collectReported view sources (report :: rest)) ↔
          ∃ next, ReportStep view sources report next ∧ Succeeds (collectReported view next rest) := by
        simp only [Succeeds, collectReported_cons_eq_ok_iff]
        constructor
        · rintro ⟨out, next, step, later⟩
          exact ⟨next, step, out, later⟩
        · rintro ⟨next, step, out, later⟩
          exact ⟨out, next, step, later⟩
      rw [steps, List.map_cons]
      constructor
      · rintro ⟨next, step, later⟩ x mem free
        rcases List.mem_cons.1 mem with here | mem
        · exact exists_reportStep_iff.1 ⟨next, step⟩ x here.symm free
        -- A later report is asked about the name only if this one has not filled it.
        · by_cases here : report.source = some x
          · exact exists_reportStep_iff.1 ⟨next, step⟩ x here free
          · refine ih.1 later x mem ?_
            rw [step.lookup_eq, free, if_neg here, Option.or_none]
      · intro passes
        rcases exists_reportStep_iff.2 fun x here => passes x (here ▸ List.mem_cons_self ..) with ⟨next, step⟩
        refine ⟨next, step, ih.2 fun x mem free => passes x (List.mem_cons_of_mem _ mem) ?_⟩
        rw [step.lookup_eq, Option.or_eq_none_iff] at free
        exact free.1

/-!
### Sources of a run
-/

variable {named : List (Text × Text)}

theorem collectSources_eq_ok_iff : collectSources view reports (named.map some) = .ok out ↔
    ∃ given, collectNamed view [] (named.map some) = .ok given ∧ collectReported view given reports = .ok out := by
  simp only [collectSources, bind_eq_ok_iff, mapError_eq_ok_iff]

theorem succeeds_collectSources_iff : Succeeds (collectSources view reports (named.map some)) ↔
    (∀ pair ∈ named, Succeeds (view.readText (FilePath.parse pair.2))) ∧
      ∀ x, some x ∈ reports.map (·.source) → x ∉ named.map (·.1) →
        view.isFile (FilePath.parse x) = .ok false ∨ Succeeds (view.readText (FilePath.parse x)) := by
  rw [collectSources, succeeds_bind, ← @succeeds_collectNamed_iff view []]
  simp only [succeeds_mapError, succeeds_collectReported_iff]
  constructor
  · rintro ⟨given, collected, passes⟩
    simp only [lookup_of_collectNamed_eq_none_iff collected] at passes
    exact ⟨⟨given, collected⟩, passes⟩
  · rintro ⟨⟨given, collected⟩, passes⟩
    simp only [← lookup_of_collectNamed_eq_none_iff collected] at passes
    exact ⟨given, collected, passes⟩

/-- Which source stands under a name: the last file that is given under it, or else the file of that name, if some
    report names it and there is one, or else none. -/
inductive SourceUnder (view : FileView) (named : List (Text × Text)) (reports : List Report) (x : Text) :
    Option Source → Prop where
  | given {before after : List (Text × Text)} {path content : Text} (split : named = before ++ (x, path) :: after)
      (last : x ∉ after.map (·.1)) (text : view.readText (FilePath.parse path) = .ok content) :
      SourceUnder view named reports x (some (.ofText x content))
  | reported {content : Text} (not_given : x ∉ named.map (·.1)) (mem : some x ∈ reports.map (·.source))
      (text : view.readText (FilePath.parse x) = .ok content) :
      SourceUnder view named reports x (some (.ofText x content))
  | absent (not_given : x ∉ named.map (·.1))
      (no_file : ¬ (some x ∈ reports.map (·.source) ∧ view.isFile (FilePath.parse x) = .ok true)) :
      SourceUnder view named reports x none

theorem SourceUnder.name_eq {s : Source} (under : SourceUnder view named reports x (some s)) : s.name = x := by
  cases under with
  | given => rfl
  | reported => rfl

theorem SourceUnder.of_collectSources (collected : collectSources view reports (named.map some) = .ok sources)
    (x : Text) : SourceUnder view named reports x (sources.lookup x) := by
  rcases collectSources_eq_ok_iff.1 collected with ⟨first, of_named, of_reports⟩
  rw [lookup_of_collectReported of_reports]
  by_cases given : x ∈ named.map (·.1)
  · rcases exists_last_of_mem given with ⟨before, path, after, rfl, last⟩
    rcases lookup_of_collectNamed_last last of_named with ⟨content, text, found⟩
    rw [found, Option.some_or]
    exact .given rfl last text
  rw [(lookup_of_collectNamed_eq_none_iff of_named).2 given, Option.none_or]
  split
  next mem =>
    rcases (succeeds_collectSources_iff.1 ⟨_, collected⟩).2 x mem given with no_file | ⟨content, text⟩
    · rw [Source.toOption_ofFile_eq_none (by simp [no_file])]
      exact .absent given (by simp [no_file])
    · rw [Source.ofFile, text]
      exact .reported given mem text
  next unnamed => exact .absent given fun both => unnamed both.1

theorem nodup_of_collectSources (collected : collectSources view reports (named.map some) = .ok sources) :
    (sources.map (·.1)).Nodup := by
  rcases collectSources_eq_ok_iff.1 collected with ⟨first, of_named, of_reports⟩
  have start : (([] : List (Text × Source)).map (·.1)).Nodup := List.nodup_nil
  exact nodup_of_collectReported (nodup_of_collectNamed start of_named) of_reports

/-- Reports that name the same sources lead to the same mapping. -/
theorem perm_of_collectSources {others : List Report}
    (same : ∀ x, some x ∈ others.map (·.source) ↔ some x ∈ reports.map (·.source))
    (collected : collectSources view reports (named.map some) = .ok sources)
    (also : collectSources view others (named.map some) = .ok out) : sources.Perm out := by
  have distinct := nodup_of_collectSources collected
  have also_distinct := nodup_of_collectSources also
  rcases collectSources_eq_ok_iff.1 collected with ⟨first, of_named, of_reports⟩
  rcases collectSources_eq_ok_iff.1 also with ⟨_, again, of_others⟩
  obtain rfl := Except.ok.inj (of_named.symm.trans again)
  rw [List.perm_ext_iff_of_nodup (List.Nodup.of_map _ distinct) (List.Nodup.of_map _ also_distinct)]
  rintro ⟨x, s⟩
  rw [mem_iff_lookup_eq distinct, mem_iff_lookup_eq also_distinct, lookup_of_collectReported of_reports,
    lookup_of_collectReported of_others]
  simp only [same]

/-- How the command comes by its sources, for any arguments, reports and files. If it does, it makes a mapping with
    every source under its own name: the last file that is given under a name, also where a report names it too;
    the file of the name, if only reports name it; nothing under any other name. It does not exactly if a file that
    is given cannot be read or is no text, also where another one is given under its name, or if a report names,
    under a name that is not given, a file that has no text or a place that cannot be asked about. Reports that
    name the same sources, in any order and however often, make no difference. -/
theorem collectSources_precedence (view : FileView) (named : List (Text × Text)) (reports : List Report) :
    (∀ sources, collectSources view reports (named.map some) = .ok sources →
      (sources.map (·.1)).Nodup ∧ (∀ entry ∈ sources, entry.2.name = entry.1) ∧
        ∀ x, SourceUnder view named reports x (sources.lookup x)) ∧
    (¬ Succeeds (collectSources view reports (named.map some)) ↔
      (∃ pair ∈ named, ¬ Succeeds (view.read (FilePath.parse pair.2)) ∨ view.NotText (FilePath.parse pair.2)) ∨
      ∃ x, some x ∈ reports.map (·.source) ∧ x ∉ named.map (·.1) ∧
        (view.NotText (FilePath.parse x) ∨ ¬ Succeeds (view.isFile (FilePath.parse x)))) ∧
    ∀ others : List Report, (∀ x, some x ∈ others.map (·.source) ↔ some x ∈ reports.map (·.source)) →
      (Succeeds (collectSources view others (named.map some)) ↔
        Succeeds (collectSources view reports (named.map some))) ∧
      ∀ sources out, collectSources view reports (named.map some) = .ok sources →
        collectSources view others (named.map some) = .ok out → sources.Perm out := by
  refine ⟨fun sources collected => ⟨nodup_of_collectSources collected, ?_, .of_collectSources collected⟩, ?_, ?_⟩
  · rintro ⟨x, s⟩ mem
    have found := (mem_iff_lookup_eq (nodup_of_collectSources collected)).1 mem
    exact (found ▸ SourceUnder.of_collectSources collected x).name_eq
  · rw [succeeds_collectSources_iff, not_and_or]
    simp only [FileView.isFile_eq_false_or_readText_iff, ← FileView.not_succeeds_readText_iff]
    push Not
    rfl
  · intro others same
    refine ⟨?_, fun sources out collected also => perm_of_collectSources same collected also⟩
    simp only [succeeds_collectSources_iff, same]

/-- Files under four names. -/
def FileTree.collectingSample : FileTree :=
  .ofNames [(['p'], [0x61]), (['q'], [0x62]), (['u'], [0x63]), (['v'], [0x64])]

/-- A report of which only the source matters. -/
def Report.ofSource (source : Option Text) : Report := { message := ['m'], severity := .error, source }

/-- Reports that name two of the files, one of them twice, no file, and nothing. -/
def Report.collectingSample : List Report :=
  [.ofSource (some ['v']), .ofSource (some ['u']), .ofSource none, .ofSource (some ['v']), .ofSource (some ['w'])]

theorem collectSources_precedence_given_twice : ∃ sources out : List (Text × Source),
    collectSources FileTree.collectingSample.view Report.collectingSample [some (['u'], ['p']), some (['u'], ['q'])] =
      .ok sources ∧
    (∀ x, SourceUnder FileTree.collectingSample.view [(['u'], ['p']), (['u'], ['q'])] Report.collectingSample x
      (sources.lookup x)) ∧
    sources.lookup (['u'] : Text) = some (.ofText ['u'] ['b']) ∧
    sources.lookup (['v'] : Text) = some (.ofText ['v'] ['d']) ∧ sources.lookup (['w'] : Text) = none ∧
    collectSources FileTree.collectingSample.view Report.collectingSample.reverse
      [some (['u'], ['p']), some (['u'], ['q'])] = .ok out ∧ sources.Perm out := by
  obtain ⟨settled, -, reordered⟩ := collectSources_precedence FileTree.collectingSample.view
    [(['u'], ['p']), (['u'], ['q'])] Report.collectingSample
  have collected : collectSources FileTree.collectingSample.view Report.collectingSample
      [some (['u'], ['p']), some (['u'], ['q'])] =
        .ok [(['u'], .ofText ['u'] ['b']), (['v'], .ofText ['v'] ['d'])] := rfl
  obtain ⟨alike, permuted⟩ := reordered Report.collectingSample.reverse fun x => by simp
  rcases alike.2 ⟨_, collected⟩ with ⟨out, also⟩
  exact ⟨_, out, collected, (settled _ collected).2.2, rfl, rfl, rfl, also, permuted _ out collected also⟩

/-- A name of 256 letters, one more than a file can have. -/
def Text.overlong : Text := List.replicate 256 'x'

/-- Where a report names what is too long for a file the reading ends, though there is no file without a text. -/
theorem collectSources_overlong :
    collectSources (FileTree.view ⟨[]⟩) [.ofSource (some Text.overlong)] [] =
      .error (.read (.file (.nameTooLong (FilePath.parse Text.overlong)))) ∧
    ¬ ∃ x, some x ∈ [Report.ofSource (some Text.overlong)].map (·.source) ∧
      FileView.NotText (FileTree.view ⟨[]⟩) (FilePath.parse x) := by
  refine ⟨by decide +kernel, ?_⟩
  rintro ⟨x, mem, no_text⟩
  obtain rfl := Option.some.inj (List.mem_singleton.1 mem)
  have asked : (FileTree.view ⟨[]⟩).isFile (FilePath.parse Text.overlong) =
      .error (.nameTooLong (FilePath.parse Text.overlong)) := by decide +kernel
  have is_file := no_text.isFile_eq
  rw [asked] at is_file
  cases is_file

end Marginalia
