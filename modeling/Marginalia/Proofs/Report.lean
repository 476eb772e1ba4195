/-
Module: Marginalia.Proofs.Report
Purpose: Building reports step by step. A chain of steps accumulates what was said: the last code and the last source
  count, labels, advice and notes come one behind the other, and nothing else moves. So only the order among steps
  about the same part matters. In a history every report is made of an earlier one; each goes back to a root by
  the steps on its own way, and stays as it is whatever is made later.
Main exports: Report.Step, Report.after, Report.after_eq, Report.after_eq_of_filter, Report.History,
  Report.History.Descends, Report.History.getElem?_reports_iff, Report.chain_accumulates
-/

import Mathlib.Data.List.Basic
import Marginalia.Report

namespace Marginalia.Report

/-!
### Steps
-/

/-- What a step can be about. -/
inductive Part where
  | code
  | source
  | labels
  | help
  | notes
deriving DecidableEq

/-- A step of building: one of the six ways to get a report from another one. -/
inductive Step where
  | giveCode (code : Text)
  | giveSource (source : Text)
  | addLabel (label : Label)
  | addLabels (labels : List Label)
  | addHelp (message : Text)
  | addNote (message : Text)

namespace Step

/-- What a step is about. -/
def part : Step → Part
  | .giveCode _ => .code
  | .giveSource _ => .source
  | .addLabel _ => .labels
  | .addLabels _ => .labels
  | .addHelp _ => .help
  | .addNote _ => .notes

/-- The code that a step gives. -/
def code? : Step → Option Text
  | .giveCode code => some code
  | _ => none

/-- The source that a step gives. -/
def source? : Step → Option Text
  | .giveSource source => some source
  | _ => none

/-- The labels that a step adds, in order. -/
def labels : Step → List Label
  | .addLabel label => [label]
  | .addLabels labels => labels
  | _ => []

/-- The pieces of advice that a step adds. -/
def help : Step → List Text
  | .addHelp message => [message]
  | _ => []

/-- The notes that a step adds. -/
def notes : Step → List Text
  | .addNote message => [message]
  | _ => []

end Step

/-- The report after one step. -/
def next (r : Report) : Step → Report
  | .giveCode code => r.withCode code
  | .giveSource source => r.withSource source
  | .addLabel label => r.withLabel label
  | .addLabels labels => r.withLabels labels
  | .addHelp message => r.withHelp message
  | .addNote message => r.withNote message

/-- The report after some steps. -/
def after (r : Report) (steps : List Step) : Report := steps.foldl next r

variable {steps others : List Step}

/-- A step changes what it is about and leaves everything else as it was. -/
theorem next_eq (r : Report) (step : Step) :
    r.next step = ⟨r.message, r.severity, step.code?.or r.code, step.source?.or r.source, r.labels ++ step.labels,
      r.help ++ step.help, r.notes ++ step.notes⟩ := by
  cases step <;>
    simp [next, withCode, withSource, withLabel, withLabels, withHelp, withNote, Step.code?, Step.source?,
      Step.labels, Step.help, Step.notes]

/-- Of the values that are given the last one counts, or else the one from before. -/
theorem getLast?_filterMap_cons_or {α β : Type} (given? : α → Option β) (a : α) (rest : List α) (old : Option β) :
    (((a :: rest).filterMap given?).getLast?).or old = ((rest.filterMap given?).getLast?).or ((given? a).or old) := by
  cases given : given? a with
  | none => rw [List.filterMap_cons_none given, Option.none_or]
  | some b => rw [List.filterMap_cons_some given, List.getLast?_cons, Option.some_or, Option.some_or, Option.or_some]

theorem after_concat (r : Report) (steps : List Step) (step : Step) :
    r.after (steps ++ [step]) = (r.after steps).next step := by
  rw [after, List.foldl_append]
  rfl

/-- What a chain of steps comes to. -/
theorem after_eq (r : Report) (steps : List Step) :
    r.after steps = ⟨r.message, r.severity, (steps.filterMap Step.code?).getLast?.or r.code,
      (steps.filterMap Step.source?).getLast?.or r.source, r.labels ++ steps.flatMap Step.labels,
      r.help ++ steps.flatMap Step.help, r.notes ++ steps.flatMap Step.notes⟩ := by
  induction steps generalizing r with
  | nil => simp [after]
  | cons step rest ih =>
      have onward : r.after (step :: rest) = (r.next step).after rest := rfl
      rw [onward, ih, next_eq]
      simp only [getLast?_filterMap_cons_or, List.flatMap_cons, List.append_assoc]

/-!
### The order of steps
-/

theorem filterMap_filter_part {β : Type} {given? : Step → Option β} {part : Part}
    (about : ∀ step, step.part ≠ part → given? step = none) (steps : List Step) :
    (steps.filter (·.part = part)).filterMap given? = steps.filterMap given? := by
  rw [List.filterMap_filter]
  apply List.filterMap_congr
  intro step _
  by_cases same : step.part = part
  · simp [same]
  · simp [same, about step same]

theorem flatMap_filter_part {β : Type} {added : Step → List β} {part : Part}
    (about : ∀ step, step.part ≠ part → added step = []) (steps : List Step) :
    (steps.filter (·.part = part)).flatMap added = steps.flatMap added := by
  induction steps with
  | nil => rfl
  | cons step rest ih =>
      by_cases same : step.part = part
      · rw [List.filter_cons_of_pos (by simpa using same), List.flatMap_cons, List.flatMap_cons, ih]
      · rw [List.filter_cons_of_neg (by simpa using same), List.flatMap_cons, about step same, List.nil_append, ih]

/-- A step says nothing of what it is not about. -/
theorem Step.eq_nil_of_part_ne (step : Step) :
    (step.part ≠ .code → step.code? = none) ∧ (step.part ≠ .source → step.source? = none) ∧
      (step.part ≠ .labels → step.labels = []) ∧ (step.part ≠ .help → step.help = []) ∧
      (step.part ≠ .notes → step.notes = []) := by
  cases step <;> simp [part, code?, source?, labels, help, notes]

/-- What comes of some steps depends only on their order among those about the same part. -/
theorem after_eq_of_filter (r : Report)
    (same : ∀ part, steps.filter (·.part = part) = others.filter (·.part = part)) : r.after steps = r.after others := by
  have given : ∀ (given? : Step → Option Text) (part : Part), (∀ step, step.part ≠ part → given? step = none) →
      steps.filterMap given? = others.filterMap given? := by
    intro given? part about
    rw [← filterMap_filter_part about steps, same, filterMap_filter_part about]
  have added : ∀ {β : Type} (added : Step → List β) (part : Part), (∀ step, step.part ≠ part → added step = []) →
      steps.flatMap added = others.flatMap added := by
    intro β added part about
    rw [← flatMap_filter_part about steps, same, flatMap_filter_part about]
  rw [after_eq, after_eq, given Step.code? .code fun step => step.eq_nil_of_part_ne.1,
    given Step.source? .source fun step => step.eq_nil_of_part_ne.2.1,
    added Step.labels .labels fun step => step.eq_nil_of_part_ne.2.2.1,
    added Step.help .help fun step => step.eq_nil_of_part_ne.2.2.2.1,
    added Step.notes .notes fun step => step.eq_nil_of_part_ne.2.2.2.2]

/-- Two neighbours about different parts can change places. -/
theorem after_swap (r : Report) (before rest : List Step) {a b : Step} (different : a.part ≠ b.part) :
    r.after (before ++ a :: b :: rest) = r.after (before ++ b :: a :: rest) := by
  apply after_eq_of_filter
  intro part
  by_cases of_a : a.part = part
  · have not_b : b.part ≠ part := fun of_b => different (of_a.trans of_b.symm)
    simp [List.filter_append, of_a, not_b]
  · simp [List.filter_append, List.filter_cons, of_a]

/-!
### Branching histories
-/

/-- A report made of an earlier one. -/
structure Derivation where
  parent : Nat
  step : Step

/-- Reports with one more, made of one of them. Nothing is made of a report that is not there. -/
def derive (reports : List Report) (d : Derivation) : List Report :=
  reports ++ (reports[d.parent]?.map fun parent => parent.next d.step).toList

/-- Reports to start with, and reports that are made one after the other, each of one that was there before. -/
structure History where
  roots : List Report
  derivations : List Derivation
  earlier : ∀ k (inside : k < derivations.length), derivations[k].parent < roots.length + k

namespace History

/-- All reports of a history, in the order in which they were made. -/
def reports (h : History) : List Report := h.derivations.foldl derive h.roots

/-- The report in some place of a history goes back to a root, by the steps on the way from there. -/
inductive Descends (h : History) : Nat → Report → List Step → Prop where
  | root {i : Nat} {r : Report} (start : h.roots[i]? = some r) : Descends h i r []
  | derived {k : Nat} {d : Derivation} {r : Report} {path : List Step} (made : h.derivations[k]? = some d)
      (parent : Descends h d.parent r path) : Descends h (h.roots.length + k) r (path ++ [d.step])

variable {present : List Report} {derivations : List Derivation}

/-- No report is changed by those that are made later. -/
theorem isPrefix_foldl_derive (present : List Report) (derivations : List Derivation) :
    present <+: derivations.foldl derive present := by
  induction derivations generalizing present with
  | nil => exact List.prefix_rfl
  | cons d rest ih => exact (List.prefix_append _ _).trans (ih (derive present d))

theorem getElem?_of_isPrefix {α : Type} {l later : List α} {i : Nat} {a : α} (start : l <+: later)
    (here : l[i]? = some a) : later[i]? = some a := by
  rcases List.getElem?_eq_some_iff.1 here with ⟨inside, rfl⟩
  exact List.prefix_iff_getElem?.1 start i inside

theorem derive_of_lt {d : Derivation} (known : d.parent < present.length) :
    derive present d = present ++ [present[d.parent].next d.step] := by
  rw [derive, List.getElem?_eq_getElem known, Option.map_some, Option.toList_some]

/-- Where each report is made of an earlier one, every derivation makes one. -/
theorem length_foldl_derive
    (earlier : ∀ k (inside : k < derivations.length), derivations[k].parent < present.length + k) :
    (derivations.foldl derive present).length = present.length + derivations.length := by
  induction derivations generalizing present with
  | nil => rfl
  | cons d rest ih =>
      have known : d.parent < present.length := earlier 0 (Nat.zero_lt_succ _)
      have length : (derive present d).length = present.length + 1 := by simp [derive_of_lt known]
      rw [List.foldl_cons, ih ?_, length, List.length_cons]
      · omega
      · intro k inside
        have later := earlier (k + 1) (Nat.succ_lt_succ inside)
        rw [List.getElem_cons_succ] at later
        omega

/-- What is made of a report stands behind those that were there, and stays. -/
theorem exists_parent_of_foldl_derive {d : Derivation} (known : d.parent < present.length) (later : List Derivation) :
    ∃ parent, ((d :: later).foldl derive present)[d.parent]? = some parent ∧
      ((d :: later).foldl derive present)[present.length]? = some (parent.next d.step) := by
  have start : present ++ [present[d.parent].next d.step] <+: (d :: later).foldl derive present := by
    rw [List.foldl_cons, derive_of_lt known]
    exact isPrefix_foldl_derive _ later
  refine ⟨present[d.parent], getElem?_of_isPrefix start ?_, getElem?_of_isPrefix start ?_⟩
  · rw [List.getElem?_append_left known, List.getElem?_eq_getElem known]
  · exact List.getElem?_concat_length

variable {h : History}

theorem length_reports (h : History) : h.reports.length = h.roots.length + h.derivations.length :=
  length_foldl_derive h.earlier

/-- The roots are the first reports. -/
theorem getElem?_reports_root {i : Nat} {r : Report} (start : h.roots[i]? = some r) : h.reports[i]? = some r :=
  getElem?_of_isPrefix (isPrefix_foldl_derive h.roots h.derivations) start

/-- Behind them each derivation has its report, which is one step further than its parent. -/
theorem getElem?_reports_derived {k : Nat} {d : Derivation} (made : h.derivations[k]? = some d) :
    ∃ parent, h.reports[d.parent]? = some parent ∧ h.reports[h.roots.length + k]? = some (parent.next d.step) := by
  rcases List.getElem?_eq_some_iff.1 made with ⟨inside, rfl⟩
  have split := List.take_append_drop k h.derivations
  rw [List.drop_eq_getElem_cons inside] at split
  -- When this report is made, those of the derivations before it are there, its parent among them.
  have length : ((h.derivations.take k).foldl derive h.roots).length = h.roots.length + k := by
    rw [length_foldl_derive, List.length_take, Nat.min_eq_left (Nat.le_of_lt inside)]
    intro j before
    rw [List.getElem_take]
    exact h.earlier j _
  have known := h.earlier k inside
  rw [← length] at known
  have whole := exists_parent_of_foldl_derive known (h.derivations.drop (k + 1))
  rwa [← List.foldl_append, split, length] at whole

/-- Where a report comes from says what it is. -/
theorem Descends.getElem?_reports {i : Nat} {r : Report} {path : List Step} (descends : h.Descends i r path) :
    h.reports[i]? = some (r.after path) := by
  induction descends with
  | root start => exact getElem?_reports_root start
  | derived made _ ih =>
      rcases getElem?_reports_derived made with ⟨parent, there, here⟩
      obtain rfl := Option.some.inj (ih.symm.trans there)
      rw [here, after_concat]

/-- Every report comes from somewhere. -/
theorem exists_descends (h : History) {i : Nat} (inside : i < h.reports.length) : ∃ r path, h.Descends i r path := by
  induction i using Nat.strongRecOn with
  | ind i ih =>
      rw [length_reports] at inside
      by_cases is_root : i < h.roots.length
      · exact ⟨h.roots[i], [], .root (List.getElem?_eq_getElem is_root)⟩
      · obtain ⟨k, rfl⟩ := Nat.exists_eq_add_of_le (Nat.not_lt.1 is_root)
        have of_k : k < h.derivations.length := by omega
        have earlier := h.earlier k of_k
        rcases ih _ earlier (by rw [length_reports]; omega) with ⟨r, path, descends⟩
        exact ⟨r, _, .derived (List.getElem?_eq_getElem of_k) descends⟩

/-- A report comes from one root in one way. -/
theorem Descends.unique {i : Nat} {r other : Report} {path also : List Step} (descends : h.Descends i r path)
    (again : h.Descends i other also) : r = other ∧ path = also := by
  induction descends generalizing other also with
  | root start =>
      cases again with
      | root also_start => exact ⟨Option.some.inj (start.symm.trans also_start), rfl⟩
      | derived => exact absurd (List.getElem?_eq_some_iff.1 start).1 (by omega)
  | @derived k d r path made _ ih =>
      generalize place : h.roots.length + k = i at again
      cases again with
      | root start => exact absurd (List.getElem?_eq_some_iff.1 start).1 (by omega)
      | derived also_made parent =>
          obtain rfl := Nat.add_left_cancel place
          obtain rfl := Option.some.inj (made.symm.trans also_made)
          rcases ih parent with ⟨same_root, rfl⟩
          exact ⟨same_root, rfl⟩

/-- What a history has made is still there when it goes on. -/
theorem reports_isPrefix {later : History} (same_roots : later.roots = h.roots)
    (goes_on : h.derivations <+: later.derivations) : h.reports <+: later.reports := by
  rcases goes_on with ⟨more, same⟩
  rw [reports, reports, same_roots, ← same, List.foldl_append]
  exact isPrefix_foldl_derive _ more

/-- A report is what the steps on its own way make of its root. -/
theorem getElem?_reports_iff {i : Nat} {report : Report} :
    h.reports[i]? = some report ↔ ∃ root path, h.Descends i root path ∧ report = root.after path := by
  constructor
  · intro here
    rcases h.exists_descends (List.getElem?_eq_some_iff.1 here).1 with ⟨root, path, descends⟩
    exact ⟨root, path, descends, Option.some.inj (here.symm.trans descends.getElem?_reports)⟩
  · rintro ⟨root, path, descends, rfl⟩
    exact descends.getElem?_reports

end History

/-- A chain of steps accumulates exactly what was said. Message and severity stay, of the codes and of the sources that
    are given the last one counts, and labels, advice and notes are added behind those that are there, in order. So
    steps about different parts can be taken in any order, and labels that are added together could have been added
    one after the other. Where reports are made of earlier ones, in whatever branches, each of them is what the
    steps on its own way from a root make of that root, and no report is changed by those that are made later. -/
theorem chain_accumulates (r : Report) (steps : List Step) :
    r.after steps =
      { message := r.message
        severity := r.severity
        code := (steps.filterMap Step.code?).getLast?.or r.code
        source := (steps.filterMap Step.source?).getLast?.or r.source
        labels := r.labels ++ steps.flatMap Step.labels
        help := r.help ++ steps.flatMap Step.help
        notes := r.notes ++ steps.flatMap Step.notes } ∧
    (∀ others : List Step, (∀ part, others.filter (·.part = part) = steps.filter (·.part = part)) →
      r.after others = r.after steps) ∧
    (∀ (before rest : List Step) (a b : Step), steps = before ++ a :: b :: rest → a.part ≠ b.part →
      r.after (before ++ b :: a :: rest) = r.after steps) ∧
    (∀ labels more : List Label, r.withLabels (labels ++ more) = (r.withLabels labels).withLabels more) ∧
    ∀ h : History,
      (∀ i report, h.reports[i]? = some report ↔ ∃ root path, h.Descends i root path ∧ report = root.after path) ∧
      (∀ i root path other also, h.Descends i root path → h.Descends i other also → root = other ∧ path = also) ∧
      ∀ later : History, later.roots = h.roots → h.derivations <+: later.derivations →
        h.reports <+: later.reports := by
  refine ⟨r.after_eq steps, fun others same => r.after_eq_of_filter same, ?_, ?_, fun h => ⟨?_, ?_, ?_⟩⟩
  · rintro before rest a b rfl different
    exact r.after_swap before rest different.symm
  · intro labels more
    rw [withLabels, withLabels, withLabels, List.append_assoc]
  · exact fun i report => History.getElem?_reports_iff
  · exact fun i root path other also descends again => descends.unique again
  · exact fun later same_roots goes_on => History.reports_isPrefix same_roots goes_on

/-- A label with a message. -/
def labelSample (message : Text) : Label := .secondary (.span (.position (.point .first))) (some message) none

/-- A warning from which two branches go out, one of them with labels and the other with a code and a note. -/
def History.branchingSample : History where
  roots := [.warning ['w']]
  derivations := [
    ⟨0, .giveCode ['c']⟩,
    ⟨0, .addLabel (labelSample ['a'])⟩,
    ⟨2, .addLabels [labelSample ['b'], labelSample ['d']]⟩,
    ⟨1, .addNote ['n']⟩]
  earlier := by decide

/-- The same up to the first label. -/
def History.branchingStart : History where
  roots := branchingSample.roots
  derivations := branchingSample.derivations.take 2
  earlier := by decide

theorem chain_accumulates_branching :
    (Step.giveCode ['c']).part ≠ (Step.addNote ['n']).part ∧
    (Report.warning ['w']).after [.addNote ['n'], .giveCode ['c']] =
      (Report.warning ['w']).after [.giveCode ['c'], .addNote ['n']] ∧
    History.branchingSample.Descends 4 (.warning ['w']) [.giveCode ['c'], .addNote ['n']] ∧
    History.branchingSample.reports[4]? =
      some { message := ['w'], severity := .warning, code := some ['c'], notes := [['n']] } ∧
    History.branchingSample.reports[3]? =
      some ((Report.warning ['w']).withLabels [labelSample ['a'], labelSample ['b'], labelSample ['d']]) ∧
    History.branchingStart.derivations <+: History.branchingSample.derivations ∧
    History.branchingStart.reports <+: History.branchingSample.reports := by
  obtain ⟨made, -, swap, -, histories⟩ :=
    chain_accumulates (.warning ['w']) [.giveCode ['c'], .addNote ['n']]
  have different : (Step.giveCode ['c']).part ≠ (Step.addNote ['n']).part := by decide
  have root : History.branchingSample.Descends 0 (.warning ['w']) [] := .root rfl
  have made_first : History.branchingSample.derivations[0]? = some ⟨0, .giveCode ['c']⟩ := rfl
  have made_last : History.branchingSample.derivations[3]? = some ⟨1, .addNote ['n']⟩ := rfl
  have first : History.branchingSample.Descends 1 (.warning ['w']) [.giveCode ['c']] := .derived made_first root
  have last : History.branchingSample.Descends 4 (.warning ['w']) [.giveCode ['c'], .addNote ['n']] :=
    .derived made_last first
  have start : History.branchingStart.derivations <+: History.branchingSample.derivations := List.take_prefix ..
  refine ⟨different, swap [] [] _ _ rfl different, last, ?_, rfl, start, (histories _).2.2 _ rfl start⟩
  rw [((histories _).1 4 _).2 ⟨_, _, last, rfl⟩, made]
  rfl

end Marginalia.Report
