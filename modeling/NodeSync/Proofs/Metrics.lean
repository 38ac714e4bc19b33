/-
Module: NodeSync.Proofs.Metrics
Purpose: What the published numbers of failures say. A sample counts the reports whose label values
  have the same fingerprint, under the labels that were reported first. So each object has samples
  of its own exactly if no two different label values that were reported have the same fingerprint;
  those with the same concatenation do.
Main exports: Series.ofReports, Series.key_eq_of_join_eq, Series.get?_ofReports, Series.Attributed,
  Series.Pooled, Series.Separate, Series.Legible, Metrics.failures_attributed_iff
-/
import Mathlib.Data.List.Induction
import Mathlib.Data.List.Nodup
import NodeSync.Proofs.Maps
import NodeSync.Proofs.Metrics.Exposition

namespace NodeSync

set_option autoImplicit false

namespace Series

/-! ## Fingerprints -/

/-- The bytes of texts written one after the other. -/
theorem textBytes_join (texts : List String) :
    textBytes (String.join texts) = texts.flatMap textBytes := by
  rw [textBytes, String.toList_join, List.flatMap_assoc]
  rfl

/-- Where one label value ends and the next one begins cannot be told from a fingerprint. -/
theorem key_eq_of_join_eq {labels other : List String}
    (same : String.join labels = String.join other) : key labels = key other := by
  rw [key, key, ← textBytes_join, ← textBytes_join, same]

/-! ## Counting -/

/-- The samples that count reports of label values. -/
def ofReports (reports : List (List String)) : Series :=
  reports.foldl (fun series labels => series.update labels (· + 1)) SortedMap.empty

/-- The label values are reported before all others with the same fingerprint. -/
def First (reports : List (List String)) (labels : List String) : Prop :=
  reports.find? (fun other => key other == key labels) = some labels

/-- How many reports have the fingerprint of the label values. -/
def tally (reports : List (List String)) (labels : List String) : Nat :=
  reports.countP fun other => key other == key labels

section Reports

variable {reports : List (List String)} {labels : List String} {sample : Sample}

theorem get?_update (series : Series) (labels : List String) (change : UInt64 → UInt64)
    (under : UInt64) :
    (series.update labels change).get? under =
      if key labels = under then
        let sample := (series.get? under).getD ⟨labels, 0⟩
        some { sample with value := change sample.value }
      else series.get? under := by
  rw [update]
  split
  · rename_i same
    subst same
    rw [SortedMap.get?_insert_self]
  · rename_i different
    rw [SortedMap.get?_insert_of_ne _ (Ne.symm different)]

/-- A sample has the labels that were reported first and the number of all reports. -/
theorem get?_ofReports (reports : List (List String)) (under : UInt64) :
    (ofReports reports).get? under = (reports.find? (key · == under)).map fun first =>
      ⟨first, .ofNat (reports.countP (key · == under))⟩ := by
  -- From the end: the last report changes one sample, and only the first of its kind names it.
  induction reports using List.reverseRecOn with
  | nil => rfl
  | append_singleton reports labels ih =>
      have step : ofReports (reports ++ [labels]) = (ofReports reports).update labels (· + 1) := by
        rw [ofReports, List.foldl_append]
        rfl
      rw [step, get?_update, ih, List.find?_append, List.countP_append]
      by_cases same : key labels = under
      · cases found : reports.find? (key · == under) with
        | none =>
            have unreported : reports.countP (key · == under) = 0 :=
              List.countP_eq_zero.mpr fun other inside => by
                simpa using List.find?_eq_none.mp found other inside
            simp [same, unreported]
        | some first => simp [same]
      · simp [same]

/-- A sample is kept under the fingerprint of its own labels. -/
theorem key_of_get? {under : UInt64} (found : (ofReports reports).get? under = some sample) :
    key sample.labels = under := by
  rw [get?_ofReports] at found
  obtain ⟨first, listed, rfl⟩ := Option.map_eq_some_iff.mp found
  have same := List.find?_some listed
  exact beq_iff_eq.mp same

theorem perm_samples (series : Series) : series.samples.Perm series.values :=
  List.mergeSort_perm _ _

/-- There is a sample for each fingerprint, with the labels that were reported first and the number
of all reports. -/
theorem mem_samples_iff : sample ∈ (ofReports reports).samples ↔
    First reports sample.labels ∧ sample.value = .ofNat (tally reports sample.labels) := by
  rw [(perm_samples _).mem_iff]
  constructor
  · intro inside
    obtain ⟨⟨under, value⟩, entry, rfl⟩ := List.mem_map.mp inside
    have found := SortedMap.get?_eq_some_iff_mem.mpr entry
    rw [← key_of_get? found, get?_ofReports] at found
    obtain ⟨first, listed, same⟩ := Option.map_eq_some_iff.mp found
    have labels : first = value.labels := congrArg Sample.labels same
    exact ⟨labels ▸ listed, (congrArg Sample.value same).symm⟩
  · rintro ⟨listed, value⟩
    have found : (ofReports reports).get? (key sample.labels) = some sample := by
      rw [First] at listed
      rw [get?_ofReports, listed, Option.map_some, ← tally, ← value]
    exact List.mem_map.mpr ⟨_, SortedMap.get?_eq_some_iff_mem.mp found, rfl⟩

/-- There is one sample for each fingerprint. -/
theorem nodup_samples (reports : List (List String)) :
    ((ofReports reports).samples.map fun sample => key sample.labels).Nodup := by
  rw [((perm_samples _).map _).nodup_iff, SortedMap.values, List.map_map]
  have keys : (ofReports reports).entries.map ((fun sample => key sample.labels) ∘ (·.2)) =
      (ofReports reports).entries.map (·.1) :=
    List.map_congr_left fun entry inside =>
      key_of_get? (SortedMap.get?_eq_some_iff_mem.mpr inside)
  rw [keys]
  exact SortedMap.nodup_keys _

/-- Samples with the same fingerprint are the same. -/
theorem eq_of_mem_samples {sample' : Sample} (inside : sample ∈ (ofReports reports).samples)
    (inside' : sample' ∈ (ofReports reports).samples)
    (same : key sample.labels = key sample'.labels) : sample = sample' :=
  List.inj_on_of_nodup_map (nodup_samples reports) inside inside' same

/-- Labels that were reported first have exactly one sample. -/
theorem filter_samples (first : First reports labels) :
    (ofReports reports).samples.filter (fun sample => sample.labels = labels) =
      [⟨labels, .ofNat (tally reports labels)⟩] := by
  have inside : ⟨labels, .ofNat (tally reports labels)⟩ ∈ (ofReports reports).samples :=
    mem_samples_iff.mpr ⟨first, rfl⟩
  have nodup : (ofReports reports).samples.Nodup := (nodup_samples reports).of_map
  calc (ofReports reports).samples.filter (fun sample => sample.labels = labels)
      = (ofReports reports).samples.filter (· = ⟨labels, .ofNat (tally reports labels)⟩) := by
        refine List.filter_congr fun sample present => decide_eq_decide.mpr ⟨?_, ?_⟩
        · rintro rfl
          exact eq_of_mem_samples present inside rfl
        · rintro rfl
          rfl
    _ = [⟨labels, .ofNat (tally reports labels)⟩] := by
        rw [List.filter_eq, List.count_eq_one_of_mem nodup inside]
        rfl

end Reports

/-! ## What the lines say -/

/-- Each of the reported label values has one line, with the number of its reports, and there is no
other line. -/
structure Attributed (info : FamilyInfo) (reports : List (List String))
    (lines : List (List Char)) : Prop where
  each : ∀ labels ∈ reports,
    lines.filter (info.Carries labels) = [info.exactLine labels (reports.count labels)]
  only : ∀ line ∈ lines, ∃ labels ∈ reports, info.Carries labels line

/-- The first of the label values with one fingerprint have one line, with the number of reports
that have this fingerprint, and there is no other line. -/
structure Pooled (info : FamilyInfo) (reports : List (List String))
    (lines : List (List Char)) : Prop where
  each : ∀ labels ∈ reports, ∃ first, First reports first ∧ key first = key labels ∧
    lines.filter (info.Carries first) = [info.line ⟨first, .ofNat (tally reports first)⟩]
  only : ∀ line ∈ lines, ∃ first, First reports first ∧ info.Carries first line

/-- Different label values have different fingerprints. -/
def Separate (reports : List (List String)) : Prop :=
  ∀ labels ∈ reports, ∀ other ∈ reports, key labels = key other → labels = other

/-- No number of reports is too great to be written as it is. -/
def Legible (reports : List (List String)) : Prop :=
  ∀ labels ∈ reports,
    FamilyInfo.printNumber (.ofNat (reports.count labels)) = Text.decimal (reports.count labels)

section Lines

variable {info : FamilyInfo} {reports : List (List String)}

/-- The lines of the samples that count reports. -/
def reportLines (info : FamilyInfo) (reports : List (List String)) : List (List Char) :=
  (ofReports reports).samples.map info.line

theorem mem_of_first {labels : List String} (first : First reports labels) : labels ∈ reports :=
  List.mem_of_find?_eq_some first

/-- Whatever was reported, some labels of its fingerprint came first. -/
theorem exists_first {labels : List String} (inside : labels ∈ reports) :
    ∃ first, First reports first ∧ key first = key labels := by
  have listed : (reports.find? fun other => key other == key labels).isSome = true :=
    List.find?_isSome.mpr ⟨labels, inside, beq_iff_eq.mpr rfl⟩
  obtain ⟨first, found⟩ := Option.isSome_iff_exists.mp listed
  have matching := List.find?_some found
  have same : key first = key labels := beq_iff_eq.mp matching
  exact ⟨first, by rw [First, same, found], same⟩

section Lengths

variable (lengths : ∀ labels ∈ reports, labels.length = info.labelNames.length)

include lengths

theorem carries_line_iff_of_mem {labels : List String} {sample : Sample}
    (inside : labels ∈ reports) (present : sample ∈ (ofReports reports).samples) :
    info.Carries labels (info.line sample) ↔ sample.labels = labels :=
  FamilyInfo.carries_line_iff (lengths labels inside)
    (lengths _ (mem_of_first (mem_samples_iff.mp present).1))

theorem filter_reportLines {labels : List String} (first : First reports labels) :
    (reportLines info reports).filter (info.Carries labels) =
      [info.line ⟨labels, .ofNat (tally reports labels)⟩] := by
  have samples : (ofReports reports).samples.filter
      ((fun line => decide (info.Carries labels line)) ∘ info.line) =
      (ofReports reports).samples.filter (fun sample => sample.labels = labels) :=
    List.filter_congr fun sample present =>
      decide_eq_decide.mpr (carries_line_iff_of_mem lengths (mem_of_first first) present)
  rw [reportLines, List.filter_map, samples, filter_samples first]
  rfl

theorem pooled_reportLines : Pooled info reports (reportLines info reports) := by
  constructor
  · intro labels inside
    obtain ⟨first, listed, same⟩ := exists_first inside
    exact ⟨first, listed, same, filter_reportLines lengths listed⟩
  · intro line inside
    obtain ⟨sample, present, rfl⟩ := List.mem_map.mp inside
    have first := (mem_samples_iff.mp present).1
    exact ⟨sample.labels, first,
      (carries_line_iff_of_mem lengths (mem_of_first first) present).mpr rfl⟩

/-- Reports that are separate are first among those with their fingerprint, and counted for
themselves. -/
theorem filter_reportLines_of_separate (separate : Separate reports) {labels : List String}
    (inside : labels ∈ reports) :
    (reportLines info reports).filter (info.Carries labels) =
      [info.line ⟨labels, .ofNat (reports.count labels)⟩] := by
  obtain ⟨first, listed, same⟩ := exists_first inside
  have own := separate first (mem_of_first listed) labels inside same
  subst own
  have count : tally reports first = reports.count first :=
    List.countP_congr fun other present => by
      simp only [beq_iff_eq]
      exact ⟨separate other present first inside, congrArg key⟩
  rw [filter_reportLines lengths listed, count]

/-- So their lines are attributed, if they are legible. -/
theorem attributed_of_separate (separate : Separate reports) (legible : Legible reports) :
    Attributed info reports (reportLines info reports) := by
  constructor
  · intro labels inside
    rw [filter_reportLines_of_separate lengths separate inside,
      FamilyInfo.line_eq_exactLine_iff.mpr (legible labels inside)]
  · intro line inside
    obtain ⟨first, listed, carries⟩ := (pooled_reportLines lengths).only line inside
    exact ⟨first, mem_of_first listed, carries⟩

/-- Only one of two label values with the same fingerprint has a sample. -/
theorem separate_of_attributed (attributed : Attributed info reports (reportLines info reports)) :
    Separate reports := by
  intro labels inside other inside' same
  have exists_sample {labels : List String} (inside : labels ∈ reports) :
      ∃ sample ∈ (ofReports reports).samples, sample.labels = labels := by
    have found : info.exactLine labels (reports.count labels) ∈
        (reportLines info reports).filter (info.Carries labels) := by
      rw [attributed.each labels inside]
      exact List.mem_singleton_self _
    obtain ⟨listed, carries⟩ := List.mem_filter.mp found
    obtain ⟨sample, present, is⟩ := List.mem_map.mp listed
    rw [← is] at carries
    exact ⟨sample, present,
      (carries_line_iff_of_mem lengths inside present).mp (of_decide_eq_true carries)⟩
  -- Both have a sample, but there is only one for their fingerprint.
  obtain ⟨sample, present, rfl⟩ := exists_sample inside
  obtain ⟨sample', present', rfl⟩ := exists_sample inside'
  rw [eq_of_mem_samples present present' same]

/-- If each report is told from the text by its line, the number in that line is written in full. -/
theorem legible_of_attributed (attributed : Attributed info reports (reportLines info reports)) :
    Legible reports := by
  intro labels inside
  have separate := separate_of_attributed lengths attributed
  have lines := attributed.each labels inside
  rw [filter_reportLines_of_separate lengths separate inside] at lines
  exact FamilyInfo.line_eq_exactLine_iff.mp (List.singleton_inj.mp lines)

end Lengths

/-- So many reports are never made. -/
theorem legible_of_length_lt (few : reports.length < 2 * Double.leadingBit) : Legible reports :=
  fun _ _ => FamilyInfo.printNumber_of_lt (Nat.lt_of_le_of_lt List.count_le_length few)

end Lines

end Series

/-! ## Reported failures -/

namespace FailureReport

/-- The label values under which a failure is counted. -/
def labels (failure : FailureReport) : List String := [failure.name, failure.ns, failure.reason]

/-- The label values that are reported to the family of a kind. -/
def reportedTo (kind : FailureKind) (failures : List FailureReport) : List (List String) :=
  (failures.filter fun failure => failure.kind = kind).map labels

theorem length_of_mem_reportedTo {kind : FailureKind} {failures : List FailureReport}
    {labels : List String} (inside : labels ∈ reportedTo kind failures) :
    labels.length = (Family.failures kind).info.labelNames.length := by
  obtain ⟨failure, -, rfl⟩ := List.mem_map.mp inside
  cases kind <;> rfl

end FailureReport

namespace Metrics

open FailureReport Series

variable {metrics : Metrics} {kind : FailureKind} {failure : FailureReport}
  {failures : List FailureReport} {family : Family}

/-- A failure is counted in the family of its kind alone. -/
theorem family_record : (metrics.record failure).family family =
    if family = .failures failure.kind then
      (metrics.family family).update failure.labels (· + 1)
    else metrics.family family := by
  obtain ⟨kind, name, ns, reason⟩ := failure
  rcases family with _ | (_ | _) <;> cases kind <;> rfl

/-- A family changes by the reports of its own kind alone. -/
theorem family_foldl_record (failures : List FailureReport) (metrics : Metrics) :
    (failures.foldl record metrics).family (.failures kind) =
      (reportedTo kind failures).foldl (fun series labels => series.update labels (· + 1))
        (metrics.family (.failures kind)) := by
  induction failures generalizing metrics with
  | nil => rfl
  | cons failure failures ih =>
      rw [List.foldl_cons, ih, family_record, reportedTo, reportedTo, List.filter_cons]
      by_cases own : failure.kind = kind
      · simp [own]
      · simp [own, Ne.symm own]

theorem family_foldl_record_of_foreign
    (foreign : ∀ failure ∈ failures, family ≠ .failures failure.kind) (metrics : Metrics) :
    (failures.foldl record metrics).family family = metrics.family family := by
  induction failures generalizing metrics with
  | nil => rfl
  | cons failure failures ih =>
      obtain ⟨first, others⟩ := List.forall_mem_cons.mp foreign
      rw [List.foldl_cons, ih others, family_record, if_neg first]

/-- The lines of a family after failures are those of its own reports. -/
theorem published_ofFailures (kind : FailureKind) (failures : List FailureReport) :
    (ofFailures failures).published (.failures kind) =
      reportLines (Family.failures kind).info (reportedTo kind failures) := by
  have start : empty.family (.failures kind) = SortedMap.empty := by cases kind <;> rfl
  rw [published_eq, ofFailures, family_foldl_record, start]
  rfl

/-- Each object has a line of its own with the number of its reports exactly if no two different
label values that were reported have the same fingerprint, and no number is too great to be written
as it is; none is with fewer reports than `2 ^ 53`. Label values with the same fingerprint, such as
those with the same concatenation, share the line of the first of them. No other family is
affected. -/
theorem failures_attributed_iff (failures : List FailureReport) (kind : FailureKind) :
    let info := (Family.failures kind).info
    let reports := reportedTo kind failures
    let lines := (ofFailures failures).published (.failures kind)
    (Attributed info reports lines ↔ Separate reports ∧ Legible reports) ∧
      (reports.length < 2 ^ 53 → Legible reports) ∧
      Pooled info reports lines ∧
      (∀ labels other : List String,
        String.join labels = String.join other → key labels = key other) ∧
      ∀ metrics family, (∀ failure ∈ failures, family ≠ .failures failure.kind) →
        (failures.foldl record metrics).published family = metrics.published family := by
  have lengths {labels : List String} (inside : labels ∈ reportedTo kind failures) :=
    length_of_mem_reportedTo inside
  intro info reports lines
  have own : lines = reportLines info reports := published_ofFailures kind failures
  rw [own]
  refine ⟨⟨fun attributed => ⟨?_, ?_⟩, fun apart => ?_⟩, legible_of_length_lt, ?_,
    fun _ _ => key_eq_of_join_eq, ?_⟩
  · exact separate_of_attributed (fun _ => lengths) attributed
  · exact legible_of_attributed (fun _ => lengths) attributed
  · exact attributed_of_separate (fun _ => lengths) apart.1 apart.2
  · exact pooled_reportLines fun _ => lengths
  · intro metrics family foreign
    rw [published_eq, published_eq, family_foldl_record_of_foreign foreign]

/-- Label values with different concatenations can share a line, too. -/
example : key ["8yn0iYCKYHlIj4-BwPqk", "", "Conflict"] =
    key ["GReLUrM4wMqfg9yzV3KQ", "", "Conflict"] := by decide +kernel

/-- A machine, and a node whose name is that of the machine with its namespace. -/
def workerFailures : List FailureReport :=
  [⟨.label, "worker-0", "openshift-machine-api", "Conflict"⟩,
    ⟨.label, "worker-0openshift-machine-api", "", "Conflict"⟩]

/-- The failure of the node is counted for the machine. -/
theorem workerFailures_pooled :
    (ofFailures workerFailures).published (.failures .label) =
      [("mnmo_label_update_failed\x7bname=\"worker-0\"," ++
        "namespace=\"openshift-machine-api\",reason=\"Conflict\"\x7d 2").toList] ∧
    ¬Attributed FamilyInfo.labelFailures (reportedTo .label workerFailures)
      ((ofFailures workerFailures).published (.failures .label)) := by
  have shared : ¬Separate (reportedTo .label workerFailures) := by
    intro separate
    have same := separate _ (List.mem_cons_self) _ (List.mem_cons_of_mem _ List.mem_cons_self)
      (key_eq_of_join_eq rfl)
    revert same
    decide
  constructor
  · rw [published_ofFailures]
    decide +kernel
  · rw [published_ofFailures]
    intro attributed
    exact shared (separate_of_attributed (fun _ => length_of_mem_reportedTo) attributed)

end Metrics

end NodeSync
