/-
Module: NodeSync.Proofs.TaintSet.Repeats
Purpose: How dropping repeats splits a list of taints. Having the same identity is an equivalence.
  A taint is kept exactly if none of the taints before it in the list has its identity, and both
  parts keep their order; so nothing is lost, what is kept has no repeats, and what is dropped has
  the identity of something kept.
Main exports: equivalence_sameTaint, taintsAfter, dedupTaints_append_singleton, dedupTaints_eq,
  dedupTaints_of_distinct, SplitByRepeats, dedupTaints_splitByRepeats
-/
import Mathlib.Data.List.Induction
import Mathlib.Data.List.Perm.Basic
import NodeSync.Proofs.NodeTaints

namespace NodeSync

set_option autoImplicit false

/-! ## Having the same identity -/

theorem sameTaint_iff_identity {first second : Taint} :
    sameTaint first second = true ↔ first.identity = second.identity :=
  beq_iff_eq

/-- Taints are the same if key, value and effect agree, where no value is an empty one. The time
at which they were added does not count. -/
theorem sameTaint_iff {first second : Taint} : sameTaint first second = true ↔
    first.key = second.key ∧ first.value.getD "" = second.value.getD "" ∧
      first.effect = second.effect := by
  rw [sameTaint_iff_identity, Taint.identity, Taint.identity, Taint.Identity.mk.injEq]

theorem equivalence_sameTaint :
    Equivalence fun first second => sameTaint first second = true where
  refl _ := sameTaint_iff_identity.mpr rfl
  symm same := sameTaint_iff_identity.mpr (sameTaint_iff_identity.mp same).symm
  trans same again := sameTaint_iff_identity.mpr
    ((sameTaint_iff_identity.mp same).trans (sameTaint_iff_identity.mp again))

/-! ## Splitting by what stands before -/

section Splitting

variable (test : List Taint → Taint → Bool) (taints : List Taint)

/-- The taints of a list that pass a test on the taints before them, in their order. -/
def taintsAfter : List Taint :=
  (taints.zipIdx.filter fun placed => test (taints.take placed.2) placed.1).map (·.1)

/-- A taint at the end is tested on all others, and does not matter to them. -/
theorem taintsAfter_append_singleton (taint : Taint) :
    taintsAfter test (taints ++ [taint]) =
      taintsAfter test taints ++ [taint].filter (test taints) := by
  have before : ∀ placed ∈ taints.zipIdx,
      (taints ++ [taint]).take placed.2 = taints.take placed.2 := by
    intro placed inside
    exact List.take_append_of_le_length (Nat.le_of_lt (List.snd_lt_of_mem_zipIdx inside))
  rw [taintsAfter, List.zipIdx_append, List.filter_append, List.map_append]
  congr 1
  · rw [taintsAfter, List.filter_congr fun placed inside => by rw [before placed inside]]
  · cases passed : test taints taint <;> simp [passed]

/-- Every taint either passes the test or does not. -/
theorem perm_taintsAfter :
    (taintsAfter (fun earlier taint => !test earlier taint) taints ++ taintsAfter test taints).Perm
      taints := by
  have placed := List.perm_append_comm.trans (List.filter_append_perm
    (fun placed : Taint × Nat => test (taints.take placed.2) placed.1) taints.zipIdx)
  have unplaced := placed.map (·.1)
  rwa [List.map_append, List.zipIdx_map_fst] at unplaced

end Splitting

/-! ## Dropping repeats -/

theorem dedupTaints_append_singleton (taints : List Taint) (taint : Taint) :
    dedupTaints (taints ++ [taint]) = (dedupTaints taints).add taint := by
  rw [dedupTaints, List.foldl_append]
  rfl

/-- A taint has the identity of one that was kept exactly if it has the identity of any. -/
theorem containsTaint_dedupTaints (taints : List Taint) (taint : Taint) :
    containsTaint (dedupTaints taints).unique taint = containsTaint taints taint := by
  rw [Bool.eq_iff_iff, containsTaint_iff, containsTaint_iff, mem_identities_dedupTaints]

/-- The taints that are kept are new to the ones before them, and the others are not. -/
theorem dedupTaints_eq (taints : List Taint) : dedupTaints taints =
    ⟨taintsAfter (fun earlier taint => !containsTaint earlier taint) taints,
      taintsAfter containsTaint taints⟩ := by
  -- From the end of the list, so that what stands before a taint is what was gone through.
  induction taints using List.reverseRecOn with
  | nil => rfl
  | append_singleton taints taint ih =>
      rw [dedupTaints_append_singleton, DedupedTaints.add, containsTaint_dedupTaints,
        taintsAfter_append_singleton, taintsAfter_append_singleton, ih]
      cases repeated : containsTaint taints taint <;> simp [repeated]

/-- Dropping repeats where there are none keeps the list. -/
theorem dedupTaints_of_distinct {taints : List Taint} (distinct : (identities taints).Nodup) :
    dedupTaints taints = ⟨taints, []⟩ := by
  have unique : (dedupTaints taints).unique = taints := by
    rw [dedupTaints_unique]
    exact foldl_addTaint_of_fresh distinct
  have duplicates : (dedupTaints taints).duplicates = [] :=
    duplicates_dedupTaints_eq_nil_iff.mpr (not_repeatsTaint_iff.mpr distinct)
  calc dedupTaints taints
      = ⟨(dedupTaints taints).unique, (dedupTaints taints).duplicates⟩ := rfl
    _ = ⟨taints, []⟩ := by rw [unique, duplicates]

/-- What a split of a list of taints into the first ones and the repeats amounts to. -/
structure SplitByRepeats (taints : List Taint) (split : DedupedTaints) : Prop where
  /-- Kept are the taints with no earlier one of the same identity, in their order. -/
  firsts : split.unique = taintsAfter (fun earlier taint => !containsTaint earlier taint) taints
  /-- Dropped are the others, in their order. -/
  others : split.duplicates = taintsAfter containsTaint taints
  together : (split.unique ++ split.duplicates).Perm taints
  distinct : split.unique.Pairwise fun first second => sameTaint first second = false
  known : ∀ taint ∈ split.duplicates, ∃ first ∈ split.unique, sameTaint first taint = true
  lossless : split.duplicates = [] ↔ ¬RepeatsTaint taints
  again : dedupTaints split.unique = ⟨split.unique, []⟩

/-- Having the same key, value and effect divides taints into classes, and dropping repeats keeps
the first taint of each class and drops the others, both in their order. -/
theorem dedupTaints_splitByRepeats :
    (∀ first second, sameTaint first second = true ↔
        first.key = second.key ∧ first.value.getD "" = second.value.getD "" ∧
          first.effect = second.effect) ∧
      (Equivalence fun first second => sameTaint first second = true) ∧
      ∀ taints, SplitByRepeats taints (dedupTaints taints) := by
  refine ⟨fun _ _ => sameTaint_iff, equivalence_sameTaint, fun taints => ?_⟩
  have unique := nodup_identities_dedupTaints taints
  have together : ((dedupTaints taints).unique ++ (dedupTaints taints).duplicates).Perm taints := by
    rw [dedupTaints_eq]
    exact perm_taintsAfter containsTaint taints
  constructor
  case firsts => rw [dedupTaints_eq]
  case others => rw [dedupTaints_eq]
  case together => exact together
  case distinct => exact (List.pairwise_map.mp unique).imp fun differ => beq_false_of_ne differ
  case known =>
    intro taint dropped
    have inside : taint ∈ taints := together.subset (List.mem_append_right _ dropped)
    have contained : containsTaint (dedupTaints taints).unique taint = true := by
      rw [containsTaint_dedupTaints, containsTaint_iff]
      exact mem_identities.mpr ⟨taint, inside, rfl⟩
    exact List.any_eq_true.mp contained
  case lossless => exact duplicates_dedupTaints_eq_nil_iff
  case again => exact dedupTaints_of_distinct unique

/-- A missing value is an empty one, and another value makes another taint. -/
example :
    dedupTaints [⟨"dedicated", none, "NoSchedule", none⟩,
        ⟨"dedicated", "infra", "NoSchedule", none⟩, ⟨"dedicated", "", "NoSchedule", none⟩] =
      ⟨[⟨"dedicated", none, "NoSchedule", none⟩, ⟨"dedicated", "infra", "NoSchedule", none⟩],
        [⟨"dedicated", "", "NoSchedule", none⟩]⟩ := by
  decide

end NodeSync
