/-
Module: NodeSync.Proofs.NodeTaints
Purpose: The taints that a node is given. Those of its machine, without repeats, and the cordon
  taints of the node make up a list without repeats. The difference from the taints of the node is
  empty exactly if the node has the same taints, turns them into the expected ones, and takes no
  cordon taint away. Computed for a node that has the expected taints, they are the same list.
Main exports: nodup_identities_foldl_addTaint, foldl_addTaint_of_fresh, exists_foldl_addTaint,
  expectedNodeTaints_again, mem_identities_taintDiff_iff, NodeTaintsSettled,
  expectedNodeTaints_settled
-/
import Mathlib.Data.List.Nodup
import NodeSync.Proofs.TaintSet

namespace NodeSync

set_option autoImplicit false

/-! ## Adding taints to a list without repeats -/

section Adding

variable {taints added : List Taint} {taint : Taint}

theorem addTaint_of_contained (contained : taint.identity ∈ identities taints) :
    addTaint taints taint = taints :=
  if_pos (containsTaint_iff.mpr contained)

theorem addTaint_of_fresh (fresh : taint.identity ∉ identities taints) :
    addTaint taints taint = taints ++ [taint] :=
  if_neg (mt containsTaint_iff.mp fresh)

theorem nodup_identities_addTaint (distinct : (identities taints).Nodup) (taint : Taint) :
    (identities (addTaint taints taint)).Nodup := by
  by_cases contained : taint.identity ∈ identities taints
  · rwa [addTaint_of_contained contained]
  · rw [addTaint_of_fresh contained, identities, List.map_append]
    refine List.nodup_append.mpr ⟨distinct, List.nodup_singleton _, ?_⟩
    rintro identity there _ here rfl
    cases List.mem_singleton.mp here
    exact contained there

theorem nodup_identities_foldl_addTaint (distinct : (identities taints).Nodup)
    (added : List Taint) : (identities (added.foldl addTaint taints)).Nodup := by
  induction added generalizing taints with
  | nil => exact distinct
  | cons taint rest ih => exact ih (nodup_identities_addTaint distinct taint)

/-- Dropping repeats leaves none. -/
theorem nodup_identities_dedupTaints (taints : List Taint) :
    (identities (dedupTaints taints).unique).Nodup := by
  have none : (identities []).Nodup := List.nodup_nil
  rw [dedupTaints_unique]
  exact nodup_identities_foldl_addTaint none taints

/-- Taints whose identities are there already add nothing. -/
theorem foldl_addTaint_of_contained
    (contained : ∀ taint ∈ added, taint.identity ∈ identities taints) :
    added.foldl addTaint taints = taints := by
  induction added with
  | nil => rfl
  | cons taint rest ih =>
      obtain ⟨first, others⟩ := List.forall_mem_cons.mp contained
      rw [List.foldl_cons, addTaint_of_contained first, ih others]

/-- Taints that make no repeats are appended as they are. -/
theorem foldl_addTaint_of_fresh (distinct : (identities (taints ++ added)).Nodup) :
    added.foldl addTaint taints = taints ++ added := by
  induction added generalizing taints with
  | nil => simp
  | cons taint rest ih =>
      have fresh : taint.identity ∉ identities taints := by
        rw [identities, List.map_append, List.nodup_append] at distinct
        exact fun there => distinct.2.2 _ there _ List.mem_cons_self rfl
      rw [List.append_cons] at distinct ⊢
      rw [List.foldl_cons, addTaint_of_fresh fresh, ih distinct]

/-- What adding taints appends is part of them. -/
theorem exists_foldl_addTaint (taints added : List Taint) :
    ∃ appended, appended.Sublist added ∧ added.foldl addTaint taints = taints ++ appended := by
  induction added generalizing taints with
  | nil => exact ⟨[], .slnil, by simp⟩
  | cons taint rest ih =>
      by_cases contained : taint.identity ∈ identities taints
      · obtain ⟨appended, part, same⟩ := ih taints
        refine ⟨appended, part.cons _, ?_⟩
        rw [List.foldl_cons, addTaint_of_contained contained, same]
      · obtain ⟨appended, part, same⟩ := ih (taints ++ [taint])
        refine ⟨taint :: appended, part.cons_cons _, ?_⟩
        rw [List.foldl_cons, addTaint_of_fresh contained, same, ← List.append_cons]

end Adding

/-! ## The taints of a node -/

section Expected

variable {machineTaints nodeTaints : List Taint}

/-- No cordon taint is added that the machine has as well, nor twice. -/
theorem nodup_identities_expectedNodeTaints (distinct : (identities machineTaints).Nodup) :
    (identities (expectedNodeTaints machineTaints nodeTaints)).Nodup :=
  nodup_identities_foldl_addTaint distinct _

/-- The taints expected of a node that has the expected taints are these. -/
theorem expectedNodeTaints_again (distinct : (identities machineTaints).Nodup) :
    expectedNodeTaints machineTaints (expectedNodeTaints machineTaints nodeTaints) =
      expectedNodeTaints machineTaints nodeTaints := by
  have whole : (identities (expectedNodeTaints machineTaints nodeTaints)).Nodup :=
    nodup_identities_expectedNodeTaints distinct
  obtain ⟨appended, part, same⟩ :=
    exists_foldl_addTaint machineTaints (nodeTaints.filter Taint.isCordon)
  have expected : expectedNodeTaints machineTaints nodeTaints = machineTaints ++ appended := same
  have cordons : appended.filter Taint.isCordon = appended :=
    List.filter_eq_self.mpr fun taint inside => (List.mem_filter.mp (part.subset inside)).2
  have ofMachine : ∀ taint ∈ machineTaints.filter Taint.isCordon,
      taint.identity ∈ identities machineTaints := fun taint inside =>
    mem_identities.mpr ⟨taint, (List.mem_filter.mp inside).1, rfl⟩
  rw [expected] at whole ⊢
  rw [expectedNodeTaints, List.filter_append, cordons, List.foldl_append,
    foldl_addTaint_of_contained ofMachine, foldl_addTaint_of_fresh whole]

/-- The cordon taints of a node are expected of it. -/
theorem mem_identities_expectedNodeTaints_of_cordon {taint : Taint} (inside : taint ∈ nodeTaints)
    (cordon : taint.isCordon = true) :
    taint.identity ∈ identities (expectedNodeTaints machineTaints nodeTaints) :=
  (mem_identities_expectedNodeTaints _ _ _).mpr (.inr (mem_identities.mpr
    ⟨taint, List.mem_filter.mpr ⟨inside, cordon⟩, rfl⟩))

end Expected

section Difference

variable {desired current : List Taint}

/-- What is not wanted is removed. -/
theorem mem_taintDiff_toRemove {taint : Taint} : taint ∈ (taintDiff desired current).toRemove ↔
    taint ∈ current ∧ taint.identity ∉ identities desired := by
  rw [taintDiff, List.mem_filter, Bool.not_eq_true', ← Bool.not_eq_true, containsTaint_iff]

/-- What is missing is added. -/
theorem mem_taintDiff_toAdd {taint : Taint} : taint ∈ (taintDiff desired current).toAdd ↔
    taint ∈ desired ∧ taint.identity ∉ identities current := by
  rw [taintDiff, List.mem_filter, Bool.not_eq_true', ← Bool.not_eq_true, containsTaint_iff]

/-- Taking the difference away from the current taints and adding to them gives the desired ones. -/
theorem mem_identities_taintDiff_iff (identity : Taint.Identity) :
    (identity ∈ identities current ∧ identity ∉ identities (taintDiff desired current).toRemove) ∨
        identity ∈ identities (taintDiff desired current).toAdd ↔
      identity ∈ identities desired := by
  constructor
  · rintro (⟨here, kept⟩ | added)
    · obtain ⟨taint, inside, rfl⟩ := mem_identities.mp here
      by_contra unwanted
      exact kept (mem_identities.mpr ⟨taint, mem_taintDiff_toRemove.mpr ⟨inside, unwanted⟩, rfl⟩)
    · obtain ⟨taint, inside, rfl⟩ := mem_identities.mp added
      exact mem_identities.mpr ⟨taint, (mem_taintDiff_toAdd.mp inside).1, rfl⟩
  · intro wanted
    obtain ⟨taint, inside, rfl⟩ := mem_identities.mp wanted
    by_cases here : taint.identity ∈ identities current
    · refine .inl ⟨here, fun removed => ?_⟩
      obtain ⟨other, taken, same⟩ := mem_identities.mp removed
      exact (mem_taintDiff_toRemove.mp taken).2 (same ▸ wanted)
    · exact .inr (mem_identities.mpr ⟨taint, mem_taintDiff_toAdd.mpr ⟨inside, here⟩, rfl⟩)

theorem taintDiff_self (taints : List Taint) : taintDiff taints taints = ⟨[], []⟩ := by
  have contained : ∀ taint ∈ taints, ¬(!containsTaint taints taint) = true := by
    intro taint inside
    rw [Bool.not_eq_true', Bool.not_eq_false]
    exact containsTaint_iff.mpr (mem_identities.mpr ⟨taint, inside, rfl⟩)
  rw [taintDiff, List.filter_eq_nil_iff.mpr contained]

end Difference

/-- What the taints of a machine and a node, the desired taints made of them and the changes to be
made amount to. -/
structure NodeTaintsSettled (machineTaints nodeTaints desired : List Taint) (diff : TaintDiff) :
    Prop where
  distinct : desired.Pairwise fun first second => sameTaint first second = false
  members : ∀ identity, identity ∈ identities desired ↔
    identity ∈ identities machineTaints ∨
      ∃ taint ∈ nodeTaints, taint.isCordon = true ∧ taint.identity = identity
  unchanged : diff.isEmpty = true ↔
    ∀ identity, identity ∈ identities desired ↔ identity ∈ identities nodeTaints
  applied : ∀ identity,
    (identity ∈ identities nodeTaints ∧ identity ∉ identities diff.toRemove) ∨
      identity ∈ identities diff.toAdd ↔ identity ∈ identities desired
  cordoned : ∀ taint ∈ nodeTaints, taint.isCordon = true → containsTaint diff.toRemove taint = false
  again : expectedNodeTaints (dedupTaints machineTaints).unique desired = desired
  settled : taintDiff desired desired = ⟨[], []⟩

/-- The taints that a node is given have no repeats, are those of the machine and the cordon taints
of the node, are reached by the changes, which spare the cordon taints, and stay as they are. -/
theorem expectedNodeTaints_settled (machineTaints nodeTaints : List Taint) :
    NodeTaintsSettled machineTaints nodeTaints
      (expectedNodeTaints (dedupTaints machineTaints).unique nodeTaints)
      (taintDiff (expectedNodeTaints (dedupTaints machineTaints).unique nodeTaints)
        nodeTaints) := by
  have unique := nodup_identities_dedupTaints machineTaints
  constructor
  case distinct =>
    have whole : (identities
        (expectedNodeTaints (dedupTaints machineTaints).unique nodeTaints)).Nodup :=
      nodup_identities_expectedNodeTaints unique
    exact (List.pairwise_map.mp whole).imp fun differ => beq_false_of_ne differ
  case members =>
    intro identity
    rw [mem_identities_expectedNodeTaints, mem_identities_dedupTaints, mem_identities]
    simp only [mem_identities, List.mem_filter, and_assoc]
  case unchanged => exact taintDiff_isEmpty_iff
  case applied => exact mem_identities_taintDiff_iff
  case cordoned =>
    intro taint inside cordon
    rw [Bool.eq_false_iff]
    intro removed
    obtain ⟨other, taken, same⟩ := mem_identities.mp (containsTaint_iff.mp removed)
    refine (mem_taintDiff_toRemove.mp taken).2 ?_
    rw [same]
    exact mem_identities_expectedNodeTaints_of_cordon inside cordon
  case again => exact expectedNodeTaints_again unique
  case settled => exact taintDiff_self _

end NodeSync
