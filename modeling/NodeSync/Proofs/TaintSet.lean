/-
Module: NodeSync.Proofs.TaintSet
Purpose: Lists of taints as the sets of their identities. Dropping repeats keeps the identities and
  sets something aside only if there are repeats, the taints expected of a node are those of its
  machine and the cordon taints it has, two lists have no difference if they have the same
  identities, and what is expected of a node that was given the expected taints differs from them
  in nothing.
Main exports: identities, containsTaint_iff, dedupTaints_unique, mem_identities_dedupTaints,
  RepeatsTaint, duplicates_dedupTaints_eq_nil_iff, mem_identities_expectedNodeTaints,
  taintDiff_isEmpty_iff, taintDiff_expectedNodeTaints_isEmpty
-/
import NodeSync.TaintSet

namespace NodeSync

set_option autoImplicit false

/-- The identities of the taints of a list. -/
def identities (taints : List Taint) : List Taint.Identity := taints.map Taint.identity

@[simp] theorem identities_nil : identities [] = [] := rfl

theorem mem_identities {taints : List Taint} {identity : Taint.Identity} :
    identity ∈ identities taints ↔ ∃ taint ∈ taints, taint.identity = identity :=
  List.mem_map

theorem containsTaint_iff {taints : List Taint} {taint : Taint} :
    containsTaint taints taint = true ↔ taint.identity ∈ identities taints := by
  rw [containsTaint, List.any_eq_true, mem_identities]
  simp [sameTaint]

/-- Whether a taint cordons its node is a matter of its identity. -/
theorem isCordon_congr {first second : Taint} (same : first.identity = second.identity) :
    first.isCordon = second.isCordon := by
  have key : first.key = second.key := congrArg Taint.Identity.key same
  have effect : first.effect = second.effect := congrArg Taint.Identity.effect same
  rw [Taint.isCordon, Taint.isCordon, key, effect]

/-! ## Adding taints -/

theorem mem_identities_addTaint (taints : List Taint) (taint : Taint) (identity : Taint.Identity) :
    identity ∈ identities (addTaint taints taint) ↔
      identity ∈ identities taints ∨ identity = taint.identity := by
  rw [addTaint]
  split
  · rename_i repeated
    constructor
    · exact Or.inl
    · rintro (there | rfl)
      · exact there
      · exact containsTaint_iff.mp repeated
  · simp [identities]

theorem mem_identities_foldl_addTaint (added start : List Taint) (identity : Taint.Identity) :
    identity ∈ identities (added.foldl addTaint start) ↔
      identity ∈ identities start ∨ identity ∈ identities added := by
  induction added generalizing start with
  | nil => simp
  | cons taint rest ih =>
      rw [List.foldl_cons, ih, mem_identities_addTaint]
      simp [identities, or_assoc]

theorem unique_foldl_add (taints : List Taint) (start : DedupedTaints) :
    (taints.foldl DedupedTaints.add start).unique = taints.foldl addTaint start.unique := by
  induction taints generalizing start with
  | nil => rfl
  | cons taint rest ih =>
      have first : (start.add taint).unique = addTaint start.unique taint := by
        rw [DedupedTaints.add, addTaint]
        split <;> rfl
      rw [List.foldl_cons, List.foldl_cons, ih, first]

/-- Dropping repeats is adding one taint after the other to none. -/
theorem dedupTaints_unique (taints : List Taint) :
    (dedupTaints taints).unique = taints.foldl addTaint [] :=
  unique_foldl_add taints ⟨[], []⟩

/-- Dropping repeats keeps the identities. -/
theorem mem_identities_dedupTaints (taints : List Taint) (identity : Taint.Identity) :
    identity ∈ identities (dedupTaints taints).unique ↔ identity ∈ identities taints := by
  rw [dedupTaints_unique, mem_identities_foldl_addTaint]
  simp

/-! ## Repeats -/

/-- Some identity occurs more than once. -/
def RepeatsTaint (taints : List Taint) : Prop :=
  ∃ first second, [first, second].Sublist taints ∧ sameTaint first second = true

theorem not_repeatsTaint_iff {taints : List Taint} :
    ¬RepeatsTaint taints ↔ (identities taints).Nodup := by
  rw [identities, List.Nodup, List.pairwise_map, List.pairwise_iff_forall_sublist]
  simp [RepeatsTaint, sameTaint]

/-- Nothing is set aside as long as each taint is new to the ones before it. -/
theorem duplicates_foldl_add_eq_nil_iff {taints : List Taint} {start : DedupedTaints} :
    (taints.foldl DedupedTaints.add start).duplicates = [] ↔
      start.duplicates = [] ∧ (identities taints).Nodup ∧
        ∀ identity ∈ identities taints, identity ∉ identities start.unique := by
  induction taints generalizing start with
  | nil => simp
  | cons taint rest ih =>
      have distinct : (identities (taint :: rest)).Nodup ↔
          taint.identity ∉ identities rest ∧ (identities rest).Nodup := List.nodup_cons
      rw [List.foldl_cons, ih, distinct, DedupedTaints.add]
      by_cases contained : containsTaint start.unique taint = true
      · rw [if_pos contained]
        have there := containsTaint_iff.mp contained
        -- What was set aside stays there.
        constructor
        · rintro ⟨nothing, -⟩
          simp at nothing
        · rintro ⟨-, -, new⟩
          exact absurd there (new _ List.mem_cons_self)
      · rw [if_neg contained]
        have fresh := mt containsTaint_iff.mpr contained
        have added : identities (start.unique ++ [taint]) =
            identities start.unique ++ [taint.identity] := List.map_append
        rw [added]
        constructor
        · rintro ⟨nothing, others, new⟩
          refine ⟨nothing, ⟨fun later => ?_, others⟩, fun identity listed => ?_⟩
          · exact new _ later (List.mem_append_right _ List.mem_cons_self)
          · rcases List.mem_cons.mp listed with rfl | later
            · exact fresh
            · exact fun earlier => new _ later (List.mem_append_left _ earlier)
        · rintro ⟨nothing, ⟨first, others⟩, new⟩
          refine ⟨nothing, others, fun identity later there => ?_⟩
          rcases List.mem_append.mp there with earlier | same
          · exact new _ (List.mem_cons_of_mem _ later) earlier
          · exact first (List.mem_singleton.mp same ▸ later)

/-- Dropping repeats sets nothing aside exactly if there are none. -/
theorem duplicates_dedupTaints_eq_nil_iff {taints : List Taint} :
    (dedupTaints taints).duplicates = [] ↔ ¬RepeatsTaint taints := by
  rw [dedupTaints, duplicates_foldl_add_eq_nil_iff, not_repeatsTaint_iff]
  simp

instance (taints : List Taint) : Decidable (RepeatsTaint taints) :=
  decidable_of_iff (¬(identities taints).Nodup) (by rw [← not_repeatsTaint_iff, Classical.not_not])

/-! ## The taints expected of a node -/

/-- A node is expected to have the taints of its machine and the cordon taints it has. -/
theorem mem_identities_expectedNodeTaints (machineTaints nodeTaints : List Taint)
    (identity : Taint.Identity) :
    identity ∈ identities (expectedNodeTaints machineTaints nodeTaints) ↔
      identity ∈ identities machineTaints ∨
        identity ∈ identities (nodeTaints.filter Taint.isCordon) :=
  mem_identities_foldl_addTaint _ _ identity

/-- The cordon taints of a list that was expected of a node, once more added to the taints of the
machine, give the same identities. -/
theorem mem_identities_expectedNodeTaints_again (machineTaints nodeTaints : List Taint)
    (identity : Taint.Identity) :
    identity ∈ identities
        (expectedNodeTaints machineTaints (expectedNodeTaints machineTaints nodeTaints)) ↔
      identity ∈ identities (expectedNodeTaints machineTaints nodeTaints) := by
  constructor
  · intro member
    rcases (mem_identities_expectedNodeTaints _ _ identity).mp member with ofMachine | cordon
    · exact (mem_identities_expectedNodeTaints _ _ identity).mpr (Or.inl ofMachine)
    · obtain ⟨taint, kept, rfl⟩ := mem_identities.mp cordon
      exact mem_identities.mpr ⟨taint, (List.mem_filter.mp kept).1, rfl⟩
  · intro member
    apply (mem_identities_expectedNodeTaints _ _ identity).mpr
    rcases (mem_identities_expectedNodeTaints _ _ identity).mp member with ofMachine | cordon
    · exact Or.inl ofMachine
    · obtain ⟨taint, kept, rfl⟩ := mem_identities.mp cordon
      obtain ⟨stored, inside, same⟩ := mem_identities.mp member
      have still : stored.isCordon = true :=
        (isCordon_congr same).trans (List.mem_filter.mp kept).2
      exact Or.inr (mem_identities.mpr ⟨stored, List.mem_filter.mpr ⟨inside, still⟩, same⟩)

/-! ## Differences -/

/-- Lists of taints have no difference exactly if they have the same identities. -/
theorem taintDiff_isEmpty_iff {desired current : List Taint} :
    (taintDiff desired current).isEmpty = true ↔
      ∀ identity, identity ∈ identities desired ↔ identity ∈ identities current := by
  have covered : ∀ first second : List Taint,
      (first.filter fun taint => !containsTaint second taint).isEmpty = true ↔
        ∀ identity ∈ identities first, identity ∈ identities second := by
    intro first second
    rw [List.isEmpty_iff, List.filter_eq_nil_iff]
    simp [identities, containsTaint_iff]
  rw [TaintDiff.isEmpty, Bool.and_eq_true]
  change (desired.filter _).isEmpty = true ∧ (current.filter _).isEmpty = true ↔ _
  rw [covered, covered]
  exact ⟨fun h identity => ⟨h.1 identity, h.2 identity⟩,
    fun h => ⟨fun identity => (h identity).mp, fun identity => (h identity).mpr⟩⟩

/-- What is expected of a node that was given the expected taints differs from them in nothing. -/
theorem taintDiff_expectedNodeTaints_isEmpty (machineTaints nodeTaints : List Taint) :
    (taintDiff (expectedNodeTaints machineTaints (expectedNodeTaints machineTaints nodeTaints))
      (expectedNodeTaints machineTaints nodeTaints)).isEmpty = true :=
  taintDiff_isEmpty_iff.mpr (mem_identities_expectedNodeTaints_again machineTaints nodeTaints)

end NodeSync
