/-
Module: NodeSync.Proofs.Trigger
Purpose: The machine sets that are looked at when a machine changes are those that would select it.
  Two filters are compared: the one of the events, which compiles each selector anew and takes a
  malformed one for one that matches nothing, and the one of the passes, which refuses a malformed
  selector and checks it against the template first.
Main exports: MachineSet.ref?, mem_machineSetsForMachine_iff, machineSetsForMachine_agrees
-/
import NodeSync.Proofs.Pass.Completion
import NodeSync.Proofs.Selection
import NodeSync.Trigger

namespace NodeSync

set_option autoImplicit false

/-- The place of a machine set that has a name. -/
def MachineSet.ref? (machineSet : MachineSet) : Option MachineSetRef :=
  machineSet.metadata.name.map (⟨machineSet.metadata.ns, ·⟩)

/-- Without a controller, a machine with labels leads to the sets of its namespace that match. -/
theorem mem_machineSetsForMachine_iff {machine : Machine} {machineSets : List MachineSet}
    {ns : String} {reference : MachineSetRef} (placed : machine.metadata.ns = some ns)
    (uncontrolled : machine.metadata.controller? = none)
    (labelled : machine.objectLabels.isEmpty = false)
    (named : ∀ machineSet ∈ machineSets, machineSet.metadata.name.isSome = true) :
    reference ∈ machineSetsForMachine machine machineSets ↔
      ∃ machineSet ∈ machineSets, machineSet.metadata.ns = some ns ∧
        hasMatchingLabels machineSet machine.objectLabels = true ∧
        machineSet.ref? = some reference := by
  have reads : ∀ machineSet ∈ machineSets, machineSet.ref? = some reference ↔
      (⟨machineSet.metadata.ns, machineSet.metadata.name.getD ""⟩ : MachineSetRef) = reference := by
    intro machineSet listed
    obtain ⟨name, found⟩ := Option.isSome_iff_exists.mp (named machineSet listed)
    simp [MachineSet.ref?, found]
  simp only [machineSetsForMachine, uncontrolled, labelled, placed, Option.getD_some,
    Bool.false_eq_true, if_false, List.mem_map, List.mem_filter, Bool.and_eq_true, beq_iff_eq]
  constructor
  · rintro ⟨machineSet, ⟨listed, here, matching⟩, reference⟩
    exact ⟨machineSet, listed, here, matching, (reads machineSet listed).mpr reference⟩
  · rintro ⟨machineSet, listed, here, matching, reference⟩
    exact ⟨machineSet, ⟨listed, here, matching⟩, (reads machineSet listed).mp reference⟩

/-! ## Agreement -/

/-- A machine leads to every set of its namespace that selects it, as long as no controller stands
between them: the machine has none, or one that is a machine set of that name. And without a
controller it leads to no other set: each one has a well-formed selector with conditions that the
machine meets, and selects the machine unless its own template does not meet them. -/
theorem machineSetsForMachine_agrees {machine : Machine} {machineSets : List MachineSet}
    {ns : String} (placed : machine.metadata.ns = some ns)
    (labelled : machine.objectLabels.isEmpty = false)
    (named : ∀ machineSet ∈ machineSets, machineSet.metadata.name.isSome = true) :
    (∀ machineSet ∈ machineSets, machineSet.metadata.ns = some ns →
      selectMachines machineSet [machine] = .ok [machine] →
      (∀ owner, machine.metadata.controller? = some owner →
        owner.isMachineSet = true ∧ machineSet.metadata.name = some owner.name) →
      ∃ reference, machineSet.ref? = some reference ∧
        reference ∈ machineSetsForMachine machine machineSets) ∧
    (machine.metadata.controller? = none → machine.metadata.deletionTimestamp = none →
      ∀ reference ∈ machineSetsForMachine machine machineSets,
        ∃ machineSet ∈ machineSets, machineSet.metadata.ns = some ns ∧
          machineSet.ref? = some reference ∧
          ∃ matcher, LabelMatcher.compile machineSet.spec.selector = .ok matcher ∧
            matcher.isEmpty = false ∧ matcher.accepts machine.objectLabels = true ∧
            isExcluded machineSet matcher machine = false ∧
            (matcher.accepts machineSet.templateMachineLabels = true →
              ∀ machines, machine ∈ machines →
                ∃ selected, selectMachines machineSet machines = .ok selected ∧
                  machine ∈ selected)) := by
  constructor
  · intro machineSet listed here selects free
    cases controlled : machine.metadata.controller? with
    | some owner =>
        obtain ⟨isSet, name⟩ := free owner controlled
        refine ⟨⟨some ns, owner.name⟩, by simp [MachineSet.ref?, name, here], ?_⟩
        simp [machineSetsForMachine, controlled, isSet, placed]
    | none =>
        obtain ⟨matcher, validated, selected⟩ := mem_selectMachines_iff selects
        obtain ⟨compiled, -⟩ := validateMachineSet_eq_ok_iff.mp validated
        obtain ⟨filled, accepts⟩ :=
          accepts_of_not_excluded ((selected machine).mp (List.mem_singleton_self _)).2
        obtain ⟨reference, found⟩ : ∃ reference, machineSet.ref? = some reference := by
          obtain ⟨name, found⟩ := Option.isSome_iff_exists.mp (named machineSet listed)
          exact ⟨⟨machineSet.metadata.ns, name⟩, by simp [MachineSet.ref?, found]⟩
        exact ⟨reference, found, (mem_machineSetsForMachine_iff placed controlled labelled
          named).mpr ⟨machineSet, listed, here,
            hasMatchingLabels_iff.mpr ⟨matcher, compiled, filled, accepts⟩, found⟩⟩
  · intro uncontrolled lasting reference led
    obtain ⟨machineSet, listed, here, matching, found⟩ :=
      (mem_machineSetsForMachine_iff placed uncontrolled labelled named).mp led
    obtain ⟨matcher, compiled, filled, accepts⟩ := hasMatchingLabels_iff.mp matching
    have kept : isExcluded machineSet matcher machine = false :=
      (isExcluded_of_uncontrolled uncontrolled).mpr ⟨lasting, filled, accepts⟩
    refine ⟨machineSet, listed, here, found, matcher, compiled, filled, accepts, kept, ?_⟩
    intro fits machines inside
    have validated := validateMachineSet_eq_ok_iff.mpr ⟨compiled, fits⟩
    refine ⟨machines.filter fun machine => !isExcluded machineSet matcher machine, ?_, ?_⟩
    · rw [selectMachines, validated]
      rfl
    · simp [inside, kept]

/-- The machine of the small cluster leads to its set, and back. -/
theorem machineSetsForMachine_agrees_smallCluster :
    selectMachines SmallCluster.machineSet [SmallCluster.machine] = .ok [SmallCluster.machine] ∧
      ∃ reference, SmallCluster.machineSet.ref? = some reference ∧
        reference ∈ machineSetsForMachine SmallCluster.machine [SmallCluster.machineSet] ∧
        ∃ machineSet ∈ [SmallCluster.machineSet], machineSet.ref? = some reference ∧
          ∃ matcher, isExcluded machineSet matcher SmallCluster.machine = false := by
  have named : ∀ machineSet ∈ [SmallCluster.machineSet],
      machineSet.metadata.name.isSome = true := by simp [SmallCluster.machineSet]
  have selects : selectMachines SmallCluster.machineSet [SmallCluster.machine] =
      .ok [SmallCluster.machine] := rfl
  have placed : SmallCluster.machine.metadata.ns = some "machines" := rfl
  have agrees := machineSetsForMachine_agrees placed rfl named
  obtain ⟨reference, found, led⟩ := agrees.1 SmallCluster.machineSet (List.mem_singleton_self _)
    rfl selects nofun
  obtain ⟨machineSet, listed, -, found', matcher, -, -, -, kept, -⟩ :=
    agrees.2 rfl rfl reference led
  exact ⟨selects, reference, found, led, machineSet, listed, found', matcher, kept⟩

end NodeSync
