/-
Module: NodeSync.Proofs.Pass.Recovery
Purpose: A pass after passes that were stopped. Nothing is rolled back, so that they may leave every
  pair of a machine and its node between two of its writes. The next pass that goes through leaves
  what it would have left without them, apart from the versions of the objects.
Main exports: MemoryStore.passesUnder, moved_passesUnder, Completed.contents_eq,
  pass_after_passesUnder
-/
import NodeSync.Proofs.Pass.Completion

namespace NodeSync

set_option autoImplicit false

/-- The store after passes over the machine set at a place, each of which has calls with the given
fates. -/
def MemoryStore.passesUnder (store : MemoryStore) (passes : List (List Fate)) (ns name : String) :
    MemoryStore :=
  passes.foldl (fun store fates => (store.passUnder fates ns name).2) store

section Recovery

variable {store : MemoryStore} {machineSet : MachineSet} {ns name : String}

/-- A pass leaves every pair on its course, whatever disturbs it. -/
theorem moved_passUnder (placed : store.Placed)
    (found : store.machineSets.get? ⟨ns, name⟩ = some machineSet)
    (distinct : ((store.selected machineSet ns).filterMap Machine.nodeName?).Nodup)
    (fates : List Fate) :
    Moved (SameCourse machineSet) (bindings (store.selected machineSet ns)) store
      (store.passUnder fates ns name).2 := by
  have secured := synchronise_secures False placed found distinct
  rcases MemoryStore.passUnder_of_secures fates False.elim secured with
    ⟨outcome, after, passed, ⟨-, -, halted⟩ | ⟨-, -, completed⟩⟩ | ⟨cause, after, passed, halted⟩
  · rw [passed]
    exact halted.moved
  · rw [passed]
    exact completed.moved.mono fun _ _ _ _ => Settled.sameCourse
  · rw [passed]
    exact halted.moved

/-- So do any number of passes. -/
theorem moved_passesUnder (placed : store.Placed)
    (found : store.machineSets.get? ⟨ns, name⟩ = some machineSet)
    (distinct : ((store.selected machineSet ns).filterMap Machine.nodeName?).Nodup)
    (passes : List (List Fate)) :
    Moved (SameCourse machineSet) (bindings (store.selected machineSet ns)) store
      (store.passesUnder passes ns name) := by
  induction passes generalizing store with
  | nil => exact Moved.refl fun _ _ => SameCourse.refl
  | cons fates rest ih =>
      have first := moved_passUnder placed found distinct fates
      have bound := first.bindings_selected machineSet ns
      have found' : (store.passUnder fates ns name).2.machineSets.get? ⟨ns, name⟩ =
          some machineSet := by
        rw [first.machineSets, found]
      have distinct' : (((store.passUnder fates ns name).2.selected machineSet ns).filterMap
          Machine.nodeName?).Nodup := by
        rw [← bindings_names, bound, bindings_names]
        exact distinct
      have later := ih (first.placed placed) found' distinct'
      rw [bound] at later
      exact first.trans later fun _ _ _ _ _ _ => SameCourse.trans

/-- Passes that went through from the same store leave the same objects, apart from versions. -/
theorem Completed.contents_eq {bound : List (ObjectKey × String)} {after after' : MemoryStore}
    (stored : ∀ key nodeName, (key, nodeName) ∈ bound →
      ∃ machine, store.machines.get? key = some machine)
    (first : Completed machineSet bound store after)
    (second : Completed machineSet bound store after') :
    (∀ key, (after.machines.get? key).map Machine.content =
      (after'.machines.get? key).map Machine.content) ∧
    ∀ nodeName, (after.nodes.get? nodeName).map Node.content =
      (after'.nodes.get? nodeName).map Node.content := by
  have pair : ∀ key nodeName, (key, nodeName) ∈ bound →
      (after.machines.get? key).map Machine.content =
          (after'.machines.get? key).map Machine.content ∧
        (after.nodes.get? nodeName).map Node.content =
          (after'.nodes.get? nodeName).map Node.content := by
    intro key nodeName member
    obtain ⟨machine, found⟩ := stored key nodeName member
    obtain ⟨node, there⟩ := SortedMap.contains_iff_exists.mp
      (first.present nodeName (List.mem_map_of_mem (f := (·.2)) member))
    obtain ⟨machine₁, node₁, found₁, there₁, settled₁⟩ :=
      first.moved.pairs key nodeName member machine node found there
    obtain ⟨machine₂, node₂, found₂, there₂, settled₂⟩ :=
      second.moved.pairs key nodeName member machine node found there
    rw [found₁, found₂, there₁, there₂]
    exact ⟨congrArg some (settled₁.ofMachine.trans settled₂.ofMachine.symm),
      congrArg some (settled₁.ofNode.trans settled₂.ofNode.symm)⟩
  constructor
  · intro key
    by_cases binds : key ∈ bound.map (·.1)
    · obtain ⟨⟨_, nodeName⟩, member, rfl⟩ := List.mem_map.mp binds
      exact (pair _ nodeName member).1
    · rw [first.moved.otherMachines key binds, second.moved.otherMachines key binds]
  · intro nodeName
    by_cases binds : nodeName ∈ bound.map (·.2)
    · obtain ⟨⟨key, _⟩, member, rfl⟩ := List.mem_map.mp binds
      exact (pair key _ member).2
    · rw [first.moved.otherNodes nodeName binds, second.moved.otherNodes nodeName binds]

/-- A pair on the course of an earlier one is settled where that one is. -/
theorem Completed.of_moved {bound : List (ObjectKey × String)} {middle after : MemoryStore}
    (moved : Moved (SameCourse machineSet) bound store middle)
    (completed : Completed machineSet bound middle after) :
    Completed machineSet bound store after where
  present nodeName member := by
    rw [← moved.contains_node]
    exact completed.present nodeName member
  moved := moved.trans completed.moved fun _ _ _ _ _ _ course settled =>
    Settled.of_sameCourse course settled

/-- What a pass leaves does not depend on how far pairs were taken before on their course. -/
theorem pass_after_moved {resumed after : MemoryStore} {outcome : Outcome} (placed : store.Placed)
    (found : store.machineSets.get? ⟨ns, name⟩ = some machineSet)
    (distinct : ((store.selected machineSet ns).filterMap Machine.nodeName?).Nodup)
    (calm : ∀ operation, store.pendingFailures operation = 0)
    (calm' : ∀ operation, resumed.pendingFailures operation = 0)
    (moved : Moved (SameCourse machineSet) (bindings (store.selected machineSet ns)) store resumed)
    (passed : resumed.pass ns name = (.ok outcome, after)) :
    ∃ after', store.pass ns name = (.ok outcome, after') ∧
      (∀ key, (after.machines.get? key).map Machine.content =
        (after'.machines.get? key).map Machine.content) ∧
      ∀ nodeName, (after.nodes.get? nodeName).map Node.content =
        (after'.nodes.get? nodeName).map Node.content := by
  have bound := moved.bindings_selected machineSet ns
  have found' : resumed.machineSets.get? ⟨ns, name⟩ = some machineSet := by
    rw [moved.machineSets, found]
  have distinct' : ((resumed.selected machineSet ns).filterMap Machine.nodeName?).Nodup := by
    rw [← bindings_names, bound, bindings_names]
    exact distinct
  obtain ⟨rfl, valid, completed⟩ :=
    completed_of_pass (moved.placed placed) found' distinct' calm' passed
  rw [bound] at completed
  have whole := Completed.of_moved moved completed
  have present : ∀ nodeName ∈ (store.selected machineSet ns).filterMap Machine.nodeName?,
      store.nodes.contains nodeName = true := by
    rw [← bindings_names]
    exact whole.present
  obtain ⟨outcome, after', passed'⟩ := pass_of_present placed found valid distinct present calm
  obtain ⟨rfl, -, completed'⟩ := completed_of_pass placed found distinct calm passed'
  rw [templateWarnings_congr machineSet (moved.selected_unmanaged machineSet ns)]
  refine ⟨after', passed', Completed.contents_eq ?_ whole completed'⟩
  intro key nodeName member
  obtain ⟨machine, listed, -, rfl⟩ := mem_bindings_iff.mp member
  exact ⟨machine, MemoryStore.get?_of_mem_selected placed.machines listed⟩

end Recovery

/-- If an undisturbed pass gives a result after any passes that were stopped at any of their calls,
one in their place would have given the same result, and it would have left the same machines and
nodes, apart from their versions. -/
theorem pass_after_passesUnder {store after : MemoryStore} {ns name : String}
    {machineSet : MachineSet} {outcome : Outcome} (placed : store.Placed)
    (found : store.machineSets.get? ⟨ns, name⟩ = some machineSet)
    (distinct : ((store.selected machineSet ns).filterMap Machine.nodeName?).Nodup)
    (passes : List (List Fate))
    (passed : (store.passesUnder passes ns name).withoutFailures.pass ns name =
      (.ok outcome, after)) :
    ∃ after', store.withoutFailures.pass ns name = (.ok outcome, after') ∧
      (∀ key, (after.machines.get? key).map Machine.content =
        (after'.machines.get? key).map Machine.content) ∧
      ∀ nodeName, (after.nodes.get? nodeName).map Node.content =
        (after'.nodes.get? nodeName).map Node.content := by
  have placed' : store.withoutFailures.Placed := ⟨placed.machineSets, placed.machines, placed.nodes⟩
  have moved := (moved_passesUnder placed found distinct passes).withoutFailures
  exact pass_after_moved placed' found distinct (fun _ => rfl) (fun _ => rfl) moved passed

/-- Two passes over the small cluster that are stopped: one while it waits for the labels of the
machine to be written, and one when it writes the node. -/
def SmallCluster.stoppedPasses : List (List Fate) :=
  [[.served, .served, .served, .unanswered true],
    [.served, .served, .served, .served, .failed (.unavailable "timeout") false]]

/-- The pass after them. -/
theorem pass_after_passesUnder_smallCluster :
    ∃ after', SmallCluster.store.withoutFailures.pass "machines" "web" = (.ok .synced, after') ∧
      (∀ key, ((((SmallCluster.store.passesUnder SmallCluster.stoppedPasses "machines"
          "web").withoutFailures.pass "machines" "web").2.machines.get? key).map Machine.content =
        (after'.machines.get? key).map Machine.content)) ∧
      ∀ nodeName, ((((SmallCluster.store.passesUnder SmallCluster.stoppedPasses "machines"
          "web").withoutFailures.pass "machines" "web").2.nodes.get? nodeName).map Node.content =
        (after'.nodes.get? nodeName).map Node.content) := by
  have passed : ((SmallCluster.store.passesUnder SmallCluster.stoppedPasses "machines"
      "web").withoutFailures.pass "machines" "web").1 = .ok .synced := by rfl
  exact pass_after_passesUnder SmallCluster.placed SmallCluster.found SmallCluster.distinct
    SmallCluster.stoppedPasses (Prod.ext passed rfl)

end NodeSync
