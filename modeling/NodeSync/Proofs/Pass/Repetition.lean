/-
Module: NodeSync.Proofs.Pass.Repetition
Purpose: A pass after one that went through. Every pair of a machine and its node is in step with
  the template then, so that the pass compares and writes nothing; the store stays as it is, with
  its versions and its list of updates, and the result is the same.
Main exports: synchroniseMachine_inStep, synchroniseMachines_inStep, inStep_of_completed,
  pass_again_of_passUnder
-/
import NodeSync.Proofs.Pass.Completion

namespace NodeSync

set_option autoImplicit false

open Pass (Secures)

/-! ## Passes that find nothing to write -/

section InStep

variable {store : MemoryStore} {machineSet : MachineSet} {machine : Machine} {node : Node}

/-- A pair in step is read and not written. -/
theorem synchroniseMachine_inStep {nodeName : String}
    (provisioned : machine.nodeName? = some nodeName)
    (there : store.nodes.get? nodeName = some node) (inStep : InStep machineSet machine node) :
    Secures True (synchroniseMachine machineSet machine) store
      (fun warning after => warning = templateWarning? machineSet machine ∧ after = store)
      (fun _ _ => False) := by
  rw [synchroniseMachine, provisioned]
  apply Secures.bind
  apply Secures.getNode
  · exact fun loud => absurd trivial loud
  · intro missing
    rw [there] at missing
    cases missing
  · intro found there'
    rw [there] at there'
    cases there'
    have machineLabels : ∀ name ns,
        writeMachineLabels machine (expectedLabels machineSet machine node) name ns =
          return machine := fun _ _ => if_pos inStep.machineLabels
    have machineTaints : ∀ name ns, writeMachineTaints machine machineSet.templateTaints name ns =
        return machine := fun _ _ => if_pos inStep.machineTaints
    have synced := syncNodeLabels_of_agreesWith inStep.nodeLabels
    dsimp only
    rw [machineLabels]
    apply Secures.bind
    apply Secures.pure
    rw [machineTaints]
    apply Secures.bind
    apply Secures.pure
    rw [writeNodeLabels, synced, inStep.machineTaints]
    apply Secures.bind
    apply Secures.pure
    apply Secures.bind
    apply Secures.ite
    · intro _
      apply Secures.pure
      apply Secures.pure
      exact ⟨rfl, rfl⟩
    · intro differs
      exact absurd inStep.nodeTaints differs

/-- Machines that are in step with their nodes are not written, nor are the nodes. -/
theorem synchroniseMachines_inStep {machines : List Machine}
    (inStep : ∀ machine ∈ machines, ∀ nodeName, machine.nodeName? = some nodeName →
      ∃ node, store.nodes.get? nodeName = some node ∧ InStep machineSet machine node) :
    Secures True (synchroniseMachines machineSet machines) store
      (fun warnings after => warnings = templateWarnings machineSet machines ∧ after = store)
      (fun _ _ => False) := by
  induction machines with
  | nil => exact Secures.pure ⟨rfl, rfl⟩
  | cons machine rest ih =>
      have inStepRest := ih fun machine listed => inStep machine (List.mem_cons_of_mem _ listed)
      rw [synchroniseMachines, templateWarnings_cons]
      apply Secures.bind
      cases provisioned : machine.nodeName? with
      | none =>
          rw [synchroniseMachine_of_none provisioned]
          apply Secures.pure
          apply Secures.bind
          apply inStepRest.imp
          · rintro warnings after ⟨rfl, rfl⟩
            exact Secures.pure ⟨rfl, rfl⟩
          · exact fun _ _ ended => ended
      | some nodeName =>
          obtain ⟨node, there, here⟩ := inStep machine List.mem_cons_self nodeName provisioned
          apply (synchroniseMachine_inStep provisioned there here).imp
          · rintro warning middle ⟨rfl, rfl⟩
            apply Secures.bind
            apply inStepRest.imp
            · rintro warnings after ⟨rfl, rfl⟩
              exact Secures.pure ⟨rfl, rfl⟩
            · exact fun _ _ ended => ended
          · exact fun _ _ ended => ended

/-- An undisturbed pass that finds all pairs in step leaves the store as it is. -/
theorem pass_of_inStep {ns name : String}
    (calm : ∀ operation, store.pendingFailures operation = 0)
    (found : store.machineSets.get? ⟨ns, name⟩ = some machineSet) (valid : machineSet.Valid)
    (inStep : ∀ machine ∈ store.selected machineSet ns, ∀ nodeName,
      machine.nodeName? = some nodeName →
        ∃ node, store.nodes.get? nodeName = some node ∧ InStep machineSet machine node) :
    store.pass ns name =
      (.ok (passOutcome (templateWarnings machineSet (store.selected machineSet ns))), store) := by
  have secured : Secures True (ExceptT.mk (synchronise ns name)) store
      (fun outcome after => outcome =
        passOutcome (templateWarnings machineSet (store.selected machineSet ns)) ∧ after = store)
      (fun _ _ => False) := by
    apply Secures.wholePass
    · exact fun loud => absurd trivial loud
    · intro silently
      rw [silently trivial] at found
      cases found
    · intro stored found'
      rw [found] at found'
      cases found'
      apply Secures.setRead
      · exact fun loud => absurd trivial loud
      · exact fun fault => absurd valid fault
      · intro _
        apply (synchroniseMachines_inStep inStep).imp
        · rintro warnings after ⟨rfl, rfl⟩
          exact ⟨rfl, rfl⟩
        · exact fun _ _ ended => ended
  rcases MemoryStore.passUnder_of_secures [] (fun _ => ⟨rfl, calm⟩) secured with
    ⟨outcome, after, passed, rfl, rfl⟩ | ⟨_, _, _, impossible⟩
  · exact passed
  · exact impossible.elim

end InStep

/-! ## After a pass that went through -/

/-- After a pass that went through, every pair is in step. -/
theorem inStep_of_completed {store after : MemoryStore} {machineSet : MachineSet} {ns : String}
    (placed : store.Placed)
    (completed : Completed machineSet (bindings (store.selected machineSet ns)) store after)
    (filled : ∀ key, machineSet.templateNodeLabels.contains key = true → key ≠ "") :
    ∀ machine ∈ after.selected machineSet ns, ∀ nodeName, machine.nodeName? = some nodeName →
      ∃ node, after.nodes.get? nodeName = some node ∧ InStep machineSet machine node := by
  intro machine' listed' nodeName provisioned'
  have bound : (machine'.place, nodeName) ∈ bindings (store.selected machineSet ns) := by
    rw [← completed.moved.bindings_selected]
    exact mem_bindings_iff.mpr ⟨machine', listed', provisioned', rfl⟩
  obtain ⟨machine, listed, provisioned, place⟩ := mem_bindings_iff.mp bound
  obtain ⟨node, there⟩ := SortedMap.contains_iff_exists.mp
    (completed.present nodeName (List.mem_map_of_mem (f := (·.2)) bound))
  have found : store.machines.get? machine'.place = some machine := by
    rw [← place]
    exact MemoryStore.get?_of_mem_selected placed.machines listed
  obtain ⟨machine'', node', found'', there', settled⟩ :=
    completed.moved.pairs machine'.place nodeName bound machine node found there
  have found' := MemoryStore.get?_of_mem_selected (completed.moved.placed placed).machines listed'
  rw [found'] at found''
  cases found''
  exact ⟨node', there', (inStep_settled filled).of_content settled.ofMachine settled.ofNode⟩

/-- A pass that went through, whatever disturbed it, leaves nothing to do for the next one. If no
failures are ordered any more, that pass gives the same result and leaves the store as it is. -/
theorem pass_again_of_passUnder {store after : MemoryStore} {fates : List Fate} {ns name : String}
    {machineSet : MachineSet} {outcome : Outcome} (placed : store.Placed)
    (found : store.machineSets.get? ⟨ns, name⟩ = some machineSet)
    (filled : ∀ key, machineSet.templateNodeLabels.contains key = true → key ≠ "")
    (distinct : ((store.selected machineSet ns).filterMap Machine.nodeName?).Nodup)
    (passed : store.passUnder fates ns name = (.ok outcome, after)) (notGone : outcome ≠ .gone) :
    after.withoutFailures.pass ns name = (.ok outcome, after.withoutFailures) := by
  have secured := synchronise_secures False placed found distinct
  rcases MemoryStore.passUnder_of_secures fates False.elim secured with
    ⟨outcome', after', passed', reached⟩ | ⟨cause, after', passed', -⟩
  · rw [passed] at passed'
    cases passed'
    rcases reached with ⟨gone, -⟩ | ⟨rfl, valid, completed⟩
    · exact absurd gone notGone
    · have found' : after.withoutFailures.machineSets.get? ⟨ns, name⟩ = some machineSet := by
        rw [← found, ← completed.moved.machineSets]
        rfl
      have warnings : templateWarnings machineSet (after.withoutFailures.selected machineSet ns) =
          templateWarnings machineSet (store.selected machineSet ns) :=
        templateWarnings_congr machineSet (completed.moved.selected_unmanaged machineSet ns)
      have inStep := inStep_of_completed placed completed filled
      rw [← warnings]
      exact pass_of_inStep (fun _ => rfl) found' valid inStep
  · rw [passed] at passed'
    cases passed'

/-- The second pass over the small cluster. -/
theorem pass_again_smallCluster :
    (SmallCluster.store.passUnder [] "machines" "web").2.withoutFailures.pass "machines" "web" =
      (.ok .synced, (SmallCluster.store.passUnder [] "machines" "web").2.withoutFailures) := by
  have passed : (SmallCluster.store.passUnder [] "machines" "web").1 = .ok .synced := by rfl
  exact pass_again_of_passUnder SmallCluster.placed SmallCluster.found SmallCluster.filled
    SmallCluster.distinct (Prod.ext passed rfl) (by decide)

end NodeSync
