/-
Module: NodeSync.Proofs.Pass.Conduct
Purpose: What a pass does to a machine and its node, in whatever environment it runs. Each of its
  writes makes good one of four differences that it finds between the copies at hand, and when it
  has gone through with a pair it finds none. Whatever an environment keeps up from one such write
  to the next therefore holds after the pair, after all machines and after the whole pass.
Main exports: MachineWrite, NodeWrite, Pass.blameUpdate, Finished, Pass.Ensures.call,
  Pass.Ensures.synchroniseMachine_charged, Pass.Ensures.synchroniseMachine,
  Pass.Ensures.synchroniseMachines, Pass.Ensures.synchroniseSet, Pass.Ensures.synchronise,
  runPass_of_ensures
-/
import NodeSync.Proofs.Pass.Course

namespace NodeSync

set_option autoImplicit false

open Pass (Ensures)

/-! ## Writes -/

/-- A write of a pass to a machine, given the copies of the machine and of its node at hand. -/
inductive MachineWrite (machineSet : MachineSet) (machine : Machine) (node : Node) :
    Machine → Prop where
  | labels (differ : machine.nodeLabels ≠ expectedLabels machineSet machine node) :
      MachineWrite machineSet machine node
        (machine.setNodeLabels (expectedLabels machineSet machine node))
  | taints (labelled : machine.nodeLabels = expectedLabels machineSet machine node)
      (differ : machine.spec.taints ≠ machineSet.templateTaints) :
      MachineWrite machineSet machine node (machine.setTaints machineSet.templateTaints)

/-- A write of a pass to a node; its machine has been brought in line before. -/
inductive NodeWrite (machineSet : MachineSet) (machine : Machine) (node : Node) : Node → Prop where
  | labels (labelled : machine.nodeLabels = expectedLabels machineSet machine node)
      (tainted : machine.spec.taints = machineSet.templateTaints)
      (differ : ¬node.AgreesWith (expectedLabels machineSet machine node)) :
      NodeWrite machineSet machine node
        (syncNodeLabels node (expectedLabels machineSet machine node)).1
  | taints (labelled : machine.nodeLabels = expectedLabels machineSet machine node)
      (tainted : machine.spec.taints = machineSet.templateTaints)
      (differ : (taintDiff (desiredTaints machineSet node) node.taints).isEmpty = false) :
      NodeWrite machineSet machine node
        ((syncNodeLabels node (expectedLabels machineSet machine node)).1.setTaints
          (desiredTaints machineSet node))

/-- What a failed update is reported as: a failure of the labels if it leaves the taints as they
are, and of the taints otherwise. -/
def Pass.blameUpdate (taints revised : List Taint) (name ns : String) :
    ControllerError → Option FailureReport :=
  if revised = taints then Pass.blameLabels name ns else Pass.blameTaints name ns

/-- A pass has gone through with a machine and its node: it would write neither. -/
structure Finished (machineSet : MachineSet) (machine : Machine) (node : Node) : Prop where
  machineLabels : machine.nodeLabels = expectedLabels machineSet machine node
  machineTaints : machine.spec.taints = machineSet.templateTaints
  nodeLabels : labelledNode node (expectedLabels machineSet machine node) = node
  nodeTaints : (taintDiff (desiredTaints machineSet node) node.taints).isEmpty = true

section Writes

variable {machineSet : MachineSet} {machine revisedMachine : Machine} {node revisedNode : Node}

namespace MachineWrite

theorem revises (write : MachineWrite machineSet machine node revisedMachine) :
    machine.Revises revisedMachine := by
  cases write with
  | labels => exact machine.revises_setNodeLabels _
  | taints => exact machine.revises_setTaints _

theorem unmanaged (write : MachineWrite machineSet machine node revisedMachine) :
    revisedMachine.unmanaged = machine.unmanaged := by
  cases write <;> rfl

/-- What is expected stays the same. -/
theorem expectedLabels_eq (write : MachineWrite machineSet machine node revisedMachine) :
    expectedLabels machineSet revisedMachine node = expectedLabels machineSet machine node := by
  cases write with
  | labels => exact expectedLabels_setNodeLabels
  | taints => rfl

/-- The pair stays on its course. -/
theorem sameCourse (write : MachineWrite machineSet machine node revisedMachine) :
    SameCourse machineSet machine node revisedMachine node := by
  cases write with
  | labels => exact SameCourse.machineLabels
  | taints => exact SameCourse.machineTaints

end MachineWrite

/-- Taints that are to be written are not those that the node has. -/
theorem desiredTaints_ne
    (differ : (taintDiff (desiredTaints machineSet node) node.taints).isEmpty = false) :
    desiredTaints machineSet node ≠ node.taints := by
  intro same
  rw [same, taintDiff_isEmpty_iff.mpr fun _ => Iff.rfl] at differ
  cases differ

namespace NodeWrite

theorem revises (write : NodeWrite machineSet machine node revisedNode) :
    node.Revises revisedNode := by
  have synced := Node.revises_syncNodeLabels node (expectedLabels machineSet machine node)
  cases write with
  | labels => exact synced
  | taints => exact ⟨synced.name, synced.uid, synced.version, synced.status⟩

/-- What is expected stays the same. -/
theorem expectedLabels_eq (write : NodeWrite machineSet machine node revisedNode) :
    expectedLabels machineSet machine revisedNode = expectedLabels machineSet machine node := by
  cases write with
  | labels labelled => exact expectedLabels_syncNodeLabels labelled
  | taints labelled => exact expectedLabels_syncNodeLabels labelled

/-- The pair stays on its course. -/
theorem sameCourse (write : NodeWrite machineSet machine node revisedNode) :
    SameCourse machineSet machine node machine revisedNode := by
  cases write with
  | labels labelled _ differ => exact SameCourse.nodeLabels labelled differ
  | taints labelled _ differ => exact SameCourse.nodeTaints labelled differ

/-- The labels and the record of the node are those that were brought in line. -/
theorem synced (write : NodeWrite machineSet machine node revisedNode) :
    revisedNode.metadata =
      (syncNodeLabels node (expectedLabels machineSet machine node)).1.metadata := by
  cases write <;> rfl

theorem labelMap_eq (write : NodeWrite machineSet machine node revisedNode) :
    revisedNode.labelMap =
      (syncNodeLabels node (expectedLabels machineSet machine node)).1.labelMap :=
  congrArg ObjectMeta.labelMap write.synced

theorem ownedKeys_eq (write : NodeWrite machineSet machine node revisedNode) :
    revisedNode.ownedKeys =
      (syncNodeLabels node (expectedLabels machineSet machine node)).1.ownedKeys := by
  rw [Node.ownedKeys, Node.annotationMap, write.synced]
  rfl

end NodeWrite

namespace Finished

/-- A pass makes nothing else of a finished machine. -/
theorem settledMachine_eq (finished : Finished machineSet machine node) :
    settledMachine machineSet machine node = machine := by
  rw [settledMachine, ← finished.machineLabels, ← finished.machineTaints]
  rfl

/-- A pass makes nothing else of a finished node. -/
theorem settledNode_eq (finished : Finished machineSet machine node) :
    settledNode machineSet machine node = node := by
  rw [settledNode, if_pos finished.nodeTaints, finished.nodeLabels]

/-- A finished pair is in step with the template, if the keys of the template can be recorded. -/
theorem inStep (finished : Finished machineSet machine node)
    (filled : ∀ key, machineSet.templateNodeLabels.contains key = true → key ≠ "") :
    InStep machineSet machine node := by
  have settled : InStep machineSet (settledMachine machineSet machine node)
      (settledNode machineSet machine node) := inStep_settled filled
  rw [finished.settledMachine_eq, finished.settledNode_eq] at settled
  exact settled

/-- After the taints of a node were written, the pair is finished. -/
theorem of_nodeTaints (labelled : machine.nodeLabels = expectedLabels machineSet machine node)
    (tainted : machine.spec.taints = machineSet.templateTaints) (version : Option String) :
    Finished machineSet machine
      (((syncNodeLabels node (expectedLabels machineSet machine node)).1.setTaints
        (desiredTaints machineSet node)).withVersion version) := by
  have expected : expectedLabels machineSet machine
      (((syncNodeLabels node (expectedLabels machineSet machine node)).1.setTaints
        (desiredTaints machineSet node)).withVersion version) =
          expectedLabels machineSet machine node := expectedLabels_syncNodeLabels labelled
  refine ⟨labelled.trans expected.symm, tainted, labelledNode_eq_self ?_, ?_⟩
  · rw [expected, syncNodeLabels_withVersion, syncNodeLabels_setTaints, syncExpected_again]
  · change (taintDiff (expectedNodeTaints _ (Node.setTaints _ _).taints)
      (Node.setTaints _ _).taints).isEmpty = true
    rw [Node.taints_setTaints]
    exact taintDiff_expectedNodeTaints_isEmpty _ _

end Finished

end Writes

/-! ## Parts of a pass in any environment -/

namespace Pass.Ensures

section Rules

variable {σ α : Type} {environment : Environment σ} {state : σ} {post : α → σ → Prop}
  {stopped : ControllerError → σ → Prop}

theorem pure {result : α} (holds : post result state) :
    Ensures environment (Pure.pure result : Pass α) state post stopped := holds

theorem throw {error : ControllerError} (holds : stopped error state) :
    Ensures environment (MonadExcept.throw error : Pass α) state post stopped := holds

theorem ite {holds : Prop} [Decidable holds] {first second : Pass α}
    (yes : holds → Ensures environment first state post stopped)
    (no : ¬holds → Ensures environment second state post stopped) :
    Ensures environment (if holds then first else second) state post stopped := by
  by_cases known : holds
  · rw [if_pos known]
    exact yes known
  · rw [if_neg known]
    exact no known

/-- What one condition and another one ensure, both do. -/
theorem and {post' : α → σ → Prop} {stopped' : ControllerError → σ → Prop} {pass : Pass α}
    (first : Ensures environment pass state post stopped)
    (second : Ensures environment pass state post' stopped') :
    Ensures environment pass state (fun result after => post result after ∧ post' result after)
      (fun cause after => stopped cause after ∧ stopped' cause after) := by
  unfold Ensures at first second ⊢
  rcases ran : pass.run.run environment state with ⟨_ | result, after⟩
  · rw [ran] at first second
    exact ⟨first, second⟩
  · rw [ran] at first second
    exact ⟨first, second⟩

/-- A guarded call, before its failure is reported. -/
theorem guarded {request : Request}
    {next : Except ControllerError request.Answer → Program (Except ControllerError α)}
    (cancelled : environment.cancelled state = true →
      Ensures environment (ExceptT.mk (next (.error .cancelled))) state post stopped)
    (replied : ∀ reply after, environment.answer request state = (reply, after) →
      Ensures environment (ExceptT.mk (next (Program.outcome reply))) after post stopped) :
    Ensures environment (ExceptT.mk ((Program.guarded request).bind next)) state post stopped := by
  unfold Ensures
  change Meets _ _ (Program.run _ ((Program.guarded request).bind next) state)
  rw [Program.run_guarded_bind]
  by_cases ended : environment.cancelled state = true
  · rw [if_pos ended]
    exact cancelled ended
  · rw [if_neg ended]
    exact replied _ _ rfl

/-- An error ends the pass, after the report of it if it is blamed on an object. -/
theorem fail {blame : ControllerError → Option FailureReport} {error : ControllerError}
    (holds : stopped error
      ((blame error).elim state fun failure => environment.report failure state)) :
    Ensures environment (answerOrFail blame (.error error)) state post stopped := by
  rw [answerOrFail]
  cases blamed : blame error with
  | none =>
      rw [blamed] at holds
      exact holds
  | some failure =>
      rw [blamed] at holds
      exact holds

/-- A call. It may be cancelled before or while it is made, which is nobody's fault, and it may
fail; a failure is reported where it is blamed on an object. -/
theorem call_reported {request : Request} {blame : ControllerError → Option FailureReport}
    {post : request.Answer → σ → Prop} (blameless : blame .cancelled = none)
    (cancelled : environment.cancelled state = true → stopped .cancelled state)
    (silent : ∀ after, environment.answer request state = (none, after) → stopped .cancelled after)
    (answered : ∀ answer after, environment.answer request state = (some (.ok answer), after) →
      post answer after)
    (failed : ∀ error after, environment.answer request state = (some (.error error), after) →
      stopped (.store error)
        ((blame (.store error)).elim after fun failure => environment.report failure after)) :
    Ensures environment (Pass.call request blame) state post stopped := by
  apply guarded
  · intro ended
    apply fail
    rw [blameless]
    exact cancelled ended
  · rintro (_ | error | answer) after replied
    · apply fail
      rw [blameless]
      exact silent after replied
    · exact fail (failed error after replied)
    · exact pure (answered answer after replied)

/-- A call, where reports of failures change nothing that matters. -/
theorem call {request : Request} {blame : ControllerError → Option FailureReport}
    {post : request.Answer → σ → Prop}
    (cancelled : environment.cancelled state = true → stopped .cancelled state)
    (silent : ∀ after, environment.answer request state = (none, after) → stopped .cancelled after)
    (answered : ∀ answer after, environment.answer request state = (some (.ok answer), after) →
      post answer after)
    (failed : ∀ error after, environment.answer request state = (some (.error error), after) →
      stopped (.store error) after)
    (reported : ∀ cause failure after, stopped cause after →
      stopped cause (environment.report failure after)) :
    Ensures environment (Pass.call request blame) state post stopped := by
  have ends : ∀ error after, stopped error after →
      Ensures environment (answerOrFail blame (.error error)) after post stopped := by
    intro error after ended
    apply fail
    cases blame error with
    | none => exact ended
    | some failure => exact reported error failure after ended
  apply guarded
  · exact fun ended => ends .cancelled state (cancelled ended)
  · rintro (_ | error | answer) after replied
    · exact ends .cancelled after (silent after replied)
    · exact ends (.store error) after (failed error after replied)
    · exact pure (answered answer after replied)

end Rules

section Parts

variable {σ : Type} {environment : Environment σ} {state : σ}
  {stopped : ControllerError → σ → Prop} {machineSet : MachineSet}
  {holds : Machine → Node → σ → Prop} {wrote : σ → Prop} {machine : Machine} {node : Node}

/-- What holds of the copies at hand and the state is kept up by the writes to machines. -/
def KeepsMachineWrites (environment : Environment σ) (machineSet : MachineSet)
    (holds : Machine → Node → σ → Prop) (stopped : ControllerError → σ → Prop) : Prop :=
  ∀ machine node revised state blame, holds machine node state →
    MachineWrite machineSet machine node revised →
    Ensures environment (Pass.call (.updateMachine revised) blame) state
      (fun machine' after => ∃ version, machine' = revised.withVersion version ∧
        holds machine' node after) stopped

/-- What holds of the copies at hand and the state is kept up by the writes to nodes. -/
def KeepsNodeWrites (environment : Environment σ) (machineSet : MachineSet)
    (holds : Machine → Node → σ → Prop) (stopped : ControllerError → σ → Prop) : Prop :=
  ∀ machine node revised state blame, holds machine node state →
    NodeWrite machineSet machine node revised →
    Ensures environment (Pass.call (.updateNode revised) blame) state
      (fun node' after => ∃ version, node' = revised.withVersion version ∧
        holds machine node' after) stopped

/-- The same, where it matters what a failed write is reported as. -/
def ChargesMachineWrites (environment : Environment σ) (machineSet : MachineSet) (name ns : String)
    (holds : Machine → Node → σ → Prop) (stopped : ControllerError → σ → Prop) : Prop :=
  ∀ machine node revised state blame, holds machine node state →
    MachineWrite machineSet machine node revised →
    blame = blameUpdate machine.spec.taints revised.spec.taints name ns →
    Ensures environment (Pass.call (.updateMachine revised) blame) state
      (fun machine' after => ∃ version, machine' = revised.withVersion version ∧
        holds machine' node after) stopped

/-- The same for the writes to nodes. What is noted of the first one stays noted. -/
def ChargesNodeWrites (environment : Environment σ) (machineSet : MachineSet) (name : String)
    (holds : Machine → Node → σ → Prop) (wrote : σ → Prop)
    (stopped : ControllerError → σ → Prop) : Prop :=
  ∀ machine node revised state blame, holds machine node state →
    NodeWrite machineSet machine node revised →
    blame = blameUpdate node.taints revised.taints name "" →
    Ensures environment (Pass.call (.updateNode revised) blame) state
      (fun node' after => ∃ version, node' = revised.withVersion version ∧
        holds machine node' after ∧ wrote after) stopped

/-- What is kept up whatever failures are reported as. -/
theorem KeepsMachineWrites.charges
    (keeps : KeepsMachineWrites environment machineSet holds stopped) (name ns : String) :
    ChargesMachineWrites environment machineSet name ns holds stopped :=
  fun machine node revised state blame start write _ =>
    keeps machine node revised state blame start write

theorem writeMachineLabels {name ns : String}
    (charges : ChargesMachineWrites environment machineSet name ns holds stopped)
    (start : holds machine node state) :
    Ensures environment
      (NodeSync.writeMachineLabels machine (expectedLabels machineSet machine node) name ns) state
      (fun machine' after => holds machine' node after ∧
        expectedLabels machineSet machine' node = expectedLabels machineSet machine node ∧
        machine'.nodeLabels = expectedLabels machineSet machine' node) stopped := by
  apply Ensures.ite
  · intro same
    exact Ensures.pure ⟨start, rfl, same⟩
  · intro differ
    have write : MachineWrite machineSet machine node _ := .labels differ
    apply (charges machine node _ state _ start write (if_pos rfl).symm).imp
    · intro machine' after updated
      obtain ⟨version, rfl, kept⟩ := updated
      exact ⟨kept, write.expectedLabels_eq, write.expectedLabels_eq.symm⟩
    · exact fun _ _ ended => ended

theorem writeMachineTaints {name ns : String}
    (charges : ChargesMachineWrites environment machineSet name ns holds stopped)
    (start : holds machine node state)
    (labelled : machine.nodeLabels = expectedLabels machineSet machine node) :
    Ensures environment
      (NodeSync.writeMachineTaints machine machineSet.templateTaints name ns) state
      (fun machine' after => holds machine' node after ∧
        expectedLabels machineSet machine' node = expectedLabels machineSet machine node ∧
        machine'.nodeLabels = expectedLabels machineSet machine' node ∧
        machine'.spec.taints = machineSet.templateTaints) stopped := by
  apply Ensures.ite
  · intro same
    exact Ensures.pure ⟨start, rfl, labelled, same⟩
  · intro differ
    have write : MachineWrite machineSet machine node _ := .taints labelled differ
    apply (charges machine node _ state _ start write (if_neg (Ne.symm differ)).symm).imp
    · intro machine' after updated
      obtain ⟨version, rfl, kept⟩ := updated
      exact ⟨kept, rfl, labelled, rfl⟩
    · exact fun _ _ ended => ended

/-- The copy at hand afterwards is one whose labels would be written no more, spelled out. If the
node was not written, its labels are those that are expected. -/
theorem writeNodeLabels {name : String}
    (charges : ChargesNodeWrites environment machineSet name holds wrote stopped)
    (start : holds machine node state)
    (labelled : machine.nodeLabels = expectedLabels machineSet machine node)
    (tainted : machine.spec.taints = machineSet.templateTaints) :
    Ensures environment
      (NodeSync.writeNodeLabels node (expectedLabels machineSet machine node) name) state
      (fun synced after => ∃ node', holds machine node' after ∧
        expectedLabels machineSet machine node' = expectedLabels machineSet machine node ∧
        labelledNode node' (expectedLabels machineSet machine node) = node' ∧
        synced = (syncNodeLabels node' (expectedLabels machineSet machine node)).1 ∧
        (node'.AgreesWith (expectedLabels machineSet machine node) ∨ wrote after)) stopped := by
  change Ensures environment
    (if (syncNodeLabels node (expectedLabels machineSet machine node)).2 then
      Pass.call (.updateNode (syncNodeLabels node (expectedLabels machineSet machine node)).1)
        (Pass.blameLabels name "")
    else return (syncNodeLabels node (expectedLabels machineSet machine node)).1) state _ _
  apply Ensures.ite
  · intro changed
    have write : NodeWrite machineSet machine node _ :=
      .labels labelled tainted (syncNodeLabels_changed_iff.mp changed)
    have same := syncNodeLabels_taints node (expectedLabels machineSet machine node)
    apply (charges machine node _ state _ start write (if_pos same).symm).imp
    · intro node' after updated
      obtain ⟨version, rfl, kept, wrote⟩ := updated
      have again : (syncNodeLabels
          ((syncNodeLabels node (expectedLabels machineSet machine node)).1.withVersion version)
          (expectedLabels machineSet machine node)).1 =
            (syncNodeLabels node (expectedLabels machineSet machine node)).1.withVersion
              version := by
        rw [syncNodeLabels_withVersion, syncExpected_again]
      exact ⟨_, kept, write.expectedLabels_eq, labelledNode_eq_self again, again.symm, .inr wrote⟩
    · exact fun _ _ ended => ended
  · intro unchanged
    have agrees := not_not.mp (mt syncNodeLabels_changed_iff.mpr unchanged)
    refine Ensures.pure ⟨node, start, rfl, ?_, rfl, .inl agrees⟩
    rw [labelledNode, if_neg unchanged]

/-- The taints of the node are compared on a copy with its labels spelled out. -/
theorem writeNodeTaints {name : String}
    (charges : ChargesNodeWrites environment machineSet name holds wrote stopped)
    (start : holds machine node state)
    (labelled : machine.nodeLabels = expectedLabels machineSet machine node)
    (tainted : machine.spec.taints = machineSet.templateTaints)
    (synced : labelledNode node (expectedLabels machineSet machine node) = node)
    (noted : node.AgreesWith (expectedLabels machineSet machine node) ∨ wrote state) :
    Ensures environment
      (NodeSync.writeNodeTaints (syncNodeLabels node (expectedLabels machineSet machine node)).1
        (dedupTaints machine.spec.taints).unique name) state
      (fun _ after => ∃ node', holds machine node' after ∧ Finished machineSet machine node' ∧
        (node'.AgreesWith (expectedLabels machineSet machine node') ∨ wrote after)) stopped := by
  have desired : expectedNodeTaints (dedupTaints machine.spec.taints).unique
      (syncNodeLabels node (expectedLabels machineSet machine node)).1.taints =
        desiredTaints machineSet node := by
    rw [desiredTaints, syncNodeLabels_taints, tainted]
  rw [NodeSync.writeNodeTaints, desired, syncNodeLabels_taints]
  apply Ensures.ite
  · intro same
    exact Ensures.pure ⟨node, start, ⟨labelled, tainted, synced, same⟩, noted⟩
  · intro differ
    have write : NodeWrite machineSet machine node _ :=
      .taints labelled tainted (Bool.eq_false_iff.mpr differ)
    have changes : ((syncNodeLabels node (expectedLabels machineSet machine node)).1.setTaints
        (desiredTaints machineSet node)).taints ≠ node.taints := by
      rw [Node.taints_setTaints]
      exact desiredTaints_ne (Bool.eq_false_iff.mpr differ)
    apply Ensures.bind
    apply (charges machine node _ state _ start write (if_neg changes).symm).imp
    · intro node' after updated
      obtain ⟨version, rfl, kept, wrote⟩ := updated
      exact Ensures.pure ⟨_, kept, Finished.of_nodeTaints labelled tainted version, .inr wrote⟩
    · exact fun _ _ ended => ended

/-- One machine. What is kept up by every write of the pass, with its report, holds once the pass
has gone through with the machine and its node. A node that was not written has the labels that are
expected of it. -/
theorem synchroniseMachine_charged {nodeName : String}
    (provisioned : machine.nodeName? = some nodeName)
    (read : Ensures environment
      (Pass.call (.getNode nodeName) (Pass.blameLabels nodeName "")) state (holds machine) stopped)
    (machineWrites : ChargesMachineWrites environment machineSet machine.metadata.anyName
      (machine.metadata.ns.getD "") holds stopped)
    (nodeWrites : ChargesNodeWrites environment machineSet nodeName holds wrote stopped) :
    Ensures environment (NodeSync.synchroniseMachine machineSet machine) state
      (fun warning after => warning = templateWarning? machineSet machine ∧
        ∃ machine' node', holds machine' node' after ∧ Finished machineSet machine' node' ∧
          (node'.AgreesWith (expectedLabels machineSet machine' node') ∨ wrote after))
      stopped := by
  rw [NodeSync.synchroniseMachine, provisioned]
  apply Ensures.bind
  apply read.imp
  · intro node after start
    apply Ensures.bind
    apply (writeMachineLabels machineWrites start).imp
    · intro labelled after kept
      obtain ⟨kept, expected, labels⟩ := kept
      apply Ensures.bind
      apply (writeMachineTaints machineWrites kept labels).imp
      · intro done after kept
        obtain ⟨kept, expected', labels, taints⟩ := kept
        rw [← expected, ← expected']
        apply Ensures.bind
        apply (writeNodeLabels nodeWrites kept labels taints).imp
        · intro synced after kept
          obtain ⟨node', kept, expected, labelled, rfl, noted⟩ := kept
          rw [← expected] at labels labelled noted ⊢
          apply Ensures.bind
          apply (writeNodeTaints nodeWrites kept labels taints labelled noted).imp
          · intro _ after finished
            obtain ⟨node'', kept, finished⟩ := finished
            refine Ensures.pure ⟨?_, done, node'', kept, finished⟩
            rw [taints, templateWarning?]
          · exact fun _ _ ended => ended
        · exact fun _ _ ended => ended
      · exact fun _ _ ended => ended
    · exact fun _ _ ended => ended
  · exact fun _ _ ended => ended

/-- One machine, whatever its failures are reported as. -/
theorem synchroniseMachine {nodeName : String} (provisioned : machine.nodeName? = some nodeName)
    (read : ∀ blame, Ensures environment (Pass.call (.getNode nodeName) blame) state
      (holds machine) stopped)
    (machineWrites : KeepsMachineWrites environment machineSet holds stopped)
    (nodeWrites : KeepsNodeWrites environment machineSet holds stopped) :
    Ensures environment (NodeSync.synchroniseMachine machineSet machine) state
      (fun warning after => warning = templateWarning? machineSet machine ∧
        ∃ machine' node', holds machine' node' after ∧ Finished machineSet machine' node')
      stopped := by
  have nodeCharges : ChargesNodeWrites environment machineSet nodeName holds (fun _ => True)
      stopped := by
    intro machine node revised state blame start write _
    apply (nodeWrites machine node revised state blame start write).imp
    · rintro node' after ⟨version, rfl, kept⟩
      exact ⟨version, rfl, kept, trivial⟩
    · exact fun _ _ ended => ended
  apply (synchroniseMachine_charged provisioned (read _) (machineWrites.charges _ _)
    nodeCharges).imp
  · rintro warning after ⟨rfl, machine', node', kept, finished, -⟩
    exact ⟨rfl, machine', node', kept, finished⟩
  · exact fun _ _ ended => ended

/-- All machines, by induction on them: `holds` tells what holds before those that are still to
come. -/
theorem synchroniseMachines {machines : List Machine} (holds : List Machine → σ → Prop)
    (start : holds machines state)
    (skips : ∀ machine rest state, machine.nodeName? = none → holds (machine :: rest) state →
      holds rest state)
    (each : ∀ machine nodeName rest state, machine.nodeName? = some nodeName →
      holds (machine :: rest) state →
      Ensures environment (NodeSync.synchroniseMachine machineSet machine) state
        (fun warning after => warning = templateWarning? machineSet machine ∧ holds rest after)
        stopped) :
    Ensures environment (NodeSync.synchroniseMachines machineSet machines) state
      (fun warnings after => warnings = templateWarnings machineSet machines ∧ holds [] after)
      stopped := by
  induction machines generalizing state with
  | nil => exact Ensures.pure ⟨rfl, start⟩
  | cons machine rest ih =>
      rw [NodeSync.synchroniseMachines, templateWarnings_cons]
      apply Ensures.bind
      cases provisioned : machine.nodeName? with
      | none =>
          rw [synchroniseMachine_of_none provisioned]
          apply Ensures.pure
          apply Ensures.bind
          apply (ih (skips machine rest state provisioned start)).imp
          · intro warnings after reached
            obtain ⟨rfl, kept⟩ := reached
            exact Ensures.pure ⟨rfl, kept⟩
          · exact fun _ _ ended => ended
      | some nodeName =>
          apply (each machine nodeName rest state provisioned start).imp
          · intro warning middle reached
            obtain ⟨rfl, kept⟩ := reached
            apply Ensures.bind
            apply (ih kept).imp
            · intro warnings after reached
              obtain ⟨rfl, kept⟩ := reached
              exact Ensures.pure ⟨rfl, kept⟩
            · exact fun _ _ ended => ended
          · exact fun _ _ ended => ended

/-- A machine set that was read: its machines are listed and selected. -/
theorem synchroniseSet {ns name : String} {post : Outcome → σ → Prop}
    (lists : Ensures environment (Pass.call (.listMachines ns) Pass.noBlame) state
      (fun (listed : List Machine) after =>
        (∀ error, selectMachines machineSet listed = .error error →
          stopped (.selector (ns ++ "/" ++ name) error) after) ∧
        ∀ selected, selectMachines machineSet listed = .ok selected →
          Ensures environment (NodeSync.synchroniseMachines machineSet selected) after
            (fun warnings last => post (passOutcome warnings) last) stopped) stopped) :
    Ensures environment (NodeSync.synchroniseSet machineSet ns name) state post stopped := by
  apply Ensures.bind
  apply lists.imp
  · intro listed after proceeds
    obtain ⟨faulty, valid⟩ := proceeds
    cases selects : selectMachines machineSet listed with
    | error error => exact Ensures.throw (faulty error selects)
    | ok selected =>
        apply Ensures.bind
        apply (valid selected selects).imp
        · exact fun warnings last reached => Ensures.pure reached
        · exact fun _ _ ended => ended
  · exact fun _ _ ended => ended

/-- The whole pass. -/
theorem synchronise {ns name : String} {post : Outcome → σ → Prop}
    (cancelled : environment.cancelled state = true → stopped .cancelled state)
    (silent : ∀ after, environment.answer (.getMachineSet ns name) state = (none, after) →
      stopped .cancelled after)
    (gone : ∀ what after,
      environment.answer (.getMachineSet ns name) state = (some (.error (.notFound what)), after) →
      post .gone after)
    (failed : ∀ error after,
      environment.answer (.getMachineSet ns name) state = (some (.error error), after) →
      (∀ what, error ≠ .notFound what) → stopped (.store error) after)
    (read : ∀ machineSet after,
      environment.answer (.getMachineSet ns name) state = (some (.ok machineSet), after) →
      Ensures environment (NodeSync.synchroniseSet machineSet ns name) after post stopped) :
    Ensures environment (ExceptT.mk (NodeSync.synchronise ns name)) state post stopped := by
  apply guarded
  · exact fun ended => throw (cancelled ended)
  · rintro (_ | error | machineSet) after replied
    · exact throw (silent after replied)
    · cases error with
      | notFound what => exact pure (gone what after replied)
      | _ => exact throw (failed _ after replied nofun)
    · exact read machineSet after replied

end Parts

end Pass.Ensures

/-- What a pass ensures holds of its result and of the state that it leaves. -/
theorem runPass_of_ensures {σ : Type} {environment : Environment σ} {state : σ} {ns name : String}
    {post : Outcome → σ → Prop} {stopped : ControllerError → σ → Prop}
    (ensured : Ensures environment (ExceptT.mk (synchronise ns name)) state post stopped) :
    (∃ outcome after, runPass environment ns name state = (.ok outcome, after) ∧
      post outcome after) ∨
    ∃ cause after, runPass environment ns name state = (.error cause, after) ∧
      stopped cause after := by
  unfold Ensures at ensured
  change Pass.Meets _ _ ((synchronise ns name).run environment state) at ensured
  unfold runPass
  rcases whole : (synchronise ns name).run environment state with ⟨error | outcome, after⟩
  · rw [whole] at ensured
    exact .inr ⟨error, after, rfl, ensured⟩
  · rw [whole] at ensured
    exact .inl ⟨outcome, after, rfl, ensured⟩

end NodeSync
