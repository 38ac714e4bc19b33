/-
Module: NodeSync.Proofs.Pass.Settlement
Purpose: Where a pass takes a machine and its node, apart from their versions: `settledMachine` and
  `settledNode`. Each of the four writes of a pass leads to a pair that is taken to the same place,
  so that a pass that was cut short after any of them is made good by the next one. A settled pair
  is in step with the template: none of the four comparisons finds anything to write.
Main exports: settledMachine, settledNode, SameCourse, InStep, SameCourse.machineLabels,
  SameCourse.machineTaints, SameCourse.nodeLabels, SameCourse.nodeTaints, inStep_settled,
  expectedLabels_settledNode
-/
import NodeSync.Pass.Synchronise
import NodeSync.Proofs.Provenance
import NodeSync.Proofs.Store.Writes
import NodeSync.Proofs.TaintSet

namespace NodeSync

set_option autoImplicit false

/-! ## Parts of the node -/

@[simp] theorem Node.taints_setTaints (node : Node) (taints : List Taint) :
    (node.setTaints taints).taints = taints := by
  cases taints <;> rfl

theorem syncNodeLabels_withVersion (node : Node) (version : Option String) (expected : Labels) :
    syncNodeLabels (node.withVersion version) expected =
      ((syncNodeLabels node expected).1.withVersion version, (syncNodeLabels node expected).2) := by
  by_cases agrees : node.AgreesWith expected
  · have agrees' : (node.withVersion version).AgreesWith expected := agrees
    rw [syncNodeLabels_of_agreesWith agrees, syncNodeLabels_of_agreesWith agrees']
    rfl
  · have differs : ¬(node.withVersion version).AgreesWith expected := agrees
    rw [syncNodeLabels_of_not_agreesWith agrees, syncNodeLabels_of_not_agreesWith differs]
    rfl

theorem syncNodeLabels_content (node : Node) (expected : Labels) :
    syncNodeLabels node.content expected =
      ((syncNodeLabels node expected).1.content, (syncNodeLabels node expected).2) :=
  syncNodeLabels_withVersion node none expected

theorem syncNodeLabels_setTaints (node : Node) (taints : List Taint) (expected : Labels) :
    syncNodeLabels (node.setTaints taints) expected =
      ((syncNodeLabels node expected).1.setTaints taints, (syncNodeLabels node expected).2) := by
  by_cases agrees : node.AgreesWith expected
  · have agrees' : (node.setTaints taints).AgreesWith expected := agrees
    rw [syncNodeLabels_of_agreesWith agrees, syncNodeLabels_of_agreesWith agrees']
    rfl
  · have differs : ¬(node.setTaints taints).AgreesWith expected := agrees
    rw [syncNodeLabels_of_not_agreesWith agrees, syncNodeLabels_of_not_agreesWith differs]
    rfl

theorem syncNodeLabels_spec (node : Node) (expected : Labels) :
    (syncNodeLabels node expected).1.spec = node.spec := by
  rw [syncNodeLabels]
  split <;> rfl

theorem syncNodeLabels_taints (node : Node) (expected : Labels) :
    (syncNodeLabels node expected).1.taints = node.taints := by
  rw [Node.taints, syncNodeLabels_spec, Node.taints]

/-- The node as it is stored once its labels were brought in line: one that agreed before is not
written. -/
def labelledNode (node : Node) (expected : Labels) : Node :=
  if (syncNodeLabels node expected).2 then (syncNodeLabels node expected).1 else node

theorem labelledNode_content (node : Node) (expected : Labels) :
    labelledNode node.content expected = (labelledNode node expected).content := by
  rw [labelledNode, labelledNode, syncNodeLabels_content]
  cases (syncNodeLabels node expected).2 <;> rfl

/-- A node that has its labels in line stays as it is. -/
theorem labelledNode_eq_self {node : Node} {expected : Labels}
    (synced : (syncNodeLabels node expected).1 = node) : labelledNode node expected = node := by
  rw [labelledNode, synced, ite_self]

/-! ## Where a pass takes a machine and its node -/

section Settlement

variable (machineSet : MachineSet) (machine : Machine) (node : Node)

/-- The taints that the template asks for on a node, with the cordon taints that it has. -/
def desiredTaints : List Taint :=
  expectedNodeTaints (dedupTaints machineSet.templateTaints).unique node.taints

/-- What a pass makes of a machine with the given node. -/
def settledMachine : Machine :=
  (machine.setNodeLabels (expectedLabels machineSet machine node)).setTaints
    machineSet.templateTaints

/-- What a pass makes of the node of a machine. -/
def settledNode : Node :=
  if (taintDiff (desiredTaints machineSet node) node.taints).isEmpty then
    labelledNode node (expectedLabels machineSet machine node)
  else
    (syncNodeLabels node (expectedLabels machineSet machine node)).1.setTaints
      (desiredTaints machineSet node)

/-- None of the four comparisons of a pass finds a difference. -/
structure InStep : Prop where
  machineLabels : machine.nodeLabels = expectedLabels machineSet machine node
  machineTaints : machine.spec.taints = machineSet.templateTaints
  nodeLabels : node.AgreesWith (expectedLabels machineSet machine node)
  nodeTaints : (taintDiff (desiredTaints machineSet node) node.taints).isEmpty = true

/-- A pass takes a machine and its node to the same place as some other pair. -/
structure SameCourse (machine' : Machine) (node' : Node) : Prop where
  ofMachine : (settledMachine machineSet machine' node').content =
    (settledMachine machineSet machine node).content
  ofNode : (settledNode machineSet machine' node').content =
    (settledNode machineSet machine node).content

end Settlement

section Course

variable {machineSet : MachineSet} {machine machine' machine'' : Machine} {node node' node'' : Node}

theorem settledMachine_content :
    settledMachine machineSet machine.content node.content =
      (settledMachine machineSet machine node).content := rfl

theorem settledNode_content :
    settledNode machineSet machine.content node.content =
      (settledNode machineSet machine node).content := by
  have expected : expectedLabels machineSet machine.content node.content =
      expectedLabels machineSet machine node := rfl
  have desired : desiredTaints machineSet node.content = desiredTaints machineSet node := rfl
  have taints : node.content.taints = node.taints := rfl
  rw [settledNode, settledNode, expected, desired, taints, syncNodeLabels_content,
    labelledNode_content]
  split
  · rfl
  · rfl

/-- Bringing the expected labels in line a second time changes nothing. -/
theorem syncExpected_again :
    (syncNodeLabels (syncNodeLabels node (expectedLabels machineSet machine node)).1
        (expectedLabels machineSet machine node)).1 =
      (syncNodeLabels node (expectedLabels machineSet machine node)).1 :=
  syncNodeLabels_syncNodeLabels hasSeparator_of_mem_expectedLabels

namespace SameCourse

theorem refl : SameCourse machineSet machine node machine node := ⟨rfl, rfl⟩

theorem trans (first : SameCourse machineSet machine node machine' node')
    (second : SameCourse machineSet machine' node' machine'' node'') :
    SameCourse machineSet machine node machine'' node'' :=
  ⟨second.ofMachine.trans first.ofMachine, second.ofNode.trans first.ofNode⟩

/-- Versions do not matter. -/
theorem of_content (sameMachine : machine'.content = machine.content)
    (sameNode : node'.content = node.content) :
    SameCourse machineSet machine node machine' node' := by
  constructor
  · rw [← settledMachine_content, sameMachine, sameNode, settledMachine_content]
  · rw [← settledNode_content, sameMachine, sameNode, settledNode_content]

/-- Writing the labels of the machine. -/
theorem machineLabels :
    SameCourse machineSet machine node
      (machine.setNodeLabels (expectedLabels machineSet machine node)) node := by
  constructor
  · rw [settledMachine, expectedLabels_setNodeLabels]
    rfl
  · rw [settledNode, expectedLabels_setNodeLabels]
    rfl

/-- Writing the taints of the machine. -/
theorem machineTaints :
    SameCourse machineSet machine node (machine.setTaints machineSet.templateTaints) node :=
  ⟨rfl, rfl⟩

/-- Writing the labels of the node once the machine has them. -/
theorem nodeLabels (labelled : machine.nodeLabels = expectedLabels machineSet machine node)
    (differs : ¬node.AgreesWith (expectedLabels machineSet machine node)) :
    SameCourse machineSet machine node machine
      (syncNodeLabels node (expectedLabels machineSet machine node)).1 := by
  have expected := expectedLabels_syncNodeLabels labelled
  constructor
  · rw [settledMachine, expected]
    rfl
  · have changed := syncNodeLabels_changed_iff.mpr differs
    have taints := syncNodeLabels_taints node (expectedLabels machineSet machine node)
    rw [settledNode, expected, desiredTaints, taints, syncExpected_again,
      labelledNode_eq_self syncExpected_again, settledNode, labelledNode, changed, if_pos rfl]
    rfl

/-- Writing the taints of the node once its labels were brought in line. -/
theorem nodeTaints (labelled : machine.nodeLabels = expectedLabels machineSet machine node)
    (differs : (taintDiff (desiredTaints machineSet node) node.taints).isEmpty = false) :
    SameCourse machineSet machine node machine
      ((syncNodeLabels node (expectedLabels machineSet machine node)).1.setTaints
        (desiredTaints machineSet node)) := by
  have expected : expectedLabels machineSet machine
      ((syncNodeLabels node (expectedLabels machineSet machine node)).1.setTaints
        (desiredTaints machineSet node)) = expectedLabels machineSet machine node :=
    expectedLabels_syncNodeLabels labelled
  constructor
  · rw [settledMachine, expected]
    rfl
  · have same := taintDiff_expectedNodeTaints_isEmpty
      (dedupTaints machineSet.templateTaints).unique node.taints
    have kept :
        (syncNodeLabels ((syncNodeLabels node (expectedLabels machineSet machine node)).1.setTaints
          (desiredTaints machineSet node)) (expectedLabels machineSet machine node)).1 =
            (syncNodeLabels node (expectedLabels machineSet machine node)).1.setTaints
              (desiredTaints machineSet node) := by
      rw [syncNodeLabels_setTaints, syncExpected_again]
    rw [settledNode, expected, labelledNode_eq_self kept, desiredTaints, Node.taints_setTaints,
      desiredTaints, if_pos same, settledNode, differs]
    rfl

/-- Both writes of the machine. -/
theorem machineWrites :
    SameCourse machineSet machine node (settledMachine machineSet machine node) node :=
  SameCourse.machineLabels.trans SameCourse.machineTaints

/-- Both writes of the machine, and the labels of the node. -/
theorem labelledNode :
    SameCourse machineSet machine node (settledMachine machineSet machine node)
      (labelledNode node (expectedLabels machineSet machine node)) := by
  have expected : expectedLabels machineSet (settledMachine machineSet machine node) node =
      expectedLabels machineSet machine node := expectedLabels_setNodeLabels
  rw [NodeSync.labelledNode]
  by_cases agrees : node.AgreesWith (expectedLabels machineSet machine node)
  · rw [syncNodeLabels_of_agreesWith agrees]
    exact SameCourse.machineWrites
  · have written : SameCourse machineSet (settledMachine machineSet machine node) node
        (settledMachine machineSet machine node)
        (syncNodeLabels node (expectedLabels machineSet
          (settledMachine machineSet machine node) node)).1 :=
      SameCourse.nodeLabels expected.symm (by rw [expected]; exact agrees)
    rw [expected] at written
    rw [syncNodeLabels_changed_iff.mpr agrees]
    exact SameCourse.machineWrites.trans written

/-- All four writes. -/
theorem settled :
    SameCourse machineSet machine node (settledMachine machineSet machine node)
      (settledNode machineSet machine node) := by
  have expected : expectedLabels machineSet (settledMachine machineSet machine node) node =
      expectedLabels machineSet machine node := expectedLabels_setNodeLabels
  rw [settledNode]
  split
  · exact SameCourse.labelledNode
  · rename_i differs
    have written : SameCourse machineSet (settledMachine machineSet machine node) node
        (settledMachine machineSet machine node)
        ((syncNodeLabels node (expectedLabels machineSet
          (settledMachine machineSet machine node) node)).1.setTaints
            (desiredTaints machineSet node)) :=
      SameCourse.nodeTaints expected.symm (Bool.eq_false_iff.mpr differs)
    rw [expected] at written
    exact SameCourse.machineWrites.trans written

end SameCourse

/-! ## A settled pair -/

/-- The labels of a settled node are the ones that were brought in line. -/
theorem labelMap_settledNode :
    (settledNode machineSet machine node).labelMap =
      (syncNodeLabels node (expectedLabels machineSet machine node)).1.labelMap := by
  by_cases agrees : node.AgreesWith (expectedLabels machineSet machine node)
  · rw [settledNode, labelledNode, syncNodeLabels_of_agreesWith agrees]
    split <;> rfl
  · rw [settledNode, labelledNode, syncNodeLabels_of_not_agreesWith agrees]
    split <;> rfl

/-- The record of a settled node is the one that was brought in line. -/
theorem ownedKeys_settledNode :
    (settledNode machineSet machine node).ownedKeys =
      (syncNodeLabels node (expectedLabels machineSet machine node)).1.ownedKeys := by
  by_cases agrees : node.AgreesWith (expectedLabels machineSet machine node)
  · rw [settledNode, labelledNode, syncNodeLabels_of_agreesWith agrees]
    split <;> rfl
  · rw [settledNode, labelledNode, syncNodeLabels_of_not_agreesWith agrees]
    split <;> rfl

/-- The taints of a settled node are those it had, or those it was to have. -/
theorem taints_settledNode :
    (settledNode machineSet machine node).taints =
      if (taintDiff (desiredTaints machineSet node) node.taints).isEmpty then node.taints
      else desiredTaints machineSet node := by
  rw [settledNode, labelledNode]
  split
  · split
    · exact syncNodeLabels_taints _ _
    · rfl
  · exact Node.taints_setTaints _ _

/-- A settled node has the identities of the template's taints and of its cordon taints. -/
theorem mem_identities_settledNode (identity : Taint.Identity) :
    identity ∈ identities (settledNode machineSet machine node).taints ↔
      identity ∈ identities machineSet.templateTaints ∨
        identity ∈ identities (node.taints.filter Taint.isCordon) := by
  have desired : identity ∈ identities (desiredTaints machineSet node) ↔
      identity ∈ identities machineSet.templateTaints ∨
        identity ∈ identities (node.taints.filter Taint.isCordon) := by
    rw [desiredTaints, mem_identities_expectedNodeTaints, mem_identities_dedupTaints]
  rw [taints_settledNode]
  split
  · rename_i same
    rw [← taintDiff_isEmpty_iff.mp same identity, desired]
  · exact desired

/-- A settled pair expects the same labels as before. -/
theorem expectedLabels_settled :
    expectedLabels machineSet (settledMachine machineSet machine node)
        (settledNode machineSet machine node) = expectedLabels machineSet machine node := by
  have labelled : (settledMachine machineSet machine node).nodeLabels =
      expectedLabels machineSet machine node := rfl
  rw [← expectedLabels_syncNodeLabels labelled]
  apply expectedLabels_congr
  intro key _
  rw [mayLabel, mayLabel, labelMap_settledNode, ownedKeys_settledNode]

/-- A settled pair is in step with the template, if the keys of the template can be recorded. -/
theorem inStep_settled
    (filled : ∀ key, machineSet.templateNodeLabels.contains key = true → key ≠ "") :
    InStep machineSet (settledMachine machineSet machine node)
      (settledNode machineSet machine node) where
  machineLabels := expectedLabels_settled.symm
  machineTaints := rfl
  nodeLabels := by
    have written : (syncNodeLabels node (expectedLabels machineSet machine node)).1.AgreesWith
        (expectedLabels machineSet machine node) := by
      apply agreesWith_syncNodeLabels hasSeparator_of_mem_expectedLabels
      intro key present
      rw [contains_expectedLabels, Bool.and_eq_true] at present
      exact filled key present.2
    rw [expectedLabels_settled, Node.agreesWith_iff, labelMap_settledNode, ownedKeys_settledNode]
    exact Node.agreesWith_iff.mp written
  nodeTaints := by
    rw [desiredTaints, taints_settledNode]
    split
    · assumption
    · exact taintDiff_expectedNodeTaints_isEmpty _ _

/-- A machine that was not written yet expects the same labels of its settled node, if the keys of
the template can be recorded. -/
theorem expectedLabels_settledNode
    (filled : ∀ key, machineSet.templateNodeLabels.contains key = true → key ≠ "") :
    expectedLabels machineSet machine (settledNode machineSet machine node) =
      expectedLabels machineSet machine node := by
  apply expectedLabels_congr
  intro key asked
  have listed : (settledNode machineSet machine node).ownedKeys.contains key =
      mayLabel machine node key := by
    have inStep : InStep machineSet (settledMachine machineSet machine node)
        (settledNode machineSet machine node) := inStep_settled filled
    have agrees := inStep.nodeLabels
    rw [expectedLabels_settled] at agrees
    rw [(Node.agreesWith_iff.mp agrees).1 key, contains_expectedLabels, asked, Bool.and_true]
  rw [mayLabel, listed, labelMap_settledNode]
  cases may : mayLabel machine node key with
  | true =>
      have plain : Provenance.hasSeparator key = false := by
        simp only [mayLabel, Bool.and_eq_true, Bool.not_eq_true'] at may
        exact may.1
      simp [plain]
  | false =>
      cases separated : Provenance.hasSeparator key with
      | true => simp
      | false =>
          -- Somebody else has set the label on the node, and it is still there.
          simp only [mayLabel, separated, Bool.not_false, Bool.true_and, Bool.or_eq_false_iff,
            Bool.not_eq_false'] at may
          obtain ⟨⟨carried, unclaimed⟩, unlisted⟩ := may
          have unexpected : (expectedLabels machineSet machine node).contains key = false :=
            contains_expectedLabels_of_foreign carried unclaimed unlisted
          have still : (syncNodeLabels node
              (expectedLabels machineSet machine node)).1.labelMap.contains key = true := by
            rw [SortedMap.contains, syncNodeLabels_get?_of_foreign unlisted unexpected]
            exact carried
          simp [still, unclaimed]

/-- Versions do not matter. -/
theorem InStep.of_content (inStep : InStep machineSet machine node)
    (sameMachine : machine'.content = machine.content) (sameNode : node'.content = node.content) :
    InStep machineSet machine' node' := by
  have here : InStep machineSet machine.content node.content :=
    ⟨inStep.1, inStep.2, inStep.3, inStep.4⟩
  rw [← sameMachine, ← sameNode] at here
  exact ⟨here.1, here.2, here.3, here.4⟩

end Course

end NodeSync
