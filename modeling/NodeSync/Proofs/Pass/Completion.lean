/-
Module: NodeSync.Proofs.Pass.Completion
Purpose: What an undisturbed pass achieves. The template's labels, as far as they may be put on a
  node, and its taints are on every machine and its node afterwards, the record lists exactly the
  labels that were put there, and all other labels and the cordon taints of the node are kept.
Main exports: IsShare, Delivered, delivered_of_settled, completed_of_pass, pass_of_present,
  pass_delivers
-/
import NodeSync.Proofs.Pass.Course

namespace NodeSync

set_option autoImplicit false

/-! ## What is promised -/

section Promise

variable (machineSet : MachineSet) (machine : Machine) (node : Node)

/-- The labels of the template that may be put on a machine and its node: all but those whose keys
have a comma, and those that the node has without the machine carrying them or the annotation
listing them. -/
def IsShare (share : Labels) : Prop :=
  ∀ key, share.get? key =
    if ',' ∈ key.toList ∨ (node.labelMap.contains key = true ∧
        machine.nodeLabels.contains key = false ∧ node.ownedKeys.contains key = false) then none
    else machineSet.templateNodeLabels.get? key

/-- What a pass promises for a machine and its node, given the labels that may be put there. -/
structure Delivered (share : Labels) (machine' : Machine) (node' : Node) : Prop where
  machineLabels : machine'.nodeLabels = share
  machineTaints : machine'.spec.taints = machineSet.templateTaints
  /-- The old labels without the recorded ones that are not wanted, overridden by the share. -/
  nodeLabels : ∀ key, node'.labelMap.get? key =
    (share.get? key).or
      (if node.ownedKeys.contains key = true ∧ share.contains key = false then none
        else node.labelMap.get? key)
  nodeRecord : node'.ownedKeys = share.keySet
  nodeTaints : ∀ taint, containsTaint node'.taints taint =
    (containsTaint machineSet.templateTaints taint ||
      containsTaint (node.taints.filter Taint.isCordon) taint)

end Promise

section Completion

variable {machineSet : MachineSet} {machine machine' : Machine} {node node' : Node}

/-- The expected labels are the ones that may be put on a machine and its node. -/
theorem isShare_expectedLabels :
    IsShare machineSet machine node (expectedLabels machineSet machine node) := by
  intro key
  rw [get?_expectedLabels]
  have separated : Provenance.hasSeparator key = true ↔ ',' ∈ key.toList := by
    rw [← Bool.not_eq_false, Provenance.hasSeparator_eq_false_iff, Classical.not_not]
    rfl
  have may : mayLabel machine node key = true ↔
      ¬(',' ∈ key.toList ∨ (node.labelMap.contains key = true ∧
        machine.nodeLabels.contains key = false ∧ node.ownedKeys.contains key = false)) := by
    rw [← separated, mayLabel]
    cases Provenance.hasSeparator key <;> cases node.labelMap.contains key <;>
      cases machine.nodeLabels.contains key <;> cases node.ownedKeys.contains key <;> simp
  split
  · rename_i here
    rw [if_neg (may.mp here)]
  · rename_i absent
    rw [if_pos (Classical.not_not.mp (mt may.mpr absent))]

/-- A settled pair has what was promised, if the keys of the template can be recorded. -/
theorem delivered_of_settled (settled : Settled machineSet machine node machine' node')
    (filled : ∀ key, machineSet.templateNodeLabels.contains key = true → key ≠ "") :
    Delivered machineSet node (expectedLabels machineSet machine node) machine' node' where
  machineLabels := congrArg Machine.nodeLabels settled.ofMachine
  machineTaints := congrArg (fun content => content.spec.taints) settled.ofMachine
  nodeLabels key := by
    have labels : node'.labelMap =
        (syncNodeLabels node (expectedLabels machineSet machine node)).1.labelMap :=
      (congrArg Node.labelMap settled.ofNode).trans labelMap_settledNode
    rw [labels, syncNodeLabels_labelMap, SortedMap.get?_override, keptLabels,
      SortedMap.get?_filterKeys]
    cases node.ownedKeys.contains key <;>
      cases (expectedLabels machineSet machine node).contains key <;> rfl
  nodeRecord := by
    have record : node'.ownedKeys =
        (syncNodeLabels node (expectedLabels machineSet machine node)).1.ownedKeys :=
      (congrArg Node.ownedKeys settled.ofNode).trans ownedKeys_settledNode
    apply SortedSet.ext_contains
    intro key
    rw [record, SortedMap.contains_keySet, Bool.eq_iff_iff,
      contains_ownedKeys_syncNodeLabels hasSeparator_of_mem_expectedLabels]
    refine ⟨fun listed => listed.2, fun present => ⟨?_, present⟩⟩
    rw [contains_expectedLabels, Bool.and_eq_true] at present
    exact filled key present.2
  nodeTaints taint := by
    have taints : node'.content.taints = (settledNode machineSet machine node).taints := by
      rw [settled.ofNode]
      rfl
    change containsTaint node'.content.taints taint = _
    rw [taints, Bool.eq_iff_iff, containsTaint_iff, mem_identities_settledNode, Bool.or_eq_true,
      containsTaint_iff, containsTaint_iff]

end Completion

section WholePass

variable {store : MemoryStore} {machineSet : MachineSet} {ns name : String}

/-- What an undisturbed pass leaves, if it gives a result. -/
theorem completed_of_pass {outcome : Outcome} {after : MemoryStore} (placed : store.Placed)
    (found : store.machineSets.get? ⟨ns, name⟩ = some machineSet)
    (distinct : ((store.selected machineSet ns).filterMap Machine.nodeName?).Nodup)
    (calm : ∀ operation, store.pendingFailures operation = 0)
    (passed : store.pass ns name = (.ok outcome, after)) :
    outcome = passOutcome (templateWarnings machineSet (store.selected machineSet ns)) ∧
      machineSet.Valid ∧
      Completed machineSet (bindings (store.selected machineSet ns)) store after := by
  have secured := synchronise_secures True placed found distinct
  rcases MemoryStore.passUnder_of_secures [] (fun _ => ⟨rfl, calm⟩) secured with
    ⟨outcome', after', passed', ⟨-, loud, -⟩ | reached⟩ | ⟨_, after', passed', -⟩
  · exact absurd trivial loud
  · rw [← MemoryStore.pass, passed] at passed'
    cases passed'
    exact reached
  · rw [← MemoryStore.pass, passed] at passed'
    cases passed'

/-- An undisturbed pass gives a result if the set is valid and the nodes exist. -/
theorem pass_of_present (placed : store.Placed)
    (found : store.machineSets.get? ⟨ns, name⟩ = some machineSet) (valid : machineSet.Valid)
    (distinct : ((store.selected machineSet ns).filterMap Machine.nodeName?).Nodup)
    (present : ∀ nodeName ∈ (store.selected machineSet ns).filterMap Machine.nodeName?,
      store.nodes.contains nodeName = true)
    (calm : ∀ operation, store.pendingFailures operation = 0) :
    ∃ outcome after, store.pass ns name = (.ok outcome, after) := by
  have secured := synchronise_secures True placed found distinct
  rcases MemoryStore.passUnder_of_secures [] (fun _ => ⟨rfl, calm⟩) secured with
    ⟨outcome, after, passed, -⟩ | ⟨_, after, -, halted⟩
  · exact ⟨outcome, after, passed⟩
  · obtain ⟨nodeName, bound, missing⟩ := halted.cause ⟨trivial, valid⟩
    rw [bindings_names] at bound
    rw [present nodeName bound] at missing
    cases missing

end WholePass

/-! ## A small cluster -/

namespace SmallCluster

/-- A set that wants two labels and a taint on its nodes. -/
def machineSet : MachineSet where
  metadata := { ObjectMeta.empty with name := some "web", ns := some "machines" }
  spec := {
    replicas := none
    selector := ⟨some (SortedMap.ofList [("app", "web")]), none⟩
    template := {
      metadata := { MachineMetadata.empty with labels := SortedMap.ofList [("app", "web")] }
      spec := { MachineSpec.empty with
        metadata := { MachineMetadata.empty with
          labels := SortedMap.ofList [("tier", "front"), ("zone", "a")] }
        taints := [⟨"dedicated", some "web", "NoSchedule", none⟩] } }
    extra := .empty }
  status := none

/-- A machine of the set, which has joined the cluster. -/
def machine : Machine where
  metadata := { ObjectMeta.empty with
    name := some "web-0"
    ns := some "machines"
    labels := some (SortedMap.ofList [("app", "web")]) }
  spec := MachineSpec.empty
  status := some ⟨some ⟨none, none, none, some "node-0", none, none, none⟩, .empty⟩

/-- The node of the machine: cordoned, with an owned label and one that somebody else has set. -/
def node : Node where
  metadata := { ObjectMeta.empty with
    name := some "node-0"
    labels := some (SortedMap.ofList [("old", "x"), ("zone", "b")])
    annotations := some (SortedMap.ofList [(Provenance.annotationKey, "old")]) }
  spec := some { NodeSpec.empty with
    taints := some [⟨Taint.cordonKey, none, Taint.cordonEffect, none⟩] }
  status := none

/-- The three of them in a store. -/
def store : MemoryStore where
  machineSets := SortedMap.empty.insert ⟨"machines", "web"⟩ machineSet
  machines := SortedMap.empty.insert ⟨"machines", "web-0"⟩ machine
  nodes := SortedMap.empty.insert "node-0" node
  pendingFailures _ := 0
  updates := []
  version := 0
  uids := 0

theorem get?_singleton {κ ν : Type} [Ord κ] [Std.TransOrd κ] [Std.LawfulEqOrd κ] {key other : κ}
    {value found : ν} (there : (SortedMap.empty.insert key value).get? other = some found) :
    other = key ∧ found = value := by
  rw [SortedMap.get?_insert] at there
  split at there
  · exact ⟨Std.LawfulEqOrd.eq_of_compare ‹_›, (Option.some.inj there).symm⟩
  · cases there

theorem placed : store.Placed where
  machineSets key machineSet there := by
    obtain ⟨rfl, rfl⟩ := get?_singleton there
    rfl
  machines key machine there := by
    obtain ⟨rfl, rfl⟩ := get?_singleton there
    rfl
  nodes name node there := by
    obtain ⟨rfl, rfl⟩ := get?_singleton there
    rfl

theorem found : store.machineSets.get? ⟨"machines", "web"⟩ = some machineSet :=
  SortedMap.get?_insert_self _ _ _

theorem valid : machineSet.Valid := ⟨_, rfl⟩

theorem filled (key : String) (asked : machineSet.templateNodeLabels.contains key = true) :
    key ≠ "" := by
  rintro rfl
  exact absurd asked (by decide)

theorem nodeNames :
    (store.selected machineSet "machines").filterMap Machine.nodeName? = ["node-0"] := by
  decide

theorem distinct : ((store.selected machineSet "machines").filterMap Machine.nodeName?).Nodup := by
  rw [nodeNames]
  decide

end SmallCluster

/-! ## The pass -/

/-- In an undisturbed pass over a machine set whose machines have distinct nodes, all of which
exist, every machine and its node get what is promised. -/
theorem pass_delivers {store : MemoryStore} {ns name : String} {machineSet : MachineSet}
    (placed : store.Placed) (calm : ∀ operation, store.pendingFailures operation = 0)
    (found : store.machineSets.get? ⟨ns, name⟩ = some machineSet) (valid : machineSet.Valid)
    (filled : ∀ key, machineSet.templateNodeLabels.contains key = true → key ≠ "")
    (distinct : ((store.selected machineSet ns).filterMap Machine.nodeName?).Nodup)
    (present : ∀ nodeName ∈ (store.selected machineSet ns).filterMap Machine.nodeName?,
      store.nodes.contains nodeName = true) :
    ∃ warnings after, store.pass ns name = (.ok (passOutcome warnings), after) ∧
      ∀ machine ∈ store.selected machineSet ns, ∀ nodeName,
        machine.nodeName? = some nodeName → ∀ node, store.nodes.get? nodeName = some node →
          ∃ share machine' node', IsShare machineSet machine node share ∧
            after.machines.get? machine.place = some machine' ∧
            after.nodes.get? nodeName = some node' ∧
            Delivered machineSet node share machine' node' := by
  obtain ⟨outcome, after, passed⟩ := pass_of_present placed found valid distinct present calm
  obtain ⟨rfl, -, completed⟩ := completed_of_pass placed found distinct calm passed
  refine ⟨_, after, passed, ?_⟩
  intro machine listed nodeName provisioned node there
  obtain ⟨machine', node', found', there', settled⟩ := completed.moved.pairs
    machine.place nodeName (mem_bindings_iff.mpr ⟨machine, listed, provisioned, rfl⟩)
    machine node (MemoryStore.get?_of_mem_selected placed.machines listed) there
  exact ⟨_, machine', node', isShare_expectedLabels, found', there',
    delivered_of_settled settled filled⟩

/-- In the small cluster every hypothesis holds. -/
theorem pass_delivers_smallCluster :
    ∃ warnings after,
      SmallCluster.store.pass "machines" "web" = (.ok (passOutcome warnings), after) ∧
      ∀ machine ∈ SmallCluster.store.selected SmallCluster.machineSet "machines", ∀ nodeName,
        machine.nodeName? = some nodeName →
          ∀ node, SmallCluster.store.nodes.get? nodeName = some node →
            ∃ share machine' node', IsShare SmallCluster.machineSet machine node share ∧
              after.machines.get? machine.place = some machine' ∧
              after.nodes.get? nodeName = some node' ∧
              Delivered SmallCluster.machineSet node share machine' node' := by
  apply pass_delivers SmallCluster.placed (fun _ => rfl) SmallCluster.found SmallCluster.valid
    SmallCluster.filled SmallCluster.distinct
  intro nodeName listed
  rw [SmallCluster.nodeNames] at listed
  cases List.mem_singleton.mp listed
  rfl

end NodeSync
