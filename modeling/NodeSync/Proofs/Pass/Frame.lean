/-
Module: NodeSync.Proofs.Pass.Frame
Purpose: What a pass leaves alone, however it ends. Machine sets stay as they are, and no object is
  created or removed. Only machines that were selected and have a node are written, and of them only
  the labels and taints for the node; only nodes of such machines are written, and of them only the
  labels that the template names or that were recorded, the record itself, and the taints. Every
  write of a pass keeps this frame, also where several machines have one node.
Main exports: Node.unmanaged, MemoryStore.bound, MemoryStore.manages, Framed, synchronise_framed,
  pass_keeps_frame
-/
import NodeSync.Proofs.Pass.Completion
import NodeSync.Proofs.Pass.Conduct

namespace NodeSync

set_option autoImplicit false

open Pass (Ensures Secures)

/-! ## Nodes apart from what a pass writes -/

/-- The node without its version, its taints, the record of the labels and the labels under the
managed keys. Absent labels, annotations and specifications are taken for empty ones. -/
def Node.unmanaged (managed : String → Bool) (node : Node) : Node where
  metadata := { node.metadata with
    labels := some (node.labelMap.filterKeys fun key => !managed key)
    annotations := some (node.annotationMap.erase Provenance.annotationKey)
    resourceVersion := none }
  spec := some { node.spec.getD NodeSpec.empty with taints := none }
  status := node.status

section Views

variable {managed : String → Bool} {node : Node} {expected : Labels}

@[simp] theorem Node.unmanaged_setTaints (taints : List Taint) :
    (node.setTaints taints).unmanaged managed = node.unmanaged managed := rfl

/-- Bringing the labels of a node in line changes managed ones only. -/
theorem syncNodeLabels_unmanaged
    (owned : ∀ key, node.ownedKeys.contains key = true → managed key = true)
    (wanted : ∀ key, expected.contains key = true → managed key = true) :
    (syncNodeLabels node expected).1.unmanaged managed = node.unmanaged managed := by
  have labels : ((syncNodeLabels node expected).1.labelMap.filterKeys fun key => !managed key) =
      node.labelMap.filterKeys fun key => !managed key := by
    apply SortedMap.ext_get?
    intro key
    rw [SortedMap.get?_filterKeys, SortedMap.get?_filterKeys]
    cases known : managed key with
    | true => rfl
    | false =>
        have unlisted : node.ownedKeys.contains key = false := by
          rw [Bool.eq_false_iff]
          exact fun listed => by simp [owned key listed] at known
        have unexpected : expected.contains key = false := by
          rw [Bool.eq_false_iff]
          exact fun asked => by simp [wanted key asked] at known
        rw [syncNodeLabels_get?_of_foreign unlisted unexpected]
  rw [Node.unmanaged, labels]
  by_cases agrees : node.AgreesWith expected
  · rw [syncNodeLabels_of_agreesWith agrees]
    rfl
  · rw [syncNodeLabels_of_not_agreesWith agrees]
    change Node.mk { node.metadata with
      labels := _
      annotations := some ((recordKeys node.annotationMap expected).erase Provenance.annotationKey)
      resourceVersion := none } _ _ = _
    rw [erase_recordKeys]
    rfl

/-- A write to a node changes managed labels, the record and the taints only, and records keys of
the template. -/
theorem NodeWrite.unmanaged {machineSet : MachineSet} {machine : Machine} {revised : Node}
    (write : NodeWrite machineSet machine node revised)
    (owned : ∀ key, node.ownedKeys.contains key = true → managed key = true)
    (wanted : ∀ key, machineSet.templateNodeLabels.contains key = true → managed key = true) :
    revised.unmanaged managed = node.unmanaged managed ∧
      ∀ key, revised.ownedKeys.contains key = true → managed key = true := by
  have inTemplate : ∀ key, (expectedLabels machineSet machine node).contains key = true →
      managed key = true := by
    intro key expected
    rw [contains_expectedLabels, Bool.and_eq_true] at expected
    exact wanted key expected.2
  constructor
  · have synced := syncNodeLabels_unmanaged owned inTemplate
    cases write <;> simpa using synced
  · intro key listed
    rw [write.ownedKeys_eq,
      contains_ownedKeys_syncNodeLabels hasSeparator_of_mem_expectedLabels] at listed
    exact inTemplate key listed.2

end Views

/-! ## What a pass may change -/

namespace MemoryStore

variable (store : MemoryStore) (ns name : String)

/-- The machines that a pass over the machine set at a place goes to, by their places, with the
names of their nodes. -/
def bound : List (ObjectKey × String) :=
  ((store.machineSets.get? ⟨ns, name⟩).map fun machineSet =>
    bindings (store.selected machineSet ns)).getD []

/-- The labels of a node that such a pass may write: those of the template, and those that the
annotation of the node lists. -/
def manages (nodeName key : String) : Bool :=
  (store.machineSets.get? ⟨ns, name⟩).any (·.templateNodeLabels.contains key) ||
    (store.nodes.get? nodeName).any (·.ownedKeys.contains key)

end MemoryStore

/-- Of some machines and their nodes, what a pass may write has changed. Nothing else has. -/
structure Framed (bound : List (ObjectKey × String)) (manages : String → String → Bool)
    (before after : MemoryStore) : Prop where
  machineSets : after.machineSets = before.machineSets
  machines : ∀ key, (after.machines.get? key).map Machine.unmanaged =
    (before.machines.get? key).map Machine.unmanaged
  otherMachines : ∀ key, key ∉ bound.map (·.1) →
    after.machines.get? key = before.machines.get? key
  nodes : ∀ name, (after.nodes.get? name).map (Node.unmanaged (manages name)) =
    (before.nodes.get? name).map (Node.unmanaged (manages name))
  otherNodes : ∀ name, name ∉ bound.map (·.2) → after.nodes.get? name = before.nodes.get? name
  owned : ∀ name node, after.nodes.get? name = some node → ∀ key,
    node.ownedKeys.contains key = true → manages name key = true

/-- The same, where a pass has a machine and a node at hand, and has changed no other machine since
it came to this one. -/
structure FramedAtHand (bound : List (ObjectKey × String)) (manages : String → String → Bool)
    (before middle : MemoryStore) (key : ObjectKey) (name : String) (machine : Machine)
    (node : Node) (store : MemoryStore) : Prop extends Framed bound manages before store where
  machineAt : store.machines.get? key = some machine
  nodeAt : store.nodes.get? name = some node
  others : ∀ other, other ≠ key → store.machines.get? other = middle.machines.get? other

section Frames

variable {bound : List (ObjectKey × String)} {manages : String → String → Bool}
  {before middle store : MemoryStore} {key : ObjectKey} {name : String} {machineSet : MachineSet}
  {machine revised : Machine} {node revisedNode : Node}

namespace Framed

theorem withFailures (framed : Framed bound manages before store) (pending : Operation → UInt32) :
    Framed bound manages before (store.withFailures pending) :=
  ⟨framed.machineSets, framed.machines, framed.otherMachines, framed.nodes, framed.otherNodes,
    framed.owned⟩

/-- Objects stay under their own names. -/
theorem placed (framed : Framed bound manages before store) (placed : before.Placed) :
    store.Placed := by
  refine placed.of_unmanaged framed.machineSets framed.machines fun name => ?_
  have same := congrArg (Option.map (·.metadata.name)) (framed.nodes name)
  rw [Option.map_map, Option.map_map] at same
  exact same

end Framed

namespace FramedAtHand

/-- The machine at hand is updated. -/
theorem putMachine
    (held : FramedAtHand bound manages before middle key name machine node store)
    (inside : (key, name) ∈ bound) (write : MachineWrite machineSet machine node revised) :
    FramedAtHand bound manages before middle key name
      (revised.withVersion (some store.freshVersion)) node (store.putMachine key revised) := by
  have stored : (store.putMachine key revised).machines.get? key =
      some (revised.withVersion (some store.freshVersion)) := SortedMap.get?_insert_self _ _ _
  have elsewhere : ∀ other, other ≠ key →
      (store.putMachine key revised).machines.get? other = store.machines.get? other :=
    fun other different => SortedMap.get?_insert_of_ne _ different _
  refine ⟨⟨held.machineSets, fun other => ?_, fun other outside => ?_, held.nodes,
    held.otherNodes, held.owned⟩, stored, held.nodeAt, fun other different => ?_⟩
  · by_cases here : other = key
    · rw [here, stored, ← held.machines, held.machineAt]
      exact congrArg some write.unmanaged
    · rw [elsewhere other here, held.machines]
  · have different : other ≠ key := by
      rintro rfl
      exact outside (List.mem_map_of_mem inside)
    rw [elsewhere other different, held.otherMachines other outside]
  · rw [elsewhere other different, held.others other different]

/-- The node at hand is updated. -/
theorem putNode (held : FramedAtHand bound manages before middle key name machine node store)
    (inside : (key, name) ∈ bound)
    (wanted : ∀ label, machineSet.templateNodeLabels.contains label = true →
      manages name label = true)
    (write : NodeWrite machineSet machine node revisedNode) :
    FramedAtHand bound manages before middle key name machine
      (revisedNode.withVersion (some store.freshVersion)) (store.putNode name revisedNode) := by
  obtain ⟨unmanaged, owned⟩ := write.unmanaged (held.owned name node held.nodeAt) wanted
  have stored : (store.putNode name revisedNode).nodes.get? name =
      some (revisedNode.withVersion (some store.freshVersion)) := SortedMap.get?_insert_self _ _ _
  have elsewhere : ∀ other, other ≠ name →
      (store.putNode name revisedNode).nodes.get? other = store.nodes.get? other :=
    fun other different => SortedMap.get?_insert_of_ne _ different _
  refine ⟨⟨held.machineSets, held.machines, held.otherMachines, fun other => ?_,
    fun other outside => ?_, fun other found there => ?_⟩, held.machineAt, stored, held.others⟩
  · by_cases here : other = name
    · subst here
      rw [stored, ← held.nodes, held.nodeAt]
      exact congrArg some unmanaged
    · rw [elsewhere other here, held.nodes]
  · have different : other ≠ name := by
      rintro rfl
      exact outside (List.mem_map_of_mem inside)
    rw [elsewhere other different, held.otherNodes other outside]
  · by_cases here : other = name
    · subst here
      rw [stored] at there
      cases there
      exact owned
    · rw [elsewhere other here] at there
      exact held.owned other found there

end FramedAtHand

/-! ## Passes -/

/-- An update of the machine at hand. -/
theorem keepsMachineWrites_framed (placed : before.Placed) (inside : (key, name) ∈ bound) :
    Ensures.KeepsMachineWrites Disturbed.environment machineSet
      (fun machine node state =>
        FramedAtHand bound manages before middle key name machine node state.store)
      (fun _ after => Framed bound manages before after.store) := by
  intro machine node revised state blame held write
  have own : machine.place = key := (held.placed placed).machines key machine held.machineAt
  have updated := held.putMachine inside write
  have secured : Secures False (Pass.call (.updateMachine revised) blame) state.store
      (fun machine' after => ∃ version, machine' = revised.withVersion version ∧
        FramedAtHand bound manages before middle key name machine' node after)
      (fun _ after => Framed bound manages before after) := by
    subst own
    apply Secures.updateMachine held.machineAt write.revises
    · exact fun _ _ pending => held.toFramed.withFailures pending
    · exact fun _ _ => updated.toFramed
    · exact ⟨_, rfl, updated⟩
  exact secured.ensures

/-- An update of the node at hand. -/
theorem keepsNodeWrites_framed (placed : before.Placed) (inside : (key, name) ∈ bound)
    (filled : name ≠ "")
    (wanted : ∀ label, machineSet.templateNodeLabels.contains label = true →
      manages name label = true) :
    Ensures.KeepsNodeWrites Disturbed.environment machineSet
      (fun machine node state =>
        FramedAtHand bound manages before middle key name machine node state.store)
      (fun _ after => Framed bound manages before after.store) := by
  intro machine node revised state blame held write
  have named := (held.placed placed).nodeName held.nodeAt filled
  have updated := held.putNode inside wanted write
  have secured : Secures False (Pass.call (.updateNode revised) blame) state.store
      (fun node' after => ∃ version, node' = revised.withVersion version ∧
        FramedAtHand bound manages before middle key name machine node' after)
      (fun _ after => Framed bound manages before after) := by
    apply Secures.updateNode held.nodeAt named write.revises
    · exact fun _ _ pending => held.toFramed.withFailures pending
    · exact fun _ _ => updated.toFramed
    · exact ⟨_, rfl, updated⟩
  exact secured.ensures

/-- One machine. -/
theorem synchroniseMachine_framed (placed : before.Placed)
    (framed : Framed bound manages before store) (inside : (machine.place, name) ∈ bound)
    (provisioned : machine.nodeName? = some name)
    (found : store.machines.get? machine.place = some machine)
    (wanted : ∀ label, machineSet.templateNodeLabels.contains label = true →
      manages name label = true) :
    Secures False (synchroniseMachine machineSet machine) store
      (fun warning after => warning = templateWarning? machineSet machine ∧
        Framed bound manages before after ∧
        ∀ other, other ≠ machine.place → after.machines.get? other = store.machines.get? other)
      (fun _ after => Framed bound manages before after) := by
  rintro state rfl -
  have read : ∀ blame, Ensures Disturbed.environment (Pass.call (.getNode name) blame) state
      (fun node after => FramedAtHand bound manages before state.store machine.place name machine
        node after.store)
      (fun _ after => Framed bound manages before after.store) := by
    intro blame
    have secured : Secures False (Pass.call (.getNode name) blame) state.store
        (fun node after => FramedAtHand bound manages before state.store machine.place name machine
          node after)
        (fun _ after => Framed bound manages before after) := by
      apply Secures.getNode
      · exact fun _ _ pending => framed.withFailures pending
      · exact fun _ _ => framed
      · exact fun node there => ⟨framed, found, there, fun _ _ => rfl⟩
    exact secured.ensures
  apply (Ensures.synchroniseMachine provisioned read (keepsMachineWrites_framed placed inside)
    (keepsNodeWrites_framed placed inside (Machine.nodeName?_ne_empty provisioned) wanted)).imp
  · intro warning after reached
    obtain ⟨rfl, machine', node', held, -⟩ := reached
    exact ⟨False.elim, rfl, held.toFramed, held.others⟩
  · exact fun _ _ ended => ended

/-- Before the given machines have their turn, each of them is stored as it was listed. -/
structure FramedAhead (bound : List (ObjectKey × String)) (manages : String → String → Bool)
    (before : MemoryStore) (left : List Machine) (store : MemoryStore) : Prop
    extends Framed bound manages before store where
  stored : ∀ machine ∈ left, store.machines.get? machine.place = some machine
  places : (left.map Machine.place).Nodup
  inside : ∀ binding ∈ bindings left, binding ∈ bound

/-- All machines, also several that have one node. -/
theorem synchroniseMachines_framed {machines : List Machine} (placed : before.Placed)
    (ahead : FramedAhead bound manages before machines store)
    (wanted : ∀ nodeName label, machineSet.templateNodeLabels.contains label = true →
      manages nodeName label = true) :
    Secures False (synchroniseMachines machineSet machines) store
      (fun _ after => Framed bound manages before after)
      (fun _ after => Framed bound manages before after) := by
  rintro state rfl -
  apply (Ensures.synchroniseMachines
    (fun left after => FramedAhead bound manages before left after.store) ahead ?_ ?_).imp
  · exact fun _ _ reached => ⟨False.elim, reached.2.toFramed⟩
  · exact fun _ _ ended => ended
  · intro machine rest middle none ahead
    refine ⟨ahead.toFramed, fun other listed => ahead.stored other (List.mem_cons_of_mem _ listed),
      (List.nodup_cons.mp ahead.places).2, fun binding there => ahead.inside binding ?_⟩
    simpa [bindings, Machine.binding?, none] using there
  · intro machine nodeName rest middle provisioned ahead
    obtain ⟨newPlace, places⟩ := List.nodup_cons.mp ahead.places
    have inside : (machine.place, nodeName) ∈ bound := by
      apply ahead.inside
      exact mem_bindings_iff.mpr ⟨machine, List.mem_cons_self, provisioned, rfl⟩
    apply (synchroniseMachine_framed placed ahead.toFramed inside provisioned
      (ahead.stored machine List.mem_cons_self) (wanted nodeName)).ensures.imp
    · intro warning after reached
      obtain ⟨rfl, framed, others⟩ := reached
      refine ⟨rfl, framed, fun other listed => ?_, places, fun binding there => ?_⟩
      · rw [others other.place fun same => newPlace (same ▸ List.mem_map_of_mem listed)]
        exact ahead.stored other (List.mem_cons_of_mem _ listed)
      · apply ahead.inside
        obtain ⟨other, listed, bound⟩ := List.mem_filterMap.mp there
        exact List.mem_filterMap.mpr ⟨other, List.mem_cons_of_mem _ listed, bound⟩
    · exact fun _ _ ended => ended

/-- A whole pass. -/
theorem synchronise_framed (placed : store.Placed) (ns name : String) :
    Secures False (ExceptT.mk (synchronise ns name)) store
      (fun _ after => Framed (store.bound ns name) (store.manages ns name) store after)
      (fun _ after => Framed (store.bound ns name) (store.manages ns name) store after) := by
  have start : Framed (store.bound ns name) (store.manages ns name) store store := by
    refine ⟨rfl, fun _ => rfl, fun _ _ => rfl, fun _ => rfl, fun _ _ => rfl, ?_⟩
    intro nodeName node there key owned
    simp [MemoryStore.manages, there, owned]
  apply Secures.wholePass
  · exact fun _ _ pending => start.withFailures pending
  · exact fun _ pending => start.withFailures pending
  · intro machineSet found
    apply Secures.setRead
    · exact fun _ _ pending => start.withFailures pending
    · exact fun _ _ => start
    · intro _
      have ahead : FramedAhead (store.bound ns name) (store.manages ns name) store
          (store.selected machineSet ns) store := by
        refine ⟨start, fun machine => MemoryStore.get?_of_mem_selected placed.machines,
          MemoryStore.selected_places_nodup placed.machines machineSet ns, fun binding there => ?_⟩
        simpa [MemoryStore.bound, found] using there
      apply synchroniseMachines_framed placed ahead
      intro nodeName label asked
      simp [MemoryStore.manages, found, asked]

end Frames

/-- A pass leaves everything else alone, whatever disturbs it and however it ends. It starts from
any store whose objects are at their places, cancelled already or not. The machines that it may
write are those that the stored set selects and that have a node, and the nodes are theirs. -/
theorem pass_keeps_frame (state : Disturbed) (placed : state.store.Placed) (ns name : String) :
    Framed (state.store.bound ns name) (state.store.manages ns name) state.store
      (runPass Disturbed.environment ns name state).2.store := by
  rcases runPass_of_ensures (synchronise_framed placed ns name).ensures with
    ⟨outcome, after, ran, framed⟩ | ⟨cause, after, ran, framed⟩
  · rw [ran]
    exact framed
  · rw [ran]
    exact framed

/-- The pass over the small cluster whose first update of the node is lost after it was stored. It
goes to one machine and its node. -/
theorem pass_keeps_frame_smallCluster :
    SmallCluster.store.bound "machines" "web" = [(⟨"machines", "web-0"⟩, "node-0")] ∧
      Framed (SmallCluster.store.bound "machines" "web")
        (SmallCluster.store.manages "machines" "web") SmallCluster.store
        (runPass Disturbed.environment "machines" "web"
          ⟨SmallCluster.store, List.replicate 5 .served ++ [.unanswered true], false,
            []⟩).2.store :=
  ⟨by decide, pass_keeps_frame
    ⟨SmallCluster.store, List.replicate 5 .served ++ [.unanswered true], false, []⟩
    SmallCluster.placed "machines" "web"⟩

end NodeSync
