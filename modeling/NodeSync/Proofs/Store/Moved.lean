/-
Module: NodeSync.Proofs.Store.Moved
Purpose: What a pass, or a part of one, changes in a store: machines and nodes that are bound to
  each other, pair by pair, in the labels and taints of the machine and in the node, and nothing
  else. Changes of different pairs add up, and so do changes of the same pairs one after the other.
Main exports: Moved, Moved.refl, Moved.trans, Moved.mono, Moved.widen, Moved.cons, Reached,
  Reached.moved
-/
import Mathlib.Data.List.Nodup
import NodeSync.Proofs.Store.Writes
import NodeSync.Proofs.Pass.Disturbance

namespace NodeSync

set_option autoImplicit false

/-- How a pair of a machine and its node may change. -/
abbrev PairChange : Type := Machine → Node → Machine → Node → Prop

/-- A store differs from an earlier one in the listed pairs of a machine and a node only, in each of
them as given, and never in what decides where passes go. A machine whose node is missing is as it
was. -/
structure Moved (change : PairChange) (bound : List (ObjectKey × String))
    (before after : MemoryStore) : Prop where
  machineSets : after.machineSets = before.machineSets
  unmanaged : ∀ key, (after.machines.get? key).map Machine.unmanaged =
    (before.machines.get? key).map Machine.unmanaged
  nodeNames : ∀ name, (after.nodes.get? name).map (·.metadata.name) =
    (before.nodes.get? name).map (·.metadata.name)
  otherMachines : ∀ key, key ∉ bound.map (·.1) →
    after.machines.get? key = before.machines.get? key
  otherNodes : ∀ name, name ∉ bound.map (·.2) → after.nodes.get? name = before.nodes.get? name
  missing : ∀ key name, (key, name) ∈ bound → before.nodes.get? name = none →
    after.machines.get? key = before.machines.get? key
  pairs : ∀ key name, (key, name) ∈ bound → ∀ machine node,
    before.machines.get? key = some machine → before.nodes.get? name = some node →
    ∃ machine' node', after.machines.get? key = some machine' ∧
      after.nodes.get? name = some node' ∧ change machine node machine' node'

namespace Moved

variable {change change' change'' : PairChange} {bound rest : List (ObjectKey × String)}
  {before middle after : MemoryStore}

theorem refl (still : ∀ machine node, change machine node machine node) :
    Moved change bound before before where
  machineSets := rfl
  unmanaged _ := rfl
  nodeNames _ := rfl
  otherMachines _ _ := rfl
  otherNodes _ _ := rfl
  missing _ _ _ _ := rfl
  pairs _ _ _ machine node found there := ⟨machine, node, found, there, still machine node⟩

theorem nil : Moved change [] before before where
  machineSets := rfl
  unmanaged _ := rfl
  nodeNames _ := rfl
  otherMachines _ _ := rfl
  otherNodes _ _ := rfl
  missing _ _ _ _ := rfl
  pairs _ _ member := nomatch member

theorem mono (moved : Moved change bound before after)
    (more : ∀ machine node machine' node', change machine node machine' node' →
      change' machine node machine' node') : Moved change' bound before after where
  machineSets := moved.machineSets
  unmanaged := moved.unmanaged
  nodeNames := moved.nodeNames
  otherMachines := moved.otherMachines
  otherNodes := moved.otherNodes
  missing := moved.missing
  pairs key name member machine node found there := by
    obtain ⟨machine', node', found', there', changed⟩ :=
      moved.pairs key name member machine node found there
    exact ⟨machine', node', found', there', more _ _ _ _ changed⟩

/-- A node is missing afterwards exactly if it was before. -/
theorem node_none_iff (moved : Moved change bound before after) (name : String) :
    after.nodes.get? name = none ↔ before.nodes.get? name = none := by
  have same := moved.nodeNames name
  rw [← Option.map_eq_none_iff, same, Option.map_eq_none_iff]

theorem contains_node (moved : Moved change bound before after) (name : String) :
    after.nodes.contains name = before.nodes.contains name := by
  rw [SortedMap.contains, SortedMap.contains, ← Option.isSome_map (f := (·.metadata.name)),
    moved.nodeNames name, Option.isSome_map]

/-- One after the other. -/
theorem trans (first : Moved change bound before middle) (second : Moved change' bound middle after)
    (both : ∀ machine node machine' node' machine'' node'', change machine node machine' node' →
      change' machine' node' machine'' node'' → change'' machine node machine'' node'') :
    Moved change'' bound before after where
  machineSets := second.machineSets.trans first.machineSets
  unmanaged key := (second.unmanaged key).trans (first.unmanaged key)
  nodeNames name := (second.nodeNames name).trans (first.nodeNames name)
  otherMachines key other := (second.otherMachines key other).trans (first.otherMachines key other)
  otherNodes name other := (second.otherNodes name other).trans (first.otherNodes name other)
  missing key name member absent := by
    have absent' := (first.node_none_iff name).mpr absent
    exact (second.missing key name member absent').trans (first.missing key name member absent)
  pairs key name member machine node found there := by
    obtain ⟨machine', node', found', there', changed⟩ :=
      first.pairs key name member machine node found there
    obtain ⟨machine'', node'', found'', there'', changed'⟩ :=
      second.pairs key name member machine' node' found' there'
    exact ⟨machine'', node'', found'', there'', both _ _ _ _ _ _ changed changed'⟩

/-- A change of one pair, as a change of several of which it is one. -/
theorem widen {key : ObjectKey} {name : String} (moved : Moved change [(key, name)] before after)
    (member : (key, name) ∈ bound) (places : (bound.map (·.1)).Nodup)
    (names : (bound.map (·.2)).Nodup)
    (still : ∀ machine node, change machine node machine node) :
    Moved change bound before after where
  machineSets := moved.machineSets
  unmanaged := moved.unmanaged
  nodeNames := moved.nodeNames
  otherMachines other elsewhere := by
    apply moved.otherMachines
    intro here
    rw [List.mem_singleton.mp here] at elsewhere
    exact elsewhere (List.mem_map_of_mem (f := (·.1)) member)
  otherNodes other elsewhere := by
    apply moved.otherNodes
    intro here
    rw [List.mem_singleton.mp here] at elsewhere
    exact elsewhere (List.mem_map_of_mem (f := (·.2)) member)
  missing place nodeName listed absent := by
    by_cases here : place = key
    · have same := List.inj_on_of_nodup_map places listed member here
      exact moved.missing place nodeName (List.mem_singleton.mpr same) absent
    · exact moved.otherMachines place (by simpa using here)
  pairs place nodeName listed machine node found there := by
    by_cases here : place = key
    · have same := List.inj_on_of_nodup_map places listed member here
      exact moved.pairs place nodeName (List.mem_singleton.mpr same) machine node found there
    · have otherNode : nodeName ≠ name := fun named =>
        here (congrArg (·.1) (List.inj_on_of_nodup_map names listed member named))
      refine ⟨machine, node, ?_, ?_, still machine node⟩
      · rw [moved.otherMachines place (by simpa using here), found]
      · rw [moved.otherNodes nodeName (by simpa using otherNode), there]

/-- Changes of one pair and then of others. -/
theorem cons {key : ObjectKey} {name : String} (first : Moved change [(key, name)] before middle)
    (second : Moved change rest middle after) (newPlace : key ∉ rest.map (·.1))
    (newNode : name ∉ rest.map (·.2)) : Moved change ((key, name) :: rest) before after where
  machineSets := second.machineSets.trans first.machineSets
  unmanaged key := (second.unmanaged key).trans (first.unmanaged key)
  nodeNames name := (second.nodeNames name).trans (first.nodeNames name)
  otherMachines key other := by
    rw [List.map_cons, List.mem_cons, not_or] at other
    rw [second.otherMachines key other.2]
    exact first.otherMachines key (by simpa using other.1)
  otherNodes name other := by
    rw [List.map_cons, List.mem_cons, not_or] at other
    rw [second.otherNodes name other.2]
    exact first.otherNodes name (by simpa using other.1)
  missing place nodeName member absent := by
    rcases List.mem_cons.mp member with same | later
    · cases same
      rw [second.otherMachines _ newPlace]
      exact first.missing _ _ (List.mem_singleton_self _) absent
    · have absent' := (first.node_none_iff nodeName).mpr absent
      rw [second.missing _ _ later absent']
      have elsewhere : place ≠ key := fun same =>
        newPlace (same ▸ List.mem_map_of_mem (f := (·.1)) later)
      exact first.otherMachines place (by simpa using elsewhere)
  pairs place nodeName member machine node found there := by
    rcases List.mem_cons.mp member with same | later
    · cases same
      obtain ⟨machine', node', found', there', changed⟩ :=
        first.pairs _ _ (List.mem_singleton_self _) machine node found there
      refine ⟨machine', node', ?_, ?_, changed⟩
      · rw [second.otherMachines _ newPlace, found']
      · rw [second.otherNodes _ newNode, there']
    · have elsewhere : place ≠ key := fun same =>
        newPlace (same ▸ List.mem_map_of_mem (f := (·.1)) later)
      have otherNode : nodeName ≠ name := fun same =>
        newNode (same ▸ List.mem_map_of_mem (f := (·.2)) later)
      apply second.pairs place nodeName later machine node
      · rw [first.otherMachines place (by simpa using elsewhere), found]
      · rw [first.otherNodes nodeName (by simpa using otherNode), there]

/-- The same pairs are bound afterwards. -/
theorem selected_unmanaged (moved : Moved change bound before after) (machineSet : MachineSet)
    (ns : String) :
    (after.selected machineSet ns).map Machine.unmanaged =
      (before.selected machineSet ns).map Machine.unmanaged :=
  MemoryStore.selected_unmanaged moved.unmanaged machineSet ns

theorem bindings_selected (moved : Moved change bound before after) (machineSet : MachineSet)
    (ns : String) :
    bindings (after.selected machineSet ns) = bindings (before.selected machineSet ns) :=
  bindings_congr (moved.selected_unmanaged machineSet ns)

/-- Objects stay at their places. -/
theorem placed (moved : Moved change bound before after) (placed : before.Placed) :
    after.Placed :=
  placed.of_unmanaged moved.machineSets moved.unmanaged moved.nodeNames

/-- Ordered failures are not part of what changes. -/
theorem withFailures (moved : Moved change bound before after) (pending : Operation → UInt32) :
    Moved change bound before (after.withFailures pending) :=
  ⟨moved.1, moved.2, moved.3, moved.4, moved.5, moved.6, moved.7⟩

theorem withoutFailures (moved : Moved change bound before after) :
    Moved change bound before.withoutFailures after.withoutFailures :=
  ⟨moved.1, moved.2, moved.3, moved.4, moved.5, moved.6, moved.7⟩

end Moved

/-- A store differs from an earlier one in one machine and one node only, and has the given ones
there. -/
structure Reached (key : ObjectKey) (name : String) (before : MemoryStore) (machine : Machine)
    (node : Node) (after : MemoryStore) : Prop where
  machineSets : after.machineSets = before.machineSets
  otherMachines : ∀ other, other ≠ key → after.machines.get? other = before.machines.get? other
  otherNodes : ∀ other, other ≠ name → after.nodes.get? other = before.nodes.get? other
  machineAt : after.machines.get? key = some machine
  nodeAt : after.nodes.get? name = some node
  unmanaged : (before.machines.get? key).map Machine.unmanaged = some machine.unmanaged
  named : (before.nodes.get? name).map (·.metadata.name) = some node.metadata.name

namespace Reached

variable {key : ObjectKey} {name : String} {before after : MemoryStore} {machine : Machine}
  {node : Node}

theorem refl (found : before.machines.get? key = some machine)
    (there : before.nodes.get? name = some node) : Reached key name before machine node before where
  machineSets := rfl
  otherMachines _ _ := rfl
  otherNodes _ _ := rfl
  machineAt := found
  nodeAt := there
  unmanaged := by rw [found]; rfl
  named := by rw [there]; rfl

theorem withFailures (reached : Reached key name before machine node after)
    (pending : Operation → UInt32) :
    Reached key name before machine node (after.withFailures pending) :=
  ⟨reached.1, reached.2, reached.3, reached.4, reached.5, reached.6, reached.7⟩

/-- Updating the machine. -/
theorem putMachine (reached : Reached key name before machine node after) {revised : Machine}
    (same : revised.unmanaged = machine.unmanaged) :
    Reached key name before (revised.withVersion (some after.freshVersion)) node
      (after.putMachine key revised) where
  machineSets := reached.machineSets
  otherMachines other elsewhere := by
    rw [MemoryStore.putMachine, SortedMap.get?_insert_of_ne _ elsewhere]
    exact reached.otherMachines other elsewhere
  otherNodes := reached.otherNodes
  machineAt := SortedMap.get?_insert_self _ _ _
  nodeAt := reached.nodeAt
  unmanaged := by rw [Machine.unmanaged_withVersion, same, reached.unmanaged]
  named := reached.named

/-- Updating the node. -/
theorem putNode (reached : Reached key name before machine node after) {revised : Node}
    (same : revised.metadata.name = node.metadata.name) :
    Reached key name before machine (revised.withVersion (some after.freshVersion))
      (after.putNode name revised) where
  machineSets := reached.machineSets
  otherMachines := reached.otherMachines
  otherNodes other elsewhere := by
    rw [MemoryStore.putNode, SortedMap.get?_insert_of_ne _ elsewhere]
    exact reached.otherNodes other elsewhere
  machineAt := reached.machineAt
  nodeAt := SortedMap.get?_insert_self _ _ _
  unmanaged := reached.unmanaged
  named := by
    rw [reached.named, ← same]
    rfl

/-- What was reached, as a change of one pair. -/
theorem moved {change : PairChange} {machine' : Machine} {node' : Node}
    (reached : Reached key name before machine' node' after)
    (found : before.machines.get? key = some machine) (there : before.nodes.get? name = some node)
    (changed : change machine node machine' node') : Moved change [(key, name)] before after where
  machineSets := reached.machineSets
  unmanaged other := by
    by_cases same : other = key
    · rw [same, reached.machineAt, reached.unmanaged]
      rfl
    · rw [reached.otherMachines other same]
  nodeNames other := by
    by_cases same : other = name
    · rw [same, reached.nodeAt, reached.named]
      rfl
    · rw [reached.otherNodes other same]
  otherMachines other elsewhere := reached.otherMachines other (by simpa using elsewhere)
  otherNodes other elsewhere := reached.otherNodes other (by simpa using elsewhere)
  missing place nodeName member absent := by
    cases List.mem_singleton.mp member
    rw [there] at absent
    cases absent
  pairs place nodeName member old oldNode found' there' := by
    cases List.mem_singleton.mp member
    rw [found] at found'
    rw [there] at there'
    cases found'
    cases there'
    exact ⟨machine', node', reached.machineAt, reached.nodeAt, changed⟩

end Reached

end NodeSync
