/-
Module: NodeSync.Proofs.Store.Within
Purpose: The part of a store to which a pass keeps: the machines that its set selects and their
  nodes. What happens within one part concerns neither the objects of another one nor what decides
  where passes go.
Main exports: Within, Within.trans, Within.mono, Within.bindings_selected, Within.putMachine,
  Within.putNode, Apart, Within.machine_eq, Within.node_eq
-/
import NodeSync.Proofs.Store.Moved

namespace NodeSync

set_option autoImplicit false

/-- A store differs from an earlier one in the listed machines and nodes only, and never in what
decides where passes go. -/
structure Within (bound : List (ObjectKey × String)) (before after : MemoryStore) : Prop where
  machineSets : after.machineSets = before.machineSets
  pendingFailures : after.pendingFailures = before.pendingFailures
  unmanaged : ∀ key, (after.machines.get? key).map Machine.unmanaged =
    (before.machines.get? key).map Machine.unmanaged
  nodeNames : ∀ name, (after.nodes.get? name).map (·.metadata.name) =
    (before.nodes.get? name).map (·.metadata.name)
  otherMachines : ∀ key, key ∉ bound.map (·.1) →
    after.machines.get? key = before.machines.get? key
  otherNodes : ∀ name, name ∉ bound.map (·.2) → after.nodes.get? name = before.nodes.get? name

/-- Two parts of a store have neither a machine nor a node in common. -/
structure Apart (bound other : List (ObjectKey × String)) : Prop where
  machines : ∀ key ∈ bound.map (·.1), key ∉ other.map (·.1)
  nodes : ∀ name ∈ bound.map (·.2), name ∉ other.map (·.2)

theorem Apart.symm {bound other : List (ObjectKey × String)} (apart : Apart bound other) :
    Apart other bound where
  machines key there here := apart.machines key here there
  nodes name there here := apart.nodes name here there

theorem Apart.nil (bound : List (ObjectKey × String)) : Apart bound [] where
  machines _ _ := by simp
  nodes _ _ := by simp

namespace Within

variable {bound other : List (ObjectKey × String)} {before middle after : MemoryStore}

theorem refl : Within bound before before := ⟨rfl, rfl, fun _ => rfl, fun _ => rfl, fun _ _ => rfl,
  fun _ _ => rfl⟩

theorem trans (first : Within bound before middle) (second : Within bound middle after) :
    Within bound before after where
  machineSets := second.machineSets.trans first.machineSets
  pendingFailures := second.pendingFailures.trans first.pendingFailures
  unmanaged key := (second.unmanaged key).trans (first.unmanaged key)
  nodeNames name := (second.nodeNames name).trans (first.nodeNames name)
  otherMachines key elsewhere :=
    (second.otherMachines key elsewhere).trans (first.otherMachines key elsewhere)
  otherNodes name elsewhere :=
    (second.otherNodes name elsewhere).trans (first.otherNodes name elsewhere)

/-- A larger part. -/
theorem mono (within : Within bound before after) (more : ∀ pair ∈ bound, pair ∈ other) :
    Within other before after where
  machineSets := within.machineSets
  pendingFailures := within.pendingFailures
  unmanaged := within.unmanaged
  nodeNames := within.nodeNames
  otherMachines key elsewhere := within.otherMachines key fun here => by
    obtain ⟨pair, listed, rfl⟩ := List.mem_map.mp here
    exact elsewhere (List.mem_map_of_mem (f := (·.1)) (more pair listed))
  otherNodes name elsewhere := within.otherNodes name fun here => by
    obtain ⟨pair, listed, rfl⟩ := List.mem_map.mp here
    exact elsewhere (List.mem_map_of_mem (f := (·.2)) (more pair listed))

theorem placed (within : Within bound before after) (placed : before.Placed) : after.Placed :=
  placed.of_unmanaged within.machineSets within.unmanaged within.nodeNames

/-- No failure comes to be ordered. -/
theorem calm (within : Within bound before after)
    (calm : ∀ operation, before.pendingFailures operation = 0) (operation : Operation) :
    after.pendingFailures operation = 0 := by
  rw [within.pendingFailures, calm]

/-- The same pairs are bound afterwards. -/
theorem bindings_selected (within : Within bound before after) (machineSet : MachineSet)
    (ns : String) :
    bindings (after.selected machineSet ns) = bindings (before.selected machineSet ns) :=
  bindings_congr (MemoryStore.selected_unmanaged within.unmanaged machineSet ns)

/-- A machine of another part is as it was. -/
theorem machine_eq (within : Within bound before after) (apart : Apart other bound)
    {key : ObjectKey} (here : key ∈ other.map (·.1)) :
    after.machines.get? key = before.machines.get? key :=
  within.otherMachines key (apart.machines key here)

/-- So is a node of another part. -/
theorem node_eq (within : Within bound before after) (apart : Apart other bound)
    {name : String} (here : name ∈ other.map (·.2)) :
    after.nodes.get? name = before.nodes.get? name :=
  within.otherNodes name (apart.nodes name here)

/-- Updating a machine of the part. -/
theorem putMachine {key : ObjectKey} {machine revised : Machine}
    (here : key ∈ bound.map (·.1)) (found : before.machines.get? key = some machine)
    (same : revised.unmanaged = machine.unmanaged) :
    Within bound before (before.putMachine key revised) where
  machineSets := rfl
  pendingFailures := rfl
  unmanaged place := by
    rw [MemoryStore.putMachine, SortedMap.get?_insert]
    split
    · rename_i equal
      rw [Std.LawfulEqOrd.eq_of_compare equal, found]
      exact congrArg some same
    · rfl
  nodeNames _ := rfl
  otherMachines place elsewhere := by
    have different : place ≠ key := fun equal => elsewhere (equal ▸ here)
    rw [MemoryStore.putMachine, SortedMap.get?_insert_of_ne _ different]
  otherNodes _ _ := rfl

/-- Updating a node of the part. -/
theorem putNode {name : String} {node revised : Node} (here : name ∈ bound.map (·.2))
    (there : before.nodes.get? name = some node)
    (same : revised.metadata.name = node.metadata.name) :
    Within bound before (before.putNode name revised) where
  machineSets := rfl
  pendingFailures := rfl
  unmanaged _ := rfl
  nodeNames nodeName := by
    rw [MemoryStore.putNode, SortedMap.get?_insert]
    split
    · rename_i equal
      rw [Std.LawfulEqOrd.eq_of_compare equal, there]
      exact congrArg some same
    · rfl
  otherMachines _ _ := rfl
  otherNodes nodeName elsewhere := by
    have different : nodeName ≠ name := fun equal => elsewhere (equal ▸ here)
    rw [MemoryStore.putNode, SortedMap.get?_insert_of_ne _ different]

end Within

end NodeSync
