/-
Module: NodeSync.Proofs.Content
Purpose: Objects apart from their versions, which every write replaces, and machines apart from
  what a pass writes on them. What a pass does not write decides which machines it selects and
  which nodes it goes to.
Main exports: Machine.withVersion, Node.withVersion, Machine.content, Node.content, Contents,
  MemoryStore.contents, Machine.unmanaged, Machine.binding?, bindings, bindings_congr
-/
import NodeSync.Selection
import NodeSync.Resource.Node
import NodeSync.Store.Memory

namespace NodeSync

set_option autoImplicit false

/-! ## Objects apart from their versions -/

/-- The machine with another version. -/
def Machine.withVersion (machine : Machine) (version : Option String) : Machine :=
  { machine with metadata := { machine.metadata with resourceVersion := version } }

/-- The node with another version. -/
def Node.withVersion (node : Node) (version : Option String) : Node :=
  { node with metadata := { node.metadata with resourceVersion := version } }

/-- What a machine is apart from its version. -/
def Machine.content (machine : Machine) : Machine := machine.withVersion none

/-- What a node is apart from its version. -/
def Node.content (node : Node) : Node := node.withVersion none

@[simp] theorem Machine.content_withVersion (machine : Machine) (version : Option String) :
    (machine.withVersion version).content = machine.content := rfl

@[simp] theorem Node.content_withVersion (node : Node) (version : Option String) :
    (node.withVersion version).content = node.content := rfl

/-- The machines and nodes of a store apart from their versions. -/
@[ext] structure Contents where
  machines : ObjectKey → Option Machine
  nodes : String → Option Node

/-- What a store holds. -/
def MemoryStore.contents (store : MemoryStore) : Contents where
  machines key := (store.machines.get? key).map Machine.content
  nodes name := (store.nodes.get? name).map Node.content

/-! ## Machines apart from what a pass writes -/

namespace Machine

/-- The machine without its version and without the labels and taints for its node. -/
def unmanaged (machine : Machine) : Machine :=
  ((machine.setNodeLabels SortedMap.empty).setTaints []).content

@[simp] theorem unmanaged_withVersion (machine : Machine) (version : Option String) :
    (machine.withVersion version).unmanaged = machine.unmanaged := rfl

/-- The place that the machine names as its own. -/
def place (machine : Machine) : ObjectKey := ObjectKey.ofMeta machine.metadata

@[simp] theorem place_unmanaged (machine : Machine) : machine.unmanaged.place = machine.place := rfl

/-- A machine with an empty node name counts as one without a node. -/
theorem nodeName?_ne_empty {machine : Machine} {nodeName : String}
    (provisioned : machine.nodeName? = some nodeName) : nodeName ≠ "" := by
  have kept := (Option.filter_eq_some_iff.mp provisioned).2
  exact of_decide_eq_true kept

/-- The name in the machine's reference to a node, also an empty one. -/
def refName? (machine : Machine) : Option String :=
  machine.status.bind fun status => status.nodeRef.bind (·.name)

theorem refName?_of_nodeName? {machine : Machine} {nodeName : String}
    (provisioned : machine.nodeName? = some nodeName) : machine.refName? = some nodeName :=
  Option.eq_some_of_filter_eq_some provisioned

/-- The place of the machine and the name of its node. -/
def binding? (machine : Machine) : Option (ObjectKey × String) :=
  machine.nodeName?.map fun nodeName => (machine.place, nodeName)

end Machine

/-- Whether a machine belongs to a set does not depend on what a pass writes. -/
theorem isExcluded_unmanaged (machineSet : MachineSet) (matcher : LabelMatcher)
    (machine : Machine) :
    isExcluded machineSet matcher machine.unmanaged = isExcluded machineSet matcher machine := rfl

/-- The places of the machines that have a node, with the names of the nodes. -/
def bindings (machines : List Machine) : List (ObjectKey × String) :=
  machines.filterMap Machine.binding?

/-- Machines that differ in what a pass writes only have the same bindings. -/
theorem bindings_congr {machines machines' : List Machine}
    (same : machines.map Machine.unmanaged = machines'.map Machine.unmanaged) :
    bindings machines = bindings machines' := by
  have viewed : ∀ machines, bindings machines = bindings (machines.map Machine.unmanaged) := by
    intro machines
    rw [bindings, bindings, List.filterMap_map]
    rfl
  rw [viewed machines, same, ← viewed machines']

/-- The bindings are those of the machines that have a node. -/
theorem mem_bindings_iff {machines : List Machine} {key : ObjectKey} {name : String} :
    (key, name) ∈ bindings machines ↔
      ∃ machine ∈ machines, machine.nodeName? = some name ∧ machine.place = key := by
  rw [bindings, List.mem_filterMap]
  constructor
  · rintro ⟨machine, listed, bound⟩
    obtain ⟨nodeName, provisioned, same⟩ := Option.map_eq_some_iff.mp bound
    cases same
    exact ⟨machine, listed, provisioned, rfl⟩
  · rintro ⟨machine, listed, provisioned, rfl⟩
    exact ⟨machine, listed, Option.map_eq_some_iff.mpr ⟨name, provisioned, rfl⟩⟩

/-- The names of the bound nodes are the node names of the machines. -/
theorem bindings_names (machines : List Machine) :
    (bindings machines).map (·.2) = machines.filterMap Machine.nodeName? := by
  rw [bindings, List.map_filterMap]
  congr
  funext machine
  rw [Machine.binding?, Option.map_map]
  cases machine.nodeName? <;> rfl

/-- The places of the bound machines are places of the machines. -/
theorem bindings_places_sublist (machines : List Machine) :
    ((bindings machines).map (·.1)).Sublist (machines.map Machine.place) := by
  induction machines with
  | nil => exact .slnil
  | cons machine rest ih =>
      rw [bindings, List.filterMap_cons, List.map_cons]
      rcases provisioned : machine.nodeName? with _ | nodeName
      · rw [Machine.binding?, provisioned]
        exact ih.cons _
      · rw [Machine.binding?, provisioned]
        exact ih.cons_cons _

end NodeSync
