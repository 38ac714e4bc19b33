/-
Module: NodeSync.Proofs.Resource.WasRead
Purpose: Objects that were read from JSON and have whole seconds. They are read again from what is
  printed for them, also after they got a UID, a version or the status of another such object.
Main exports: ObjectMeta.WasRead, Machine.WasRead, MachineSet.WasRead, Node.WasRead,
  Machine.WasRead.decode?_toJson, MachineSet.WasRead.decode?_toJson, Node.WasRead.decode?_toJson
-/
import NodeSync.Proofs.Resource.StableNode

namespace NodeSync

open Json

set_option autoImplicit false

/-- What a view finds in some text. -/
def Json.Found {α : Type} (view : Decoder α) (value : α) : Prop :=
  ∃ document, view document = some value

theorem Json.found_of_optional? {α : Type} {fields : Fields} {name : String} {view : Decoder α}
    {value : Option α} {present : α} (read : fields.optional? name view = some value)
    (here : value = some present) : Found view present := by
  subst here
  obtain ⟨document, -, accepted⟩ := Fields.exists_of_optional? read
  exact ⟨document, accepted⟩

/-! ## Metadata -/

namespace ObjectMeta

/-- Metadata that was read, and perhaps got another UID or another version since. -/
def WasRead (metadata : ObjectMeta) : Prop :=
  ∃ read, Found decode? read ∧ metadata = read.stamped metadata.uid metadata.resourceVersion

variable {metadata : ObjectMeta}

theorem wasRead_of_found (found : Found decode? metadata) : metadata.WasRead :=
  ⟨metadata, found, rfl⟩

/-- A UID and a version that were given since do not matter. -/
theorem WasRead.stamped (wasRead : metadata.WasRead) (uid version : Option String) :
    (metadata.stamped uid version).WasRead := by
  obtain ⟨read, found, same⟩ := wasRead
  refine ⟨read, found, ?_⟩
  rw [same]
  rfl

/-- Such metadata is read again from its print. -/
theorem WasRead.again (wasRead : metadata.WasRead) :
    decode? (.ofJson metadata.toJson) = some metadata.wholeSeconds := by
  obtain ⟨read, ⟨document, found⟩, same⟩ := wasRead
  rw [same]
  exact again_stamped found metadata.uid metadata.resourceVersion

end ObjectMeta

/-! ## Machines -/

namespace Machine

/-- A machine whose parts were read, with whole seconds. -/
structure WasRead (machine : Machine) : Prop where
  metadata : machine.metadata.WasRead
  spec : Found MachineSpec.decode? machine.spec
  status : ∀ {status}, machine.status = some status → Found MachineStatus.decode? status
  wholeSeconds : machine.wholeSeconds = machine

variable {machine other : Machine}

theorem wasRead_of_found (found : Found decode? machine)
    (whole : machine.wholeSeconds = machine) : machine.WasRead := by
  obtain ⟨document, read⟩ := found
  simp only [decode?, view_bind_eq_some_iff, Option.some.injEq] at read
  obtain ⟨_, -, _, metadata, _, spec, _, status, rfl⟩ := read
  exact ⟨ObjectMeta.wasRead_of_found (Fields.exists_of_required? metadata),
    Fields.exists_of_required? spec, found_of_optional? status, whole⟩

theorem wholeSeconds_eq_iff : machine.wholeSeconds = machine ↔
    machine.metadata.creationTimestamp.map Timestamp.wholeSeconds =
        machine.metadata.creationTimestamp ∧
      machine.metadata.deletionTimestamp.map Timestamp.wholeSeconds =
        machine.metadata.deletionTimestamp ∧
      machine.spec.taints.map Taint.wholeSeconds = machine.spec.taints := by
  obtain ⟨metadata, spec, status⟩ := machine
  obtain ⟨name, ns, generateName, uid, version, generation, created, deleted⟩ := metadata
  obtain ⟨metadata, taints, extra⟩ := spec
  simp [wholeSeconds, ObjectMeta.wholeSeconds, MachineSpec.wholeSeconds, and_assoc]

instance (machine : Machine) : Decidable (machine.wholeSeconds = machine) :=
  decidable_of_iff _ wholeSeconds_eq_iff.symm

/-- Such a machine is read from what is printed for it. -/
theorem WasRead.decode?_toJson (wasRead : machine.WasRead) :
    decode? (.ofJson machine.toJson) = some machine := by
  obtain ⟨_, spec⟩ := wasRead.spec
  refine (again_of_parts wasRead.metadata.again (MachineSpec.stable.again spec) ?_).trans
    (congrArg some wasRead.wholeSeconds)
  intro status present
  obtain ⟨_, accepted⟩ := wasRead.status present
  exact MachineStatus.stable.again accepted

/-- It stays such a machine with another UID and version. -/
theorem WasRead.stamped (wasRead : machine.WasRead) (uid version : Option String) :
    WasRead { machine with metadata := machine.metadata.stamped uid version } where
  metadata := wasRead.metadata.stamped uid version
  spec := wasRead.spec
  status := wasRead.status
  wholeSeconds := congrArg
    (fun machine => { machine with metadata := machine.metadata.stamped uid version })
    wasRead.wholeSeconds

/-- It stays such a machine with the status of another one. -/
theorem WasRead.withStatus (wasRead : machine.WasRead) (otherRead : other.WasRead) :
    WasRead { machine with status := other.status } where
  metadata := wasRead.metadata
  spec := wasRead.spec
  status := otherRead.status
  wholeSeconds := congrArg (fun machine => { machine with status := other.status })
    wasRead.wholeSeconds

end Machine

/-! ## Machine sets -/

namespace MachineSet

/-- A machine set whose parts were read, with whole seconds. -/
structure WasRead (machineSet : MachineSet) : Prop where
  metadata : machineSet.metadata.WasRead
  spec : Found MachineSetSpec.decode? machineSet.spec
  status : ∀ {status}, machineSet.status = some status → Found MachineSetStatus.decode? status
  wholeSeconds : machineSet.wholeSeconds = machineSet

variable {machineSet : MachineSet}

theorem wasRead_of_found (found : Found decode? machineSet)
    (whole : machineSet.wholeSeconds = machineSet) : machineSet.WasRead := by
  obtain ⟨document, read⟩ := found
  simp only [decode?, view_bind_eq_some_iff, Option.some.injEq] at read
  obtain ⟨_, -, _, metadata, _, spec, _, status, rfl⟩ := read
  exact ⟨ObjectMeta.wasRead_of_found (Fields.exists_of_required? metadata),
    Fields.exists_of_required? spec, found_of_optional? status, whole⟩

/-- Such a machine set is read from what is printed for it. -/
theorem WasRead.decode?_toJson (wasRead : machineSet.WasRead) :
    decode? (.ofJson machineSet.toJson) = some machineSet := by
  obtain ⟨_, spec⟩ := wasRead.spec
  refine (again_of_parts wasRead.metadata.again (MachineSetSpec.stable.again spec) ?_).trans
    (congrArg some wasRead.wholeSeconds)
  intro status present
  obtain ⟨_, accepted⟩ := wasRead.status present
  exact MachineSetStatus.stable.again accepted

/-- It stays such a machine set with another UID and version. -/
theorem WasRead.stamped (wasRead : machineSet.WasRead) (uid version : Option String) :
    WasRead { machineSet with metadata := machineSet.metadata.stamped uid version } where
  metadata := wasRead.metadata.stamped uid version
  spec := wasRead.spec
  status := wasRead.status
  wholeSeconds := congrArg
    (fun machineSet => { machineSet with metadata := machineSet.metadata.stamped uid version })
    wasRead.wholeSeconds

end MachineSet

/-! ## Nodes -/

namespace Node

/-- A node whose parts were read, with whole seconds. -/
structure WasRead (node : Node) : Prop where
  metadata : node.metadata.WasRead
  spec : ∀ {spec}, node.spec = some spec → Found NodeSpec.decode? spec
  status : ∀ {status}, node.status = some status → Found NodeStatus.decode? status
  wholeSeconds : node.wholeSeconds = node

variable {node other : Node}

/-- A node without metadata has the metadata of an empty object. -/
theorem found_metadata {fields : Fields} {metadata : ObjectMeta}
    (read : fields.orElse? "metadata" ObjectMeta.empty ObjectMeta.decode? = some metadata) :
    Found ObjectMeta.decode? metadata := by
  obtain ⟨found, optional, rfl⟩ := Option.map_eq_some_iff.mp read
  cases found with
  | none => exact ⟨.object [], rfl⟩
  | some metadata => exact found_of_optional? optional rfl

theorem wasRead_of_found (found : Found decode? node) (whole : node.wholeSeconds = node) :
    node.WasRead := by
  obtain ⟨document, read⟩ := found
  simp only [decode?, view_bind_eq_some_iff] at read
  obtain ⟨fields, -, read⟩ := read
  split at read
  · cases read
  · simp only [view_bind_eq_some_iff, Option.some.injEq] at read
    obtain ⟨_, metadata, _, spec, _, status, rfl⟩ := read
    exact ⟨ObjectMeta.wasRead_of_found (found_metadata metadata), found_of_optional? spec,
      found_of_optional? status, whole⟩

/-- Such a node is read from what is printed for it. -/
theorem WasRead.decode?_toJson (wasRead : node.WasRead) :
    decode? (.ofJson node.toJson) = some node := by
  refine (again_of_parts wasRead.metadata.again ?_ ?_).trans (congrArg some wasRead.wholeSeconds)
  · intro spec present
    obtain ⟨_, accepted⟩ := wasRead.spec present
    exact NodeSpec.stable.again accepted
  · intro status present
    obtain ⟨_, accepted⟩ := wasRead.status present
    exact NodeStatus.stable.again accepted

/-- It stays such a node with another UID and version. -/
theorem WasRead.stamped (wasRead : node.WasRead) (uid version : Option String) :
    WasRead { node with metadata := node.metadata.stamped uid version } where
  metadata := wasRead.metadata.stamped uid version
  spec := wasRead.spec
  status := wasRead.status
  wholeSeconds := congrArg (fun node => { node with metadata := node.metadata.stamped uid version })
    wasRead.wholeSeconds

/-- It stays such a node with the status of another one. -/
theorem WasRead.withStatus (wasRead : node.WasRead) (otherRead : other.WasRead) :
    WasRead { node with status := other.status } where
  metadata := wasRead.metadata
  spec := wasRead.spec
  status := otherRead.status
  wholeSeconds := congrArg (fun node => { node with status := other.status }) wasRead.wholeSeconds

end Node

end NodeSync
