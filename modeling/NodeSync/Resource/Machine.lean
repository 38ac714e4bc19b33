/-
Module: NodeSync.Resource.Machine
Purpose: Machines, with the JSON form. Only the fields that the synchronisation reads or writes
  have a type; all others are carried along unchanged, so that writing a machine back loses none
  of them.
Main exports: MachineMetadata, MachineSpec, MachineStatus, Machine
-/
import NodeSync.Resource.Taint

namespace NodeSync

open Json

set_option autoImplicit false

/-- The API group of machines and machine sets. -/
def machineGroup : String := "machine.openshift.io"

def machineApiVersion : String := machineGroup ++ "/v1beta1"

/-- A value that is left out where it is empty. -/
def Json.unlessEmpty (labels : Labels) : Option Json :=
  if labels.isEmpty then none else some (ofTexts labels)

/-- Metadata inside a machine's specification or a template. -/
structure MachineMetadata where
  labels : Labels
  annotations : Labels
  /-- All other fields. -/
  extra : SortedMap String Json
deriving Inhabited

namespace MachineMetadata

/-- Metadata without any field. -/
def empty : MachineMetadata := ⟨SortedMap.empty, SortedMap.empty, SortedMap.empty⟩

def isEmpty (metadata : MachineMetadata) : Bool :=
  metadata.labels.isEmpty && metadata.annotations.isEmpty && metadata.extra.isEmpty

def decode? : Decoder MachineMetadata := fun value => do
  let fields ← extensible? ["labels", "annotations"] value
  some {
    labels := ← Fields.defaulted? fields "labels" SortedMap.empty texts?
    annotations := ← Fields.defaulted? fields "annotations" SortedMap.empty texts?
    extra := ← Fields.others? fields ["labels", "annotations"] }

def toJson (metadata : MachineMetadata) : Json :=
  ofFieldsWith [
    ("labels", unlessEmpty metadata.labels),
    ("annotations", unlessEmpty metadata.annotations)] metadata.extra

end MachineMetadata

/-- What is wanted of a machine. `metadata` and `taints` are meant for its node. -/
structure MachineSpec where
  metadata : MachineMetadata
  taints : List Taint
  /-- All other fields: provider configuration, lifecycle hooks and the like. -/
  extra : SortedMap String Json
deriving Inhabited

namespace MachineSpec

/-- A specification without any field. -/
def empty : MachineSpec := ⟨MachineMetadata.empty, [], SortedMap.empty⟩

def decode? : Decoder MachineSpec := fun value => do
  let fields ← extensible? ["metadata", "taints"] value
  some {
    metadata := ← Fields.defaulted? fields "metadata" MachineMetadata.empty MachineMetadata.decode?
    taints := ← Fields.defaulted? fields "taints" [] (list? Taint.decode?)
    extra := ← Fields.others? fields ["metadata", "taints"] }

def toJson (spec : MachineSpec) : Json :=
  ofFieldsWith [
    ("metadata", if spec.metadata.isEmpty then none else some spec.metadata.toJson),
    ("taints", if spec.taints.isEmpty then none else some (Taint.listToJson spec.taints))]
    spec.extra

end MachineSpec

/-- What is observed of a machine. -/
structure MachineStatus where
  /-- The node of the machine, once it has joined the cluster. -/
  nodeRef : Option ObjectReference
  /-- All other fields. -/
  extra : SortedMap String Json
deriving Inhabited

namespace MachineStatus

def decode? : Decoder MachineStatus := fun value => do
  let fields ← extensible? ["nodeRef"] value
  some {
    nodeRef := ← Fields.optional? fields "nodeRef" ObjectReference.decode?
    extra := ← Fields.others? fields ["nodeRef"] }

def toJson (status : MachineStatus) : Json :=
  ofFieldsWith [("nodeRef", status.nodeRef.map ObjectReference.toJson)] status.extra

end MachineStatus

/-- A machine: the host behind a node. -/
structure Machine where
  metadata : ObjectMeta
  spec : MachineSpec
  status : Option MachineStatus
deriving Inhabited

namespace Machine

def kind : String := "Machine"

/-- The parts of a machine or machine set, in the order of their short form as a list. -/
def parts : List String := ["metadata", "spec", "status"]

def decode? : Decoder Machine := fun value => do
  let fields ← record? parts 3 value
  some {
    metadata := ← Fields.required? fields "metadata" ObjectMeta.decode?
    spec := ← Fields.required? fields "spec" MachineSpec.decode?
    status := ← Fields.optional? fields "status" MachineStatus.decode? }

def toJson (machine : Machine) : Json :=
  ofFields [
    ("apiVersion", some (.string machineApiVersion)),
    ("kind", some (.string kind)),
    ("metadata", some machine.metadata.toJson),
    ("spec", some machine.spec.toJson),
    ("status", machine.status.map MachineStatus.toJson)]

/-- The name of the machine's node; a machine whose reference has an empty name has none yet. -/
def nodeName? (machine : Machine) : Option String :=
  (machine.status.bind fun status => status.nodeRef.bind (·.name)).filter (· ≠ "")

/-- The labels that the machine wants on its node. -/
def nodeLabels (machine : Machine) : Labels := machine.spec.metadata.labels

/-- The labels of the machine itself, which selectors look at. -/
def objectLabels (machine : Machine) : Labels := machine.metadata.labelMap

/-- Replaces the labels that the machine wants on its node. -/
def setNodeLabels (machine : Machine) (labels : Labels) : Machine :=
  { machine with spec := { machine.spec with
      metadata := { machine.spec.metadata with labels := labels } } }

/-- Replaces the taints that the machine wants on its node. -/
def setTaints (machine : Machine) (taints : List Taint) : Machine :=
  { machine with spec := { machine.spec with taints := taints } }

end Machine

end NodeSync
