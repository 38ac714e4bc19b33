/-
Module: NodeSync.Resource.MachineSet
Purpose: Machine sets: a selector over machines and the template of their labels and taints, with
  the JSON form. Fields without a type here are carried along unchanged.
Main exports: MachineTemplate, MachineSetSpec, MachineSet
-/
import NodeSync.Resource.LabelSelector
import NodeSync.Resource.Machine

namespace NodeSync

open Json

set_option autoImplicit false

/-- The template of the machines of a set. -/
structure MachineTemplate where
  /-- Stamped onto the machines themselves. -/
  metadata : MachineMetadata
  /-- Copied into every machine; its labels and taints are meant for the nodes. -/
  spec : MachineSpec
deriving Inhabited

namespace MachineTemplate

/-- A template without any field. -/
def empty : MachineTemplate := ⟨MachineMetadata.empty, MachineSpec.empty⟩

def decode? : Decoder MachineTemplate := fun value => do
  let fields ← record? ["metadata", "spec"] 0 value
  some {
    metadata := ← Fields.defaulted? fields "metadata" MachineMetadata.empty MachineMetadata.decode?
    spec := ← Fields.defaulted? fields "spec" MachineSpec.empty MachineSpec.decode? }

def toJson (template : MachineTemplate) : Json :=
  ofFields [
    ("metadata", some template.metadata.toJson),
    ("spec", some template.spec.toJson)]

end MachineTemplate

/-- What is wanted of a machine set. -/
structure MachineSetSpec where
  replicas : Option Int
  selector : LabelSelector
  template : MachineTemplate
  /-- All other fields. -/
  extra : SortedMap String Json
deriving Inhabited

namespace MachineSetSpec

def decode? : Decoder MachineSetSpec := fun value => do
  let fields ← extensible? ["replicas", "selector", "template"] value
  some {
    replicas := ← Fields.optional? fields "replicas" int32?
    selector := ← Fields.defaulted? fields "selector" LabelSelector.empty LabelSelector.decode?
    template := ← Fields.defaulted? fields "template" MachineTemplate.empty MachineTemplate.decode?
    extra := ← Fields.others? fields ["replicas", "selector", "template"] }

def toJson (spec : MachineSetSpec) : Json :=
  ofFieldsWith [
    ("replicas", spec.replicas.map ofInt),
    ("selector", some spec.selector.toJson),
    ("template", some spec.template.toJson)] spec.extra

end MachineSetSpec

/-- What is observed of a machine set, all of it carried along. -/
structure MachineSetStatus where
  extra : SortedMap String Json
deriving Inhabited

namespace MachineSetStatus

def decode? : Decoder MachineSetStatus := fun value => do
  let fields ← extensible? [] value
  some { extra := ← Fields.others? fields [] }

def toJson (status : MachineSetStatus) : Json := ofFieldsWith [] status.extra

end MachineSetStatus

/-- A set of machines that are made from one template. -/
structure MachineSet where
  metadata : ObjectMeta
  spec : MachineSetSpec
  status : Option MachineSetStatus
deriving Inhabited

namespace MachineSet

def kind : String := "MachineSet"

def decode? : Decoder MachineSet := fun value => do
  let fields ← record? Machine.parts 3 value
  some {
    metadata := ← Fields.required? fields "metadata" ObjectMeta.decode?
    spec := ← Fields.required? fields "spec" MachineSetSpec.decode?
    status := ← Fields.optional? fields "status" MachineSetStatus.decode? }

def toJson (machineSet : MachineSet) : Json :=
  ofFields [
    ("apiVersion", some (.string machineApiVersion)),
    ("kind", some (.string kind)),
    ("metadata", some machineSet.metadata.toJson),
    ("spec", some machineSet.spec.toJson),
    ("status", machineSet.status.map MachineSetStatus.toJson)]

/-- The node labels that the template asks for. -/
def templateNodeLabels (machineSet : MachineSet) : Labels :=
  machineSet.spec.template.spec.metadata.labels

/-- The node taints that the template asks for, in its order. -/
def templateTaints (machineSet : MachineSet) : List Taint :=
  machineSet.spec.template.spec.taints

/-- The labels that the template stamps onto the machines themselves. -/
def templateMachineLabels (machineSet : MachineSet) : Labels :=
  machineSet.spec.template.metadata.labels

end MachineSet

end NodeSync
