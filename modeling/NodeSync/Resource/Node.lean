/-
Module: NodeSync.Resource.Node
Purpose: Nodes of the cluster, with the JSON form. A node may name its type; another type than
  the one of nodes is refused. Fields that nothing here looks at are carried along in their form.
Main exports: Node, NodeSpec, NodeStatus
-/
import NodeSync.Resource.Taint

namespace NodeSync

open Json

set_option autoImplicit false

/-- What is wanted of a node. -/
structure NodeSpec where
  podCIDR : Option String
  providerID : Option String
  taints : Option (List Taint)
  unschedulable : Option Bool
  /-- The other fields. -/
  carried : SortedMap String Json
deriving Repr, Inhabited

namespace NodeSpec

/-- A specification without any field. -/
def empty : NodeSpec := ⟨none, none, none, none, .empty⟩

/-- Where a node takes its own configuration from. -/
def configSource : Form := .record [
  .optional "configMap" (.record [
    .text "kubeletConfigKey",
    .text "name",
    .text "namespace",
    .optional "resourceVersion" .text,
    .optional "uid" .text])]

/-- The fields that are carried along. -/
def carriedForms : List FieldForm := [
  .optional "configSource" configSource,
  .optional "externalID" .text,
  .optional "podCIDRs" (.list .text)]

def decode? : Decoder NodeSpec := fun value => do
  let fields ← object? value
  some {
    podCIDR := ← Fields.optional? fields "podCIDR" text?
    providerID := ← Fields.optional? fields "providerID" text?
    taints := ← Fields.optional? fields "taints" (list? Taint.decode?)
    unschedulable := ← Fields.optional? fields "unschedulable" bool?
    carried := ← Fields.carried? fields carriedForms }

def toJson (spec : NodeSpec) : Json :=
  ofFieldsWith [
    ("podCIDR", spec.podCIDR.map .string),
    ("providerID", spec.providerID.map .string),
    ("taints", spec.taints.map Taint.listToJson),
    ("unschedulable", spec.unschedulable.map .bool)]
    spec.carried

end NodeSpec

/-- An amount of a resource, a text; an integer of 64 bits stands for its decimal text. -/
def quantity? : Decoder String := fun value =>
  (text? value).or
    ((integer? (-9223372036854775808) 18446744073709551615 value).map Text.signedDecimal)

/-- What is observed of a node. -/
structure NodeStatus where
  phase : Option String
  capacity : Option (SortedMap String String)
  /-- The other fields. -/
  carried : SortedMap String Json
deriving Repr, Inhabited

namespace NodeStatus

def address : Form := .record [.text "address", .text "type"]

def condition : Form := .record [
  .optional "lastHeartbeatTime" .time,
  .optional "lastTransitionTime" .time,
  .optional "message" .text,
  .optional "reason" .text,
  .text "status",
  .text "type"]

/-- Which configurations the node uses or should use. -/
def config : Form := .record [
  .optional "active" NodeSpec.configSource,
  .optional "assigned" NodeSpec.configSource,
  .optional "error" .text,
  .optional "lastKnownGood" NodeSpec.configSource]

def daemonEndpoints : Form := .record [
  .optional "kubeletEndpoint" (.record [⟨"Port", .int32, some (ofInt 0)⟩])]

def image : Form := .record [
  .optional "names" (.list .text),
  .optional "sizeBytes" .int64]

/-- The machine and the system that the node runs on. -/
def nodeInfo : Form := .record [
  .text "architecture",
  .text "bootID",
  .text "containerRuntimeVersion",
  .text "kernelVersion",
  .text "kubeProxyVersion",
  .text "kubeletVersion",
  .text "machineID",
  .text "operatingSystem",
  .text "osImage",
  .text "systemUUID"]

def runtimeHandler : Form := .record [
  .optional "features" (.record [.optional "recursiveReadOnlyMounts" .bool]),
  .optional "name" .text]

def attachedVolume : Form := .record [.text "devicePath", .text "name"]

/-- The fields that are carried along. -/
def carriedForms : List FieldForm := [
  .optional "addresses" (.list address),
  .optional "allocatable" (.mapping (.ofView quantity? .string)),
  .optional "conditions" (.list condition),
  .optional "config" config,
  .optional "daemonEndpoints" daemonEndpoints,
  .optional "images" (.list image),
  .optional "nodeInfo" nodeInfo,
  .optional "runtimeHandlers" (.list runtimeHandler),
  .optional "volumesAttached" (.list attachedVolume),
  .optional "volumesInUse" (.list .text)]

def decode? : Decoder NodeStatus := fun value => do
  let fields ← object? value
  some {
    phase := ← Fields.optional? fields "phase" text?
    capacity := ← Fields.optional? fields "capacity" (map? quantity?)
    carried := ← Fields.carried? fields carriedForms }

def toJson (status : NodeStatus) : Json :=
  ofFieldsWith [
    ("phase", status.phase.map .string),
    ("capacity", status.capacity.map ofTexts)]
    status.carried

end NodeStatus

/-- A node of the cluster. -/
structure Node where
  metadata : ObjectMeta
  spec : Option NodeSpec
  status : Option NodeStatus
deriving Repr, Inhabited

namespace Node

def apiVersion : String := "v1"

def kind : String := "Node"

/-- Whether every field of a name holds a given text. -/
def agrees (fields : Fields) (name expected : String) : Bool :=
  fields.all fun field =>
    field.1 != name || match field.2 with
      | .string found => found == expected
      | _ => false

def decode? : Decoder Node := fun value => do
  let fields ← object? value
  if !agrees fields "apiVersion" apiVersion || !agrees fields "kind" kind then none
  else
    some {
      metadata := ← Fields.orElse? fields "metadata" ObjectMeta.empty ObjectMeta.decode?
      spec := ← Fields.optional? fields "spec" NodeSpec.decode?
      status := ← Fields.optional? fields "status" NodeStatus.decode? }

def toJson (node : Node) : Json :=
  ofFields [
    ("apiVersion", some (.string apiVersion)),
    ("kind", some (.string kind)),
    ("metadata", some node.metadata.toJson),
    ("spec", node.spec.map NodeSpec.toJson),
    ("status", node.status.map NodeStatus.toJson)]

/-- The taints of the node, none if the field or the specification is absent. -/
def taints (node : Node) : List Taint :=
  ((node.spec.bind (·.taints))).getD []

/-- Replaces the taints; a list without taints is left out, and an absent specification is
created. -/
def setTaints (node : Node) (taints : List Taint) : Node :=
  let spec := node.spec.getD NodeSpec.empty
  { node with spec := some { spec with taints := if taints.isEmpty then none else some taints } }

end Node

end NodeSync
