/-
Module: NodeSync.Resource.Metadata
Purpose: What every cluster object carries beside its content: names, versions, labels,
  annotations and owners, with the JSON form. Every field may be absent, a null means the same,
  and fields of other names are dropped. Fields that nothing here looks at are carried along in
  their form.
Main exports: Labels, OwnerReference, ObjectMeta, ObjectReference
-/
import NodeSync.Json.Form
import NodeSync.Timestamp

namespace NodeSync

open Json

set_option autoImplicit false

/-- Keys with their values: the labels or the annotations of an object. -/
abbrev Labels := SortedMap String String

def Timestamp.decode? : Decoder Timestamp := fun value => (text? value).bind Timestamp.read?

def Timestamp.toJson (time : Timestamp) : Json := .string time.print

def Json.Form.time : Form := .ofView Timestamp.decode? Timestamp.toJson

/-- A 64-bit signed integer. -/
def Json.int64? : Decoder Int := integer? (-9223372036854775808) 9223372036854775807

def Json.Form.int64 : Form := .ofView int64? ofInt

/-- A 32-bit signed integer. -/
def Json.int32? : Decoder Int := integer? (-2147483648) 2147483647

def Json.Form.int32 : Form := .ofView int32? ofInt

/-- A reference to an object that owns this one; at most one owner is meant to be marked as the
managing controller. -/
structure OwnerReference where
  apiVersion : String
  kind : String
  name : String
  uid : String
  controller : Option Bool
  blockOwnerDeletion : Option Bool
deriving Repr, Inhabited, DecidableEq

namespace OwnerReference

def decode? : Decoder OwnerReference := fun value => do
  let fields ← object? value
  some {
    apiVersion := ← Fields.orElse? fields "apiVersion" "" text?
    kind := ← Fields.orElse? fields "kind" "" text?
    name := ← Fields.orElse? fields "name" "" text?
    uid := ← Fields.orElse? fields "uid" "" text?
    controller := ← Fields.optional? fields "controller" bool?
    blockOwnerDeletion := ← Fields.optional? fields "blockOwnerDeletion" bool? }

def toJson (owner : OwnerReference) : Json :=
  ofFields [
    ("apiVersion", some (.string owner.apiVersion)),
    ("kind", some (.string owner.kind)),
    ("name", some (.string owner.name)),
    ("uid", some (.string owner.uid)),
    ("controller", owner.controller.map .bool),
    ("blockOwnerDeletion", owner.blockOwnerDeletion.map .bool)]

end OwnerReference

/-- The metadata of an object. -/
structure ObjectMeta where
  name : Option String
  /-- The namespace. -/
  ns : Option String
  generateName : Option String
  uid : Option String
  resourceVersion : Option String
  generation : Option Int
  creationTimestamp : Option Timestamp
  deletionTimestamp : Option Timestamp
  labels : Option Labels
  annotations : Option Labels
  finalizers : Option (List String)
  ownerReferences : Option (List OwnerReference)
  /-- The other fields. -/
  carried : SortedMap String Json
deriving Repr

namespace ObjectMeta

/-- Metadata without any field. -/
def empty : ObjectMeta :=
  ⟨none, none, none, none, none, none, none, none, none, none, none, none, .empty⟩

instance : Inhabited ObjectMeta := ⟨empty⟩

/-- Who wrote which fields of an object last. -/
def managedFields : Form := .list (.record [
  .optional "apiVersion" .text,
  .optional "fieldsType" .text,
  .optional "fieldsV1" .any,
  .optional "manager" .text,
  .optional "operation" .text,
  .optional "subresource" .text,
  .optional "time" .time])

/-- The fields that are carried along. -/
def carriedForms : List FieldForm := [
  .optional "deletionGracePeriodSeconds" .int64,
  .optional "managedFields" managedFields,
  .optional "selfLink" .text]

def decode? : Decoder ObjectMeta := fun value => do
  let fields ← object? value
  some {
    name := ← Fields.optional? fields "name" text?
    ns := ← Fields.optional? fields "namespace" text?
    generateName := ← Fields.optional? fields "generateName" text?
    uid := ← Fields.optional? fields "uid" text?
    resourceVersion := ← Fields.optional? fields "resourceVersion" text?
    generation := ← Fields.optional? fields "generation" int64?
    creationTimestamp := ← Fields.optional? fields "creationTimestamp" Timestamp.decode?
    deletionTimestamp := ← Fields.optional? fields "deletionTimestamp" Timestamp.decode?
    labels := ← Fields.optional? fields "labels" texts?
    annotations := ← Fields.optional? fields "annotations" texts?
    finalizers := ← Fields.optional? fields "finalizers" (list? text?)
    ownerReferences := ← Fields.optional? fields "ownerReferences" (list? OwnerReference.decode?)
    carried := ← Fields.carried? fields carriedForms }

def toJson (metadata : ObjectMeta) : Json :=
  ofFieldsWith [
    ("name", metadata.name.map .string),
    ("namespace", metadata.ns.map .string),
    ("generateName", metadata.generateName.map .string),
    ("uid", metadata.uid.map .string),
    ("resourceVersion", metadata.resourceVersion.map .string),
    ("generation", metadata.generation.map ofInt),
    ("creationTimestamp", metadata.creationTimestamp.map Timestamp.toJson),
    ("deletionTimestamp", metadata.deletionTimestamp.map Timestamp.toJson),
    ("labels", metadata.labels.map ofTexts),
    ("annotations", metadata.annotations.map ofTexts),
    ("finalizers", metadata.finalizers.map fun names => .array (names.map .string)),
    ("ownerReferences",
      metadata.ownerReferences.map fun owners => .array (owners.map OwnerReference.toJson))]
    metadata.carried

/-- The name of an object, or the stem of the name it is to get. -/
def anyName (metadata : ObjectMeta) : String :=
  (metadata.name.or metadata.generateName).getD ""

/-- The labels, none if the field is absent. -/
def labelMap (metadata : ObjectMeta) : Labels := metadata.labels.getD SortedMap.empty

/-- The first owner marked as the managing controller. -/
def controller? (metadata : ObjectMeta) : Option OwnerReference :=
  (metadata.ownerReferences.getD []).find? fun owner => owner.controller == some true

end ObjectMeta

/-- A reference to some other object. -/
structure ObjectReference where
  apiVersion : Option String
  fieldPath : Option String
  kind : Option String
  name : Option String
  ns : Option String
  resourceVersion : Option String
  uid : Option String
deriving Repr, Inhabited, DecidableEq

namespace ObjectReference

def decode? : Decoder ObjectReference := fun value => do
  let fields ← object? value
  some {
    apiVersion := ← Fields.optional? fields "apiVersion" text?
    fieldPath := ← Fields.optional? fields "fieldPath" text?
    kind := ← Fields.optional? fields "kind" text?
    name := ← Fields.optional? fields "name" text?
    ns := ← Fields.optional? fields "namespace" text?
    resourceVersion := ← Fields.optional? fields "resourceVersion" text?
    uid := ← Fields.optional? fields "uid" text? }

def toJson (reference : ObjectReference) : Json :=
  ofFields [
    ("apiVersion", reference.apiVersion.map .string),
    ("fieldPath", reference.fieldPath.map .string),
    ("kind", reference.kind.map .string),
    ("name", reference.name.map .string),
    ("namespace", reference.ns.map .string),
    ("resourceVersion", reference.resourceVersion.map .string),
    ("uid", reference.uid.map .string)]

end ObjectReference

end NodeSync
