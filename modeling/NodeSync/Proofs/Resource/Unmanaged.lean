/-
Module: NodeSync.Proofs.Resource.Unmanaged
Purpose: Machines and machine sets lose nothing by being read and printed. What was read is read
  again from the print, and the print of a machine has every member of the specification, of its
  metadata and of the status that is not managed here, with the value that the text gave it, and no
  other such member. That stays true when the managed labels and taints are replaced, as they are
  between a list of machines and the update of one.
Main exports: Document.field?, Json.field?, Machine.part?, KeepsMembers, Machine.KeepsUnmanaged,
  Machine.Reprinted, MachineSet.Reprinted, Remote.Response.items, resources_reprinted
-/
import NodeSync.Proofs.Resource.Stable
import NodeSync.Store.Remote

namespace NodeSync

open Json

set_option autoImplicit false

/-! ## Members -/

/-- The last field of a name in a part that is an object. -/
def Json.Document.field? (document : Document) (name : String) : Option Document :=
  (object? document).bind (Fields.find? · name)

/-- The field of a name in a value that is an object. -/
def Json.field? : Json → String → Option Json
  | .object fields, name => Entries.lookup name fields
  | _, _ => none

/-- A printed value has the members of a part of a text, each with the value that the text gives it,
and no others; but for the names that are managed. -/
def KeepsMembers (managed : List String) (part : Option Document) (printed : Option Json) : Prop :=
  ∀ name, name ∉ managed →
    (part.bind (·.field? name)).map Document.json? = (printed.bind (·.field? name)).map some

namespace Machine

/-- A part of a machine: a field, or an item where the machine is written as a list. -/
def part? (document : Document) (name : String) : Option Document :=
  match document with
  | .array items => Fields.find? (parts.zip items) name
  | _ => document.field? name

/-- What is printed for a machine has the unmanaged members of the text of a machine. -/
structure KeepsUnmanaged (document : Document) (printed : Json) : Prop where
  spec : KeepsMembers ["metadata", "taints"] (part? document "spec") (printed.field? "spec")
  metadata : KeepsMembers ["labels", "annotations"]
    ((part? document "spec").bind (·.field? "metadata"))
    ((printed.field? "spec").bind (·.field? "metadata"))
  status : KeepsMembers ["nodeRef"] (part? document "status") (printed.field? "status")

/-- What comes of a machine that was read and is printed. -/
structure Reprinted (document : Document) (machine : Machine) : Prop where
  accepted : decode? (.ofJson machine.toJson) = some machine.wholeSeconds
  printed : machine.wholeSeconds.toJson = machine.toJson
  nodeName : machine.wholeSeconds.nodeName? = machine.nodeName?
  nodeLabels : machine.wholeSeconds.nodeLabels = machine.nodeLabels
  objectLabels : machine.wholeSeconds.objectLabels = machine.objectLabels
  keeps : KeepsUnmanaged document machine.toJson
  /-- Also after its node labels and taints have been replaced. -/
  keepsReplaced : ∀ labels taints,
    KeepsUnmanaged document ((machine.setNodeLabels labels).setTaints taints).toJson

end Machine

/-- What comes of a machine set that was read and is printed. -/
structure MachineSet.Reprinted (machineSet : MachineSet) : Prop where
  accepted : decode? (.ofJson machineSet.toJson) = some machineSet.wholeSeconds
  printed : machineSet.wholeSeconds.toJson = machineSet.toJson
  templateNodeLabels : machineSet.wholeSeconds.templateNodeLabels = machineSet.templateNodeLabels
  templateMachineLabels :
    machineSet.wholeSeconds.templateMachineLabels = machineSet.templateMachineLabels
  templateTaints : machineSet.wholeSeconds.templateTaints =
    machineSet.templateTaints.map Taint.wholeSeconds

/-! ## Members that are read -/

/-- A map has the members of a part, but for the names that are managed. -/
def HoldsMembers (managed : List String) (part : Option Document) (extra : SortedMap String Json) :
    Prop :=
  ∀ name, name ∉ managed → (part.bind (·.field? name)).map Document.json? =
    (extra.get? name).map some

theorem object?_of_extensible? {names : List String} {document : Document} {fields : Fields}
    (read : extensible? names document = some fields) : object? document = some fields :=
  (Option.filter_eq_some_iff.mp read).1

/-- The fields that an object carries along are the last ones of their names that its text has. -/
theorem holdsMembers_of_others? {names : List String} {document : Document} {fields : Fields}
    {extra : SortedMap String Json} (opened : object? document = some fields)
    (read : fields.others? names = some extra) : HoldsMembers names (some document) extra := by
  intro name unmanaged
  simp only [Option.bind_some, Document.field?, opened]
  exact Fields.others_get?_eq_find? read unmanaged

theorem MachineMetadata.holdsMembers {document : Document} {metadata : MachineMetadata}
    (read : decode? document = some metadata) :
    HoldsMembers ["labels", "annotations"] (some document) metadata.extra := by
  simp only [decode?, view_bind_eq_some_iff, Option.some.injEq] at read
  obtain ⟨fields, opened, _, -, _, -, _, extra, rfl⟩ := read
  exact holdsMembers_of_others? (object?_of_extensible? opened) extra

/-- A specification carries its unmanaged members along, and so does its metadata. It has no other
member that would be printed in the place of its metadata. -/
theorem MachineSpec.holdsMembers {document : Document} {spec : MachineSpec}
    (read : decode? document = some spec) :
    HoldsMembers ["metadata", "taints"] (some document) spec.extra ∧
      HoldsMembers ["labels", "annotations"] (document.field? "metadata") spec.metadata.extra ∧
      spec.extra.get? "metadata" = none := by
  simp only [decode?, view_bind_eq_some_iff, Option.some.injEq] at read
  obtain ⟨fields, opened, _, metadata, _, -, _, extra, rfl⟩ := read
  have opened := object?_of_extensible? opened
  refine ⟨holdsMembers_of_others? opened extra, ?_, Fields.others_get?_eq_none extra (by simp)⟩
  rw [Document.field?, opened, Option.bind_some]
  obtain ⟨found, last, rfl⟩ := Option.map_eq_some_iff.mp metadata
  cases found with
  | none =>
      rw [(Fields.find?_of_last? last).2 rfl]
      exact fun _ _ => rfl
  | some metadata =>
      obtain ⟨part, found, accepted⟩ := Fields.exists_of_last? last
      rw [found]
      exact MachineMetadata.holdsMembers accepted

theorem MachineStatus.holdsMembers {document : Document} {status : MachineStatus}
    (read : decode? document = some status) :
    HoldsMembers ["nodeRef"] (some document) status.extra := by
  simp only [decode?, view_bind_eq_some_iff, Option.some.injEq] at read
  obtain ⟨fields, opened, _, -, _, extra, rfl⟩ := read
  exact holdsMembers_of_others? (object?_of_extensible? opened) extra

/-- A part is found where it is read, whether the machine is written as an object or as a list. -/
theorem Machine.part?_eq_find? {document : Document} {fields : Fields}
    (opened : record? parts 3 document = some fields) (name : String) :
    part? document name = fields.find? name := by
  unfold record? at opened
  split at opened
  · split at opened
    · cases opened
      rfl
    · cases opened
  · rename_i other
    have opened := object?_of_extensible? opened
    unfold part?
    split
    · exact absurd rfl (other _)
    · rw [Document.field?, opened, Option.bind_some]

/-- The members of the text of a machine that are not managed are carried along. -/
theorem Machine.holdsMembers {document : Document} {machine : Machine}
    (read : decode? document = some machine) :
    HoldsMembers ["metadata", "taints"] (part? document "spec") machine.spec.extra ∧
      HoldsMembers ["labels", "annotations"] ((part? document "spec").bind (·.field? "metadata"))
        machine.spec.metadata.extra ∧
      machine.spec.extra.get? "metadata" = none ∧
      HoldsMembers ["nodeRef"] (part? document "status")
        ((machine.status.map (·.extra)).getD .empty) := by
  simp only [decode?, view_bind_eq_some_iff, Option.some.injEq] at read
  obtain ⟨fields, opened, _, -, spec, readSpec, status, readStatus, rfl⟩ := read
  rw [part?_eq_find? opened, part?_eq_find? opened]
  obtain ⟨part, found, accepted⟩ := Fields.exists_of_last? (Option.join_eq_some_iff.mp readSpec)
  obtain ⟨members, metadata, apart⟩ := MachineSpec.holdsMembers accepted
  rw [found]
  refine ⟨members, metadata, apart, ?_⟩
  obtain ⟨found, last, rfl⟩ := Option.map_eq_some_iff.mp readStatus
  cases found with
  | none =>
      rw [(Fields.find?_of_last? last).2 rfl]
      exact fun _ _ => rfl
  | some status =>
      obtain ⟨part, found, accepted⟩ := Fields.exists_of_last? last
      rw [found]
      cases status with
      | none =>
          rw [eq_null_of_nullable? accepted]
          exact fun _ _ => rfl
      | some status => exact MachineStatus.holdsMembers (nullable?_eq_some_some accepted).2

/-! ## Members that are printed -/

/-- A printed object has the typed fields that are given, then those that are carried along. -/
theorem field?_ofFieldsWith {typed : List (String × Option Json)} {others : SortedMap String Json}
    (distinct : (typed.map (·.1)).Nodup) (name : String) :
    (ofFieldsWith typed others).field? name = (typed.lookup name).join.or (others.get? name) :=
  lookup_entriesWith distinct name

theorem field?_ofFields {typed : List (String × Option Json)} (distinct : (typed.map (·.1)).Nodup)
    (name : String) : (ofFields typed).field? name = (typed.lookup name).join := by
  have shown : (ofFieldsWith typed .empty).field? name = _ := field?_ofFieldsWith distinct name
  rw [SortedMap.get?_empty, Option.or_none] at shown
  exact shown

/-- A printed value has the members of a map, but for the names that are managed. -/
def ShowsMembers (managed : List String) (printed : Option Json)
    (extra : SortedMap String Json) : Prop :=
  ∀ name, name ∉ managed → printed.bind (·.field? name) = extra.get? name

/-- What was read from a text and is shown in a print is kept from one to the other. -/
theorem HoldsMembers.keeps {managed : List String} {part : Option Document}
    {printed : Option Json} {extra : SortedMap String Json}
    (holds : HoldsMembers managed part extra)
    (shows : ShowsMembers managed printed extra) : KeepsMembers managed part printed := by
  intro name unmanaged
  rw [holds name unmanaged, shows name unmanaged]

/-- A print shows what is carried along beside its typed fields. -/
theorem showsMembers_ofFieldsWith {typed : List (String × Option Json)} {names : List String}
    {others : SortedMap String Json} (all : typed.map (·.1) = names) (distinct : names.Nodup) :
    ShowsMembers names (some (ofFieldsWith typed others)) others := by
  subst all
  intro name unmanaged
  rw [Option.bind_some, field?_ofFieldsWith distinct, lookup_eq_none_of_not_mem unmanaged]
  rfl

namespace Machine

variable (machine : Machine)

theorem field?_toJson_spec : machine.toJson.field? "spec" = some machine.spec.toJson :=
  field?_ofFields (by simp) "spec"

theorem field?_toJson_status :
    machine.toJson.field? "status" = machine.status.map MachineStatus.toJson :=
  field?_ofFields (by simp) "status"

theorem showsMembers_spec : ShowsMembers ["metadata", "taints"] (machine.toJson.field? "spec")
    machine.spec.extra := by
  rw [field?_toJson_spec]
  exact showsMembers_ofFieldsWith rfl (by decide)

/-- Metadata that is left out of the print, since it is empty, has no member to be shown. -/
theorem showsMembers_metadata (apart : machine.spec.extra.get? "metadata" = none) :
    ShowsMembers ["labels", "annotations"]
      ((machine.toJson.field? "spec").bind (·.field? "metadata")) machine.spec.metadata.extra := by
  have printed : machine.spec.toJson.field? "metadata" =
      if machine.spec.metadata.isEmpty then none else some machine.spec.metadata.toJson := by
    refine (field?_ofFieldsWith (by simp) "metadata").trans ?_
    rw [apart]
    exact Option.or_none
  rw [field?_toJson_spec, Option.bind_some, printed]
  split
  · rename_i empty
    rw [MachineMetadata.eq_empty empty]
    exact fun _ _ => rfl
  · exact showsMembers_ofFieldsWith rfl (by decide)

/-- A machine without a status shows no member of it. -/
theorem showsMembers_status : ShowsMembers ["nodeRef"] (machine.toJson.field? "status")
    ((machine.status.map (·.extra)).getD .empty) := by
  rw [field?_toJson_status]
  cases machine.status with
  | none => exact fun _ _ => rfl
  | some status => exact showsMembers_ofFieldsWith rfl (by decide)

end Machine

/-! ## What is kept -/

/-- What is printed for a machine keeps the unmanaged members of the text that another machine was
read from, if both carry the same along. -/
theorem Machine.keepsUnmanaged {document : Document} {machine revised : Machine}
    (read : decode? document = some machine) (spec : revised.spec.extra = machine.spec.extra)
    (metadata : revised.spec.metadata.extra = machine.spec.metadata.extra)
    (status : revised.status = machine.status) : KeepsUnmanaged document revised.toJson := by
  obtain ⟨ofSpec, ofMetadata, apart, ofStatus⟩ := Machine.holdsMembers read
  rw [← spec] at ofSpec apart
  rw [← metadata] at ofMetadata
  rw [← status] at ofStatus
  exact ⟨ofSpec.keeps revised.showsMembers_spec,
    ofMetadata.keeps (revised.showsMembers_metadata apart),
    ofStatus.keeps revised.showsMembers_status⟩

/-- A machine that was read comes back from its print, with the same labels and the same node, and
with all that is not managed here. -/
theorem Machine.reprinted {document : Document} {machine : Machine}
    (read : decode? document = some machine) : machine.Reprinted document where
  accepted := stable.again read
  printed := machine.toJson_wholeSeconds
  nodeName := rfl
  nodeLabels := rfl
  objectLabels := rfl
  keeps := keepsUnmanaged read rfl rfl rfl
  keepsReplaced _ _ := keepsUnmanaged read rfl rfl rfl

/-- A machine set that was read comes back from its print with the same template, but for the
fractions of the times of its taints. -/
theorem MachineSet.reprinted {document : Document} {machineSet : MachineSet}
    (read : decode? document = some machineSet) : machineSet.Reprinted where
  accepted := stable.again read
  printed := machineSet.toJson_wholeSeconds
  templateNodeLabels := rfl
  templateMachineLabels := rfl
  templateTaints := rfl

/-! ## Machines of a server -/

/-- The items of the list that an answer holds. -/
def Remote.Response.items : Response → List Document
  | .answer _ body => (((body.document?.bind (·.field? "items")).bind array?).getD [])
  | .noAnswer => []

/-- What a revised machine that came from an item of a list is sent as keeps the unmanaged members
of the item. -/
def SentKeeping (item : Document) (machine : Machine) : Prop :=
  ∀ labels taints message, (Request.updateMachine
      ((machine.setNodeLabels labels).setTaints taints)).message = .ok message →
    ∃ printed, message.object = some printed ∧ Machine.KeepsUnmanaged item printed

/-- A machine is sent as it is printed. -/
theorem object_of_message {machine : Machine} {message : Remote.Message}
    (sent : (Request.updateMachine machine).message = .ok message) :
    message.object = some machine.toJson := by
  rw [Request.message] at sent
  dsimp only at sent
  cases named : Remote.requiredName Machine.kind machine.metadata with
  | error error =>
      rw [named] at sent
      cases sent
  | ok name =>
      rw [named] at sent
      simp only [Remote.put, Bind.bind, Except.bind] at sent
      generalize Remote.objectTarget _ name "?" = target at sent
      cases target with
      | error failure => cases sent
      | ok target =>
          cases sent
          rfl

/-- The values of a list are read from its items, one from each. -/
theorem mapM_of_items? {α : Type} {item : Decoder α} {document : Document} {values : List α}
    (read : Remote.items? item document = some values) :
    (((document.field? "items").bind array?).getD []).mapM item = some values := by
  simp only [Remote.items?, view_bind_eq_some_iff, Option.some.injEq] at read
  obtain ⟨fields, opened, _, -, found, required, _, -, rfl⟩ := read
  obtain ⟨part, here, accepted⟩ := Fields.exists_of_last? (Option.join_eq_some_iff.mp required)
  rw [Document.field?, object?_of_extensible? opened, Option.bind_some, here, Option.bind_some]
  cases found with
  | none =>
      rw [eq_null_of_nullable? accepted]
      rfl
  | some values =>
      have listed := (nullable?_eq_some_some accepted).2
      unfold list? at listed
      split at listed
      · exact listed
      · cases listed

/-- So are the machines of an answer. -/
theorem mapM_items_of_listMachines {ns : String} {response : Remote.Response}
    {machines : List Machine}
    (listed : (Request.listMachines ns).readResponse response = .ok machines) :
    response.items.mapM Machine.decode? = some machines := by
  cases response with
  | noAnswer => cases listed
  | answer status body =>
      rw [Request.readResponse] at listed
      dsimp only at listed
      split at listed
      · cases listed
      · split at listed
        · rename_i answer found
          cases listed
          obtain ⟨document, content, items⟩ := Option.bind_eq_some_iff.mp found
          rw [Remote.Response.items, content]
          exact mapM_of_items? items
        · cases listed

/-- Reading and printing loses nothing of machines and machine sets, and nothing unmanaged is lost
from the list of a server's machines to the update of one of them. -/
theorem resources_reprinted :
    (∀ document machine, Machine.decode? document = some machine →
      machine.Reprinted document) ∧
    (∀ document machineSet, MachineSet.decode? document = some machineSet →
      machineSet.Reprinted) ∧
    ∀ ns response (machines : List Machine),
      (Request.listMachines ns).readResponse response = .ok machines →
      List.Forall₂ (fun item machine => Machine.decode? item = some machine ∧
        SentKeeping item machine) response.items machines := by
  refine ⟨fun _ _ => Machine.reprinted, fun _ _ => MachineSet.reprinted, ?_⟩
  intro ns response machines listed
  have read := mapM_eq_some_iff.mp (mapM_items_of_listMachines listed)
  refine read.imp fun item machine accepted => ?_
  refine ⟨accepted, fun labels taints message sent => ⟨_, object_of_message sent, ?_⟩⟩
  exact (Machine.reprinted accepted).keepsReplaced labels taints

namespace SmallCluster

/-- The machine as a server writes it, with members that nothing here manages. -/
def machineJson : Json :=
  .object [
    ("metadata", .object [
      ("creationTimestamp", .string "2024-02-29T23:59:60.25Z"),
      ("name", .string "web-0"),
      ("namespace", .string "machines")]),
    ("spec", .object [
      ("lifecycleHooks", .null),
      ("metadata", .object [("name", .string "web"), ("labels", .object [])]),
      ("providerSpec", .object [("value", .object [("cores", ofNat 4)])])]),
    ("status", .object [("phase", .string "Running")])]

/-- The answer to a list of machines. -/
def machineList : Remote.Response :=
  .answer ⟨200, by decide⟩ (.json (.object [("items", .array [machineJson])]))

/-- The machine set as a server writes it. -/
def machineSetJson : Json :=
  .object [
    ("metadata", .object [("name", .string "web"), ("namespace", .string "machines")]),
    ("spec", .object [
      ("deletePolicy", .string "Oldest"),
      ("replicas", ofNat 1),
      ("selector", .object [("matchLabels", .object [("set", .string "web")])]),
      ("template", .object [
        ("metadata", .object [("labels", .object [("set", .string "web")])]),
        ("spec", .object [("taints", .array [.object [
          ("effect", .string "NoSchedule"), ("key", .string "zone"),
          ("timeAdded", .string "2024-01-01T00:00:00.5+01:00")]])])])])]

end SmallCluster

/-- The machine is accepted, by itself and in a list from which it can be updated, and so is the
machine set. -/
theorem resources_reprinted_smallCluster :
    (∃ machine, Machine.decode? (.ofJson SmallCluster.machineJson) = some machine ∧
      machine.Reprinted (.ofJson SmallCluster.machineJson)) ∧
    (∃ machineSet, MachineSet.decode? (.ofJson SmallCluster.machineSetJson) = some machineSet ∧
      machineSet.Reprinted) ∧
    ∃ machines : List Machine,
      (Request.listMachines "machines").readResponse SmallCluster.machineList = .ok machines ∧
        (machines.map fun machine => (Request.updateMachine
          ((machine.setNodeLabels .empty).setTaints [])).message.isOk) = [true] ∧
        List.Forall₂ (fun item machine => Machine.decode? item = some machine ∧
          SentKeeping item machine) SmallCluster.machineList.items machines := by
  refine ⟨?_, ?_, ?_⟩
  · have accepted : (Machine.decode? (.ofJson SmallCluster.machineJson)).isSome = true := by
      decide +kernel
    obtain ⟨machine, read⟩ := Option.isSome_iff_exists.mp accepted
    exact ⟨machine, read, resources_reprinted.1 _ machine read⟩
  · have accepted : (MachineSet.decode? (.ofJson SmallCluster.machineSetJson)).isSome = true := by
      decide +kernel
    obtain ⟨machineSet, read⟩ := Option.isSome_iff_exists.mp accepted
    exact ⟨machineSet, read, resources_reprinted.2.1 _ machineSet read⟩
  · have updates : ((Request.listMachines "machines").readResponse
        SmallCluster.machineList).toOption.map (fun machines : List Machine =>
          machines.map fun machine => (Request.updateMachine
            ((machine.setNodeLabels .empty).setTaints [])).message.isOk) = some [true] := by
      decide +kernel
    cases listed : (Request.listMachines "machines").readResponse SmallCluster.machineList with
    | error error =>
        rw [listed] at updates
        cases updates
    | ok machines =>
        rw [listed] at updates
        exact ⟨machines, rfl, Option.some.inj updates, resources_reprinted.2.2 _ _ machines listed⟩

end NodeSync
