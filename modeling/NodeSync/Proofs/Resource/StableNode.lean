/-
Module: NodeSync.Proofs.Resource.StableNode
Purpose: The JSON form of nodes is stable, as that of machines is. A printed node names its type,
  and the forms of the fields that are carried along keep all that is kept.
Main exports: NodeSpec.stable, NodeStatus.stable, Node.wholeSeconds, Node.toJson_wholeSeconds,
  Node.again_of_parts
-/
import NodeSync.Proofs.Resource.Stable
import NodeSync.Resource.Node

namespace NodeSync

open Json

set_option autoImplicit false

/-- An amount is printed as a text. -/
theorem stable_quantity : Stable quantity? .string id where
  again _ := rfl
  filled _ _ := nofun

theorem Form.isStable_time : Form.time.IsStable :=
  Timestamp.stable.ofView Timestamp.toJson_wholeSeconds

/-! ## Specifications -/

namespace NodeSpec

/-- A specification without the fractions of seconds. -/
def wholeSeconds (spec : NodeSpec) : NodeSpec :=
  { spec with taints := spec.taints.map (·.map Taint.wholeSeconds) }

/-- Of the specification of a node, only the taints have times. -/
@[simp] theorem toJson_wholeSeconds (spec : NodeSpec) : spec.wholeSeconds.toJson = spec.toJson := by
  have printed : Taint.toJson ∘ Taint.wholeSeconds = Taint.toJson :=
    funext Taint.toJson_wholeSeconds
  have listed (taints : List Taint) :
      Taint.listToJson (taints.map Taint.wholeSeconds) = Taint.listToJson taints := by
    simp [Taint.listToJson, printed]
  simp [toJson, wholeSeconds, Function.comp_def, listed]

/-- The source of a configuration names a map; a name that is missing is kept as an empty text. -/
theorem isStable_configSource : configSource.IsStable := by
  have map : (Form.record [.text "kubeletConfigKey", .text "name", .text "namespace",
      .optional "resourceVersion" .text, .optional "uid" .text]).IsStable := by
    refine Form.isStable_record (by simp [FieldForm.optional, FieldForm.text]) ?_
    simp [FieldForm.isStable_optional, FieldForm.isStable_text, Form.isStable_text]
  refine Form.isStable_record (by simp) ?_
  simp [FieldForm.isStable_optional, map]

/-- The fields of the specification that are carried along have names of their own, and forms that
are read again. -/
theorem isStable_carriedForms : ∀ form ∈ carriedForms, form.IsStable := by
  simp [carriedForms, FieldForm.isStable_optional, Form.isStable_text,
    Form.isStable_list, isStable_configSource]

/-- A specification is read again from its print, but for the fractions of the times of its
taints. -/
theorem stable : Stable decode? toJson wholeSeconds where
  again read := by
    simp only [decode?, view_bind_eq_some_iff, Option.some.injEq] at read ⊢
    obtain ⟨_, -, _, podCIDR, _, providerID, _, taints, _, unschedulable, _, carried, rfl⟩ := read
    have distinct : (carriedForms.map (·.name)).Nodup := by simp [carriedForms, FieldForm.optional]
    have apart : ∀ form ∈ carriedForms,
        form.name ∉ ["podCIDR", "providerID", "taints", "unschedulable"] := by decide
    refine exists_object?_ofFieldsWith (by simp) ?_ fun shown shows => ?_
    · intro name typed
      refine Fields.carried_get?_eq_none carried distinct ?_
      rintro form listed rfl
      exact apart form listed typed
    · exact ⟨_, shows.optional? stable_text podCIDR rfl,
        _, shows.optional? stable_text providerID rfl,
        _, shows.optional? Taint.stable.list taints rfl,
        _, shows.optional? stable_bool unschedulable rfl,
        _, shows.carried? carried distinct isStable_carriedForms fun form listed =>
          lookup_eq_none_of_not_mem (apart form listed), by simp [wholeSeconds]⟩
  filled _ _ := nofun

end NodeSpec

/-! ## Status -/

namespace NodeStatus

/-- A record of texts. -/
theorem isStable_texts {names : List String} (distinct : names.Nodup) :
    (Form.record (names.map .text)).IsStable := by
  refine Form.isStable_record (by simpa [FieldForm.text, Function.comp_def] using distinct) ?_
  simp [FieldForm.isStable_text]

/-- A condition has a status and a type, empty ones where they are missing, and two times. -/
theorem isStable_condition : condition.IsStable := by
  refine Form.isStable_record (by simp [FieldForm.optional, FieldForm.text]) ?_
  simp [FieldForm.isStable_optional, FieldForm.isStable_text, Form.isStable_text,
    Form.isStable_time]

theorem isStable_config : config.IsStable := by
  refine Form.isStable_record (by simp [FieldForm.optional]) ?_
  simp [FieldForm.isStable_optional, Form.isStable_text, NodeSpec.isStable_configSource]

/-- A port that is missing is kept as 0. -/
theorem isStable_daemonEndpoints : daemonEndpoints.IsStable := by
  have port : (⟨"Port", .int32, some (ofInt 0)⟩ : FieldForm).IsStable := by
    refine ⟨Form.isStable_integer _ _, fun kept same => ?_⟩
    cases same
    exact ⟨nofun, rfl⟩
  have endpoint : (Form.record [⟨"Port", .int32, some (ofInt 0)⟩]).IsStable :=
    Form.isStable_record (by simp) (by simpa using port)
  exact Form.isStable_record (by simp) (by simp [FieldForm.isStable_optional, endpoint])

theorem isStable_image : image.IsStable := by
  refine Form.isStable_record (by simp [FieldForm.optional]) ?_
  have integer : Form.int64.IsStable := Form.isStable_integer _ _
  simp [FieldForm.isStable_optional, Form.isStable_list Form.isStable_text, integer]

theorem isStable_runtimeHandler : runtimeHandler.IsStable := by
  have features : (Form.record [.optional "recursiveReadOnlyMounts" .bool]).IsStable :=
    Form.isStable_record (by simp) (by simp [FieldForm.isStable_optional, Form.isStable_bool])
  refine Form.isStable_record (by simp [FieldForm.optional]) ?_
  simp [FieldForm.isStable_optional, features, Form.isStable_text]

/-- The fields of the status that are carried along, the amounts that can be allotted among them,
are kept in forms that are read again. -/
theorem isStable_carriedForms : ∀ form ∈ carriedForms, form.IsStable := by
  have address : address.IsStable := isStable_texts (by decide : ["address", "type"].Nodup)
  have nodeInfo : nodeInfo.IsStable := isStable_texts (by decide :
    ["architecture", "bootID", "containerRuntimeVersion", "kernelVersion", "kubeProxyVersion",
      "kubeletVersion", "machineID", "operatingSystem", "osImage", "systemUUID"].Nodup)
  have volume : attachedVolume.IsStable := isStable_texts (by decide : ["devicePath", "name"].Nodup)
  have amounts : (Form.mapping (.ofView quantity? .string)).IsStable :=
    Form.isStable_mapping (stable_quantity.ofView fun _ => rfl)
  simp [carriedForms, FieldForm.isStable_optional, Form.isStable_list, Form.isStable_text, address,
    amounts, isStable_condition, isStable_config, isStable_daemonEndpoints, isStable_image,
    nodeInfo, isStable_runtimeHandler, volume]

/-- A status is read again from its print as it is: what has fractions of seconds in it is carried
along in the printed form. -/
theorem stable : Stable decode? toJson id where
  again read := by
    simp only [decode?, view_bind_eq_some_iff, Option.some.injEq] at read ⊢
    obtain ⟨_, -, _, phase, _, capacity, _, carried, rfl⟩ := read
    have distinct : (carriedForms.map (·.name)).Nodup := by simp [carriedForms, FieldForm.optional]
    have apart : ∀ form ∈ carriedForms, form.name ∉ ["phase", "capacity"] := by decide
    refine exists_object?_ofFieldsWith (by simp) ?_ fun shown shows => ?_
    · intro name typed
      refine Fields.carried_get?_eq_none carried distinct ?_
      rintro form listed rfl
      exact apart form listed typed
    · exact ⟨_, shows.optional? stable_text phase rfl,
        _, shows.optional? stable_quantity.map capacity rfl,
        _, shows.carried? carried distinct isStable_carriedForms fun form listed =>
          lookup_eq_none_of_not_mem (apart form listed), by simp⟩
  filled _ _ := nofun

end NodeStatus

/-! ## Nodes -/

namespace Node

/-- A node without the fractions of seconds. -/
def wholeSeconds (node : Node) : Node :=
  ⟨node.metadata.wholeSeconds, node.spec.map NodeSpec.wholeSeconds, node.status⟩

@[simp] theorem toJson_wholeSeconds (node : Node) : node.wholeSeconds.toJson = node.toJson := by
  simp [toJson, wholeSeconds, Function.comp_def]

/-- The name of its type in a printed object. -/
theorem agrees_of_shows {shown : Fields} {typed : List (String × Option Json)}
    {others : SortedMap String Json} {name expected : String} (shows : shown.Shows typed others)
    (here : typed.lookup name = some (some (.string expected))) :
    agrees shown name expected = true := by
  refine List.all_eq_true.mpr fun field inside => ?_
  by_cases named : field.1 = name
  · have said : field ∈ shown.filter (·.1 == name) :=
      List.mem_filter.mpr ⟨inside, by simpa using named⟩
    rw [shows.field here] at said
    rw [List.mem_singleton.mp said]
    simp [Document.ofJson]
  · simp [named]

/-- A node is read again if its parts are. -/
theorem again_of_parts {node : Node}
    (metadata : ObjectMeta.decode? (.ofJson node.metadata.toJson) = some node.metadata.wholeSeconds)
    (spec : ∀ {spec}, node.spec = some spec →
      NodeSpec.decode? (.ofJson spec.toJson) = some spec.wholeSeconds)
    (status : ∀ {status}, node.status = some status →
      NodeStatus.decode? (.ofJson status.toJson) = some status) :
    decode? (.ofJson node.toJson) = some node.wholeSeconds := by
  simp only [decode?, view_bind_eq_some_iff]
  refine exists_object?_ofFields (by simp) fun shown shows => ?_
  have specAgain {present : NodeSpec} (here : node.spec = some present) :
      present.toJson ≠ .null ∧
        NodeSpec.decode? (.ofJson present.toJson) = some present.wholeSeconds := ⟨nofun, spec here⟩
  have statusAgain {present : NodeStatus} (here : node.status = some present) :
      present.toJson ≠ .null ∧ NodeStatus.decode? (.ofJson present.toJson) = some (id present) :=
    ⟨nofun, status here⟩
  rw [agrees_of_shows shows rfl, agrees_of_shows shows rfl]
  simp only [Bool.not_true, Bool.or_self, Bool.false_eq_true, if_false, view_bind_eq_some_iff,
    Option.some.injEq]
  exact ⟨_, shows.orElse?_of_again (nofun : node.metadata.toJson ≠ .null) metadata rfl,
    _, Fields.optional?_of_again specAgain (shows.field rfl),
    _, Fields.optional?_of_again statusAgain (shows.field rfl), by simp [wholeSeconds]⟩

end Node

end NodeSync
