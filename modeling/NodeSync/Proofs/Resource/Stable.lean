/-
Module: NodeSync.Proofs.Resource.Stable
Purpose: The JSON forms of machines and machine sets are stable. What is read of one is read again
  from what is printed for it, but for the fractions of seconds, which are not printed; and printing
  what is read again gives the same.
Main exports: Timestamp.stable, ObjectMeta.stable, ObjectMeta.again_stamped, Taint.stable,
  MachineSpec.stable, Machine.again_of_parts, Machine.stable, MachineSet.again_of_parts,
  MachineSet.stable, Machine.wholeSeconds, MachineSet.wholeSeconds, Machine.toJson_wholeSeconds,
  MachineSet.toJson_wholeSeconds
-/
import NodeSync.Proofs.Json.Stable
import NodeSync.Proofs.Timestamp
import NodeSync.Resource.MachineSet

namespace NodeSync

open Json

set_option autoImplicit false

/-! ## Metadata -/

theorem stable_texts : Stable texts? ofTexts id := stable_text.map

/-- A time is read again from its print, but for the fraction of its second. -/
theorem Timestamp.stable : Stable Timestamp.decode? Timestamp.toJson Timestamp.wholeSeconds where
  again {document time} read := by
    obtain ⟨text, -, found⟩ := Option.bind_eq_some_iff.mp read
    have printed : text? (.ofJson time.toJson) = some time.print := rfl
    rw [decode?, printed, Option.bind_some, read?_print (readable_of_read? found)]
  filled _ _ := nofun

/-- The fraction of a second is not printed. -/
@[simp] theorem Timestamp.toJson_wholeSeconds (time : Timestamp) :
    time.wholeSeconds.toJson = time.toJson :=
  congrArg Json.string time.print_wholeSeconds

/-- The texts of an owner reference are printed even where they are empty, its two marks only where
they are given. -/
theorem OwnerReference.stable : Stable OwnerReference.decode? OwnerReference.toJson id where
  again read := by
    simp only [decode?, view_bind_eq_some_iff, Option.some.injEq] at read ⊢
    obtain ⟨_, -, _, -, _, -, _, -, _, -, _, controller, _, blockOwnerDeletion, rfl⟩ := read
    refine exists_object?_ofFields (by simp) fun shown shows => ?_
    exact ⟨_, shows.orElse? rfl, _, shows.orElse? rfl, _, shows.orElse? rfl, _, shows.orElse? rfl,
      _, shows.optional? stable_bool controller rfl,
      _, shows.optional? stable_bool blockOwnerDeletion rfl, by simp⟩
  filled _ _ := nofun

namespace ObjectMeta

/-- Metadata without the fractions of seconds. -/
def wholeSeconds (metadata : ObjectMeta) : ObjectMeta :=
  { metadata with
    creationTimestamp := metadata.creationTimestamp.map Timestamp.wholeSeconds
    deletionTimestamp := metadata.deletionTimestamp.map Timestamp.wholeSeconds }

@[simp] theorem toJson_wholeSeconds (metadata : ObjectMeta) :
    metadata.wholeSeconds.toJson = metadata.toJson := by
  simp [toJson, wholeSeconds, Function.comp_def]

/-- The fields of metadata that are only carried along are kept in a form that is read again. -/
theorem isStable_carriedForms : ∀ form ∈ carriedForms, form.IsStable := by
  have time : Form.time.IsStable := Timestamp.stable.ofView Timestamp.toJson_wholeSeconds
  have integer : Form.int64.IsStable := Form.isStable_integer _ _
  have managed : managedFields.IsStable := by
    refine Form.isStable_list (Form.isStable_record (by simp [FieldForm.optional]) ?_)
    simp [FieldForm.isStable_optional, Form.isStable_text, Form.isStable_any, time]
  simp [carriedForms, FieldForm.isStable_optional, Form.isStable_text, integer, managed]

/-- Metadata with a UID and a version. -/
def stamped (metadata : ObjectMeta) (uid version : Option String) : ObjectMeta :=
  { metadata with uid := uid, resourceVersion := version }

/-- Metadata that was read is read again, whatever UID and version it was given since. -/
theorem again_stamped {document : Document} {metadata : ObjectMeta}
    (read : decode? document = some metadata) (uid version : Option String) :
    decode? (.ofJson (metadata.stamped uid version).toJson) =
      some (metadata.stamped uid version).wholeSeconds := by
  simp only [decode?, view_bind_eq_some_iff, Option.some.injEq] at read ⊢
  obtain ⟨_, -, _, name, _, ns, _, generateName, _, -, _, -, _, generation, _, creationTimestamp,
    _, deletionTimestamp, _, labels, _, annotations, _, finalizers, _, ownerReferences,
    _, carried, rfl⟩ := read
  have distinct : (carriedForms.map (·.name)).Nodup := by
    simp [carriedForms, FieldForm.optional]
  have apart : ∀ form ∈ carriedForms, form.name ∉ ["name", "namespace", "generateName", "uid",
      "resourceVersion", "generation", "creationTimestamp", "deletionTimestamp", "labels",
      "annotations", "finalizers", "ownerReferences"] := by decide
  refine exists_object?_ofFieldsWith (by simp) ?_ fun shown shows => ?_
  · intro name typed
    refine Fields.carried_get?_eq_none carried distinct ?_
    rintro form listed rfl
    exact apart form listed typed
  · exact ⟨_, shows.optional? stable_text name rfl, _, shows.optional? stable_text ns rfl,
      _, shows.optional? stable_text generateName rfl, _, shows.optionalText? rfl,
      _, shows.optionalText? rfl,
      _, shows.optional? (stable_integer _ _) generation rfl,
      _, shows.optional? Timestamp.stable creationTimestamp rfl,
      _, shows.optional? Timestamp.stable deletionTimestamp rfl,
      _, shows.optional? stable_texts labels rfl, _, shows.optional? stable_texts annotations rfl,
      _, shows.optional? stable_text.list finalizers rfl,
      _, shows.optional? OwnerReference.stable.list ownerReferences rfl,
      _, shows.carried? carried distinct isStable_carriedForms fun form listed =>
        lookup_eq_none_of_not_mem (apart form listed), by simp [wholeSeconds, stamped]⟩

theorem stable : Stable decode? toJson wholeSeconds where
  again {_ metadata} read := again_stamped read metadata.uid metadata.resourceVersion
  filled _ _ := nofun

end ObjectMeta

/-- All that a reference has is optional, and an empty text in it is not the same as none. -/
theorem ObjectReference.stable : Stable ObjectReference.decode? ObjectReference.toJson id where
  again read := by
    simp only [decode?, view_bind_eq_some_iff, Option.some.injEq] at read ⊢
    obtain ⟨_, -, _, apiVersion, _, fieldPath, _, kind, _, name, _, ns, _, resourceVersion, _, uid,
      rfl⟩ := read
    refine exists_object?_ofFields (by simp) fun shown shows => ?_
    exact ⟨_, shows.optional? stable_text apiVersion rfl,
      _, shows.optional? stable_text fieldPath rfl, _, shows.optional? stable_text kind rfl,
      _, shows.optional? stable_text name rfl, _, shows.optional? stable_text ns rfl,
      _, shows.optional? stable_text resourceVersion rfl, _, shows.optional? stable_text uid rfl,
      by simp⟩
  filled _ _ := nofun

/-! ## Selectors and taints -/

/-- The list of values of a requirement may be empty or absent, which a print tells apart. -/
theorem Requirement.stable : Stable Requirement.decode? Requirement.toJson id where
  again read := by
    simp only [decode?, view_bind_eq_some_iff, Option.some.injEq] at read ⊢
    obtain ⟨_, -, _, -, _, -, _, values, rfl⟩ := read
    refine exists_object?_ofFields (by simp) fun shown shows => ?_
    exact ⟨_, shows.orElse? rfl, _, shows.orElse? rfl,
      _, shows.optional? stable_text.list values rfl, by simp⟩
  filled _ _ := nofun

/-- So may the pairs and the expressions of a selector. -/
theorem LabelSelector.stable : Stable LabelSelector.decode? LabelSelector.toJson id where
  again read := by
    simp only [decode?, view_bind_eq_some_iff, Option.some.injEq] at read ⊢
    obtain ⟨_, -, _, matchLabels, _, matchExpressions, rfl⟩ := read
    refine exists_object?_ofFields (by simp) fun shown shows => ?_
    exact ⟨_, shows.optional? stable_texts matchLabels rfl,
      _, shows.optional? Requirement.stable.list matchExpressions rfl, by simp⟩
  filled _ _ := nofun

namespace Taint

/-- A taint without the fraction of a second. -/
def wholeSeconds (taint : Taint) : Taint :=
  { taint with timeAdded := taint.timeAdded.map Timestamp.wholeSeconds }

/-- Of a taint, only the time when it was added can lose a fraction. -/
@[simp] theorem toJson_wholeSeconds (taint : Taint) : taint.wholeSeconds.toJson = taint.toJson := by
  simp [toJson, wholeSeconds, Function.comp_def]

theorem stable : Stable decode? toJson wholeSeconds where
  again read := by
    simp only [decode?, view_bind_eq_some_iff, Option.some.injEq] at read ⊢
    obtain ⟨_, -, _, -, _, value, _, -, _, timeAdded, rfl⟩ := read
    refine exists_object?_ofFields (by simp) fun shown shows => ?_
    exact ⟨_, shows.orElse? rfl, _, shows.optional? stable_text value rfl, _, shows.orElse? rfl,
      _, shows.optional? Timestamp.stable timeAdded rfl, by simp [wholeSeconds]⟩
  filled _ _ := nofun

end Taint

/-! ## Specifications and status -/

/-- Labels are printed unless there are none, so that those left out are known to be empty. -/
theorem unlessEmpty_cases (labels : Labels) :
    unlessEmpty labels = some (ofTexts labels) ∨
      unlessEmpty labels = none ∧ labels = SortedMap.empty := by
  rw [unlessEmpty]
  split
  · rename_i empty
    exact .inr ⟨rfl, SortedMap.ext (List.isEmpty_iff.mp empty)⟩
  · exact .inl rfl

/-- Labels and annotations that are left out are read as none; the other members are all kept. -/
theorem MachineMetadata.stable : Stable MachineMetadata.decode? MachineMetadata.toJson id where
  again read := by
    simp only [decode?, view_bind_eq_some_iff, Option.some.injEq] at read ⊢
    obtain ⟨_, -, _, labels, _, annotations, _, extra, rfl⟩ := read
    refine exists_extensible?_ofFieldsWith (by simp)
      (fun _ => Fields.others_get?_eq_none extra) fun shown shows => ?_
    exact ⟨_, shows.defaulted? stable_texts rfl labels rfl (unlessEmpty_cases _),
      _, shows.defaulted? stable_texts rfl annotations rfl (unlessEmpty_cases _),
      _, shows.others? extra rfl, rfl⟩
  filled _ _ := nofun

/-- Metadata that is left out of a print is what a missing field is read as. -/
theorem MachineMetadata.eq_empty {metadata : MachineMetadata} (empty : metadata.isEmpty = true) :
    metadata = MachineMetadata.empty := by
  rcases metadata with ⟨labels, annotations, extra⟩
  simp only [isEmpty, Bool.and_eq_true] at empty
  have labels : labels = SortedMap.empty := SortedMap.ext (List.isEmpty_iff.mp empty.1.1)
  have annotations : annotations = SortedMap.empty := SortedMap.ext (List.isEmpty_iff.mp empty.1.2)
  have extra : extra = SortedMap.empty := SortedMap.ext (List.isEmpty_iff.mp empty.2)
  rw [labels, annotations, extra]
  rfl

namespace MachineSpec

/-- A specification without the fractions of seconds. -/
def wholeSeconds (spec : MachineSpec) : MachineSpec :=
  { spec with taints := spec.taints.map Taint.wholeSeconds }

/-- An empty list of taints stays empty, and is left out of the print either way. -/
@[simp] theorem toJson_wholeSeconds (spec : MachineSpec) :
    spec.wholeSeconds.toJson = spec.toJson := by
  have printed : Taint.toJson ∘ Taint.wholeSeconds = Taint.toJson :=
    funext Taint.toJson_wholeSeconds
  rcases spec with ⟨metadata, taints, extra⟩
  cases taints with
  | nil => rfl
  | cons taint rest => simp [toJson, wholeSeconds, Taint.listToJson, printed]

/-- Metadata and taints are printed unless they are empty, and read as empty where they are
missing. -/
theorem stable : Stable decode? toJson wholeSeconds where
  again read := by
    simp only [decode?, view_bind_eq_some_iff, Option.some.injEq] at read ⊢
    obtain ⟨_, -, metadata, readMetadata, taints, readTaints, _, extra, rfl⟩ := read
    refine exists_extensible?_ofFieldsWith (by simp)
      (fun _ => Fields.others_get?_eq_none extra) fun shown shows => ?_
    refine ⟨_, shows.defaulted? MachineMetadata.stable rfl readMetadata rfl ?_,
      _, shows.defaulted? Taint.stable.list rfl readTaints rfl ?_, _, shows.others? extra rfl, rfl⟩
    · by_cases empty : metadata.isEmpty = true
      · exact .inr ⟨if_pos empty, MachineMetadata.eq_empty empty⟩
      · exact .inl (if_neg empty)
    · cases taints with
      | nil => exact .inr ⟨rfl, rfl⟩
      | cons taint rest => exact .inl rfl
  filled _ _ := nofun

end MachineSpec

/-- Beside the reference to its node, the status of a machine is carried along. -/
theorem MachineStatus.stable : Stable MachineStatus.decode? MachineStatus.toJson id where
  again read := by
    simp only [decode?, view_bind_eq_some_iff, Option.some.injEq] at read ⊢
    obtain ⟨_, -, _, nodeRef, _, extra, rfl⟩ := read
    refine exists_extensible?_ofFieldsWith (by simp)
      (fun _ => Fields.others_get?_eq_none extra) fun shown shows => ?_
    exact ⟨_, shows.optional? ObjectReference.stable nodeRef rfl, _, shows.others? extra rfl,
      by simp⟩
  filled _ _ := nofun

/-! ## Machines -/

namespace Machine

/-- A machine without the fractions of seconds. -/
def wholeSeconds (machine : Machine) : Machine :=
  ⟨machine.metadata.wholeSeconds, machine.spec.wholeSeconds, machine.status⟩

/-- A machine is printed alike with and without the fractions of seconds. -/
@[simp] theorem toJson_wholeSeconds (machine : Machine) :
    machine.wholeSeconds.toJson = machine.toJson := by
  simp [toJson, wholeSeconds]

/-- A machine is read again if its parts are. -/
theorem again_of_parts {machine : Machine}
    (metadata : ObjectMeta.decode? (.ofJson machine.metadata.toJson) =
      some machine.metadata.wholeSeconds)
    (spec : MachineSpec.decode? (.ofJson machine.spec.toJson) = some machine.spec.wholeSeconds)
    (status : ∀ {status}, machine.status = some status →
      MachineStatus.decode? (.ofJson status.toJson) = some status) :
    decode? (.ofJson machine.toJson) = some machine.wholeSeconds := by
  simp only [decode?, view_bind_eq_some_iff, Option.some.injEq]
  refine exists_record?_ofFields (by simp) fun shown shows => ?_
  have again {present : MachineStatus} (here : machine.status = some present) :
      present.toJson ≠ .null ∧ MachineStatus.decode? (.ofJson present.toJson) = some (id present) :=
    ⟨nofun, status here⟩
  exact ⟨_, shows.required?_of_again metadata rfl, _, shows.required?_of_again spec rfl,
    _, Fields.optional?_of_again again (shows.field rfl), by simp [wholeSeconds]⟩

/-- A machine that was read is read again from its print, but for the fractions of its times. -/
theorem stable : Stable decode? toJson wholeSeconds where
  again {_ machine} read := by
    simp only [decode?, view_bind_eq_some_iff, Option.some.injEq] at read
    obtain ⟨_, -, _, metadata, _, spec, _, status, rfl⟩ := read
    obtain ⟨_, metadata⟩ := Fields.exists_of_required? metadata
    obtain ⟨_, spec⟩ := Fields.exists_of_required? spec
    refine again_of_parts (ObjectMeta.stable.again metadata) (MachineSpec.stable.again spec) ?_
    rintro present rfl
    obtain ⟨_, -, status⟩ := Fields.exists_of_optional? status
    exact MachineStatus.stable.again status
  filled _ _ := nofun

end Machine

/-! ## Machine sets -/

namespace MachineTemplate

/-- A template without the fractions of seconds. -/
def wholeSeconds (template : MachineTemplate) : MachineTemplate :=
  ⟨template.metadata, template.spec.wholeSeconds⟩

@[simp] theorem toJson_wholeSeconds (template : MachineTemplate) :
    template.wholeSeconds.toJson = template.toJson := by
  simp [toJson, wholeSeconds]

/-- Both parts of a template are always printed, though neither needs to be there to be read. -/
theorem stable : Stable decode? toJson wholeSeconds where
  again read := by
    simp only [decode?, view_bind_eq_some_iff, Option.some.injEq] at read ⊢
    obtain ⟨_, -, _, metadata, _, spec, rfl⟩ := read
    refine exists_record?_ofFields (by simp) fun shown shows => ?_
    exact ⟨_, shows.defaulted? MachineMetadata.stable rfl metadata rfl (.inl rfl),
      _, shows.defaulted? MachineSpec.stable rfl spec rfl (.inl rfl), rfl⟩
  filled _ _ := nofun

end MachineTemplate

namespace MachineSetSpec

/-- A specification without the fractions of seconds. -/
def wholeSeconds (spec : MachineSetSpec) : MachineSetSpec :=
  { spec with template := spec.template.wholeSeconds }

@[simp] theorem toJson_wholeSeconds (spec : MachineSetSpec) :
    spec.wholeSeconds.toJson = spec.toJson := by
  simp [toJson, wholeSeconds]

/-- The selector and the template of a machine set are always printed, the number of replicas only
where it is given. -/
theorem stable : Stable decode? toJson wholeSeconds where
  again read := by
    simp only [decode?, view_bind_eq_some_iff, Option.some.injEq] at read ⊢
    obtain ⟨_, -, _, replicas, _, selector, _, template, _, extra, rfl⟩ := read
    refine exists_extensible?_ofFieldsWith (by simp)
      (fun _ => Fields.others_get?_eq_none extra) fun shown shows => ?_
    exact ⟨_, shows.optional? (stable_integer _ _) replicas rfl,
      _, shows.defaulted? LabelSelector.stable rfl selector rfl (.inl rfl),
      _, shows.defaulted? MachineTemplate.stable rfl template rfl (.inl rfl),
      _, shows.others? extra rfl, by simp [wholeSeconds]⟩
  filled _ _ := nofun

end MachineSetSpec

/-- No member of the status of a machine set has a type, so all are carried along. -/
theorem MachineSetStatus.stable : Stable MachineSetStatus.decode? MachineSetStatus.toJson id where
  again read := by
    simp only [decode?, view_bind_eq_some_iff, Option.some.injEq] at read ⊢
    obtain ⟨_, -, _, extra, rfl⟩ := read
    refine exists_extensible?_ofFieldsWith (by simp) (by simp) fun shown shows => ?_
    exact ⟨_, shows.others? extra rfl, rfl⟩
  filled _ _ := nofun

namespace MachineSet

/-- A machine set without the fractions of seconds. -/
def wholeSeconds (machineSet : MachineSet) : MachineSet :=
  ⟨machineSet.metadata.wholeSeconds, machineSet.spec.wholeSeconds, machineSet.status⟩

/-- A machine set is printed alike with and without the fractions of seconds. -/
@[simp] theorem toJson_wholeSeconds (machineSet : MachineSet) :
    machineSet.wholeSeconds.toJson = machineSet.toJson := by
  simp [toJson, wholeSeconds]

/-- A machine set is read again if its parts are. -/
theorem again_of_parts {machineSet : MachineSet}
    (metadata : ObjectMeta.decode? (.ofJson machineSet.metadata.toJson) =
      some machineSet.metadata.wholeSeconds)
    (spec : MachineSetSpec.decode? (.ofJson machineSet.spec.toJson) =
      some machineSet.spec.wholeSeconds)
    (status : ∀ {status}, machineSet.status = some status →
      MachineSetStatus.decode? (.ofJson status.toJson) = some status) :
    decode? (.ofJson machineSet.toJson) = some machineSet.wholeSeconds := by
  simp only [decode?, view_bind_eq_some_iff, Option.some.injEq]
  refine exists_record?_ofFields (by simp) fun shown shows => ?_
  have again {present : MachineSetStatus} (here : machineSet.status = some present) :
      present.toJson ≠ .null ∧
        MachineSetStatus.decode? (.ofJson present.toJson) = some (id present) :=
    ⟨nofun, status here⟩
  exact ⟨_, shows.required?_of_again metadata rfl, _, shows.required?_of_again spec rfl,
    _, Fields.optional?_of_again again (shows.field rfl), by simp [wholeSeconds]⟩

/-- A machine set that was read is read again from its print, but for the fractions of the times in
its metadata and its template. -/
theorem stable : Stable decode? toJson wholeSeconds where
  again {_ machineSet} read := by
    simp only [decode?, view_bind_eq_some_iff, Option.some.injEq] at read
    obtain ⟨_, -, _, metadata, _, spec, _, status, rfl⟩ := read
    obtain ⟨_, metadata⟩ := Fields.exists_of_required? metadata
    obtain ⟨_, spec⟩ := Fields.exists_of_required? spec
    refine again_of_parts (ObjectMeta.stable.again metadata) (MachineSetSpec.stable.again spec) ?_
    rintro present rfl
    obtain ⟨_, -, status⟩ := Fields.exists_of_optional? status
    exact MachineSetStatus.stable.again status
  filled _ _ := nofun

end MachineSet

end NodeSync
