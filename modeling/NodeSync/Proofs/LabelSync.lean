/-
Module: NodeSync.Proofs.LabelSync
Purpose: Which expected labels a node can be brought in line with for good, and what bringing it in
  line does. The resolver leaves out keys that would be taken apart when the record is read, and so
  every set of keys that it hands out can be recorded, but for the empty key: that one is never read
  back, and a node for which it is expected is written again on every pass. Where every key can be
  recorded, the node has the expected labels afterwards, the record lists their keys, nothing else
  has changed, and the flag tells whether anything did.
Main exports: parse_encode_keys_eq_iff, agreesWith_syncNodeLabels_iff,
  customLabels_syncNodeLabels_eq_iff, tracked_iff_filled, BroughtInLine,
  syncNodeLabels_broughtInLine
-/
import Mathlib.Logic.Basic
import NodeSync.Proofs.Provenance

namespace NodeSync

set_option autoImplicit false

/-! ## Keys that can be tracked -/

section Tracking

variable {node : Node} {expected : Labels}

/-- The empty key is not recorded, whatever an annotation lists. -/
theorem Node.contains_ownedKeys_empty (node : Node) : node.ownedKeys.contains "" = false := by
  rw [Bool.eq_false_iff]
  exact fun listed => ((Provenance.contains_parse _ "").mp listed).1 rfl

theorem ne_empty_of_filled (filled : expected.contains "" = false) {key : String}
    (present : expected.contains key = true) : key ≠ "" := by
  rintro rfl
  rw [filled] at present
  cases present

variable (plain : ∀ key ∈ expected.keys, Provenance.hasSeparator key = false)

include plain

/-- The record of keys without separators lists exactly these, unless the empty key is among
them. -/
theorem parse_encode_keys_eq_iff :
    Provenance.parse (some (Provenance.encode expected.keys)) = expected.keySet ↔
      expected.contains "" = false := by
  have listed (key : String) :
      (Provenance.parse (some (Provenance.encode expected.keys))).contains key = true ↔
        key ≠ "" ∧ expected.contains key = true := by
    rw [Provenance.contains_parse_encode_of_plain plain, SortedMap.mem_keys_iff]
  constructor
  · intro same
    have absent := mt (listed "").mp (fun h => h.1 rfl)
    rwa [same, SortedMap.contains_keySet, Bool.not_eq_true] at absent
  · intro filled
    refine SortedSet.ext_contains fun key => ?_
    rw [Bool.eq_iff_iff, listed, SortedMap.contains_keySet]
    exact ⟨fun h => h.2, fun present => ⟨ne_empty_of_filled filled present, present⟩⟩

/-- A node that was brought in line agrees with the expected labels, unless the empty key is among
them. -/
theorem agreesWith_syncNodeLabels_iff :
    (syncNodeLabels node expected).1.AgreesWith expected ↔ expected.contains "" = false := by
  constructor
  · intro agrees
    rw [← (Node.agreesWith_iff.mp agrees).1 "", Node.contains_ownedKeys_empty]
  · exact fun filled => agreesWith_syncNodeLabels plain fun _ => ne_empty_of_filled filled

/-- It has recorded exactly their keys. -/
theorem ownedKeys_syncNodeLabels_eq_iff :
    (syncNodeLabels node expected).1.ownedKeys = expected.keySet ↔
      expected.contains "" = false := by
  constructor
  · intro same
    rw [← SortedMap.contains_keySet, ← same, Node.contains_ownedKeys_empty]
  · exact fun filled => ((agreesWith_syncNodeLabels_iff plain).mpr filled).2

/-- Its owned labels are exactly the expected ones. -/
theorem customLabels_syncNodeLabels_eq_iff :
    (syncNodeLabels node expected).1.customLabels = expected ↔ expected.contains "" = false := by
  constructor
  · intro same
    rw [← same, Node.customLabels, SortedMap.contains_filterKeys, Node.contains_ownedKeys_empty,
      Bool.false_and]
  · intro filled
    have agrees : (syncNodeLabels node expected).1.AgreesWith expected :=
      (agreesWith_syncNodeLabels_iff plain).mpr filled
    refine Eq.trans (SortedMap.filterKeys_eq_self fun key owned => ?_).symm agrees.1
    rw [Node.customLabels, SortedMap.contains_filterKeys, Bool.and_eq_true,
      (Node.agreesWith_iff.mp agrees).1 key] at owned
    exact owned.1

/-- Bringing it in line once more finds nothing to write. -/
theorem syncNodeLabels_again_eq_false_iff :
    (syncNodeLabels (syncNodeLabels node expected).1 expected).2 = false ↔
      expected.contains "" = false := by
  have changed : (syncNodeLabels (syncNodeLabels node expected).1 expected).2 = false ↔
      (syncNodeLabels node expected).1.AgreesWith expected := by
    rw [← Bool.not_eq_true, syncNodeLabels_changed_iff, not_not]
  exact changed.trans (agreesWith_syncNodeLabels_iff plain)

end Tracking

/-- What the resolver hands out can be tracked exactly if the empty key is not among it: the record
of the keys is read back, a node that was brought in line has recorded them and owns exactly the
expected labels, and it is not written again. -/
theorem tracked_iff_filled (machineSet : MachineSet) (machine : Machine) (node : Node) :
    let expected := expectedLabels machineSet machine node
    let synced := (syncNodeLabels node expected).1
    (Provenance.parse (some (Provenance.encode expected.keys)) = expected.keySet ↔
        expected.contains "" = false) ∧
      (synced.ownedKeys = expected.keySet ↔ expected.contains "" = false) ∧
      (synced.customLabels = expected ↔ expected.contains "" = false) ∧
      ((syncNodeLabels synced expected).2 = false ↔ expected.contains "" = false) := by
  intro expected synced
  have plain : ∀ key ∈ expected.keys, Provenance.hasSeparator key = false :=
    hasSeparator_of_mem_expectedLabels
  exact ⟨parse_encode_keys_eq_iff plain, ownedKeys_syncNodeLabels_eq_iff plain,
    customLabels_syncNodeLabels_eq_iff plain, syncNodeLabels_again_eq_false_iff plain⟩

namespace EmptyKey

/-- A set whose template has a label under the empty key. -/
def machineSet : MachineSet :=
  { (default : MachineSet) with
    spec := { (default : MachineSetSpec) with
      template := ⟨.empty, { MachineSpec.empty with
        metadata := { MachineMetadata.empty with labels := SortedMap.ofList [("", "front")] } }⟩ } }

def machine : Machine := ⟨.empty, .empty, none⟩

def node : Node := ⟨{ ObjectMeta.empty with name := some "node-0" }, none, none⟩

/-- What the resolver hands out for them. -/
def labels : Labels := expectedLabels machineSet machine node

end EmptyKey

/-- The empty key is handed out and cannot be tracked: its record lists nothing, and a node that was
brought in line owns no label and is written again. -/
theorem emptyKey_untracked :
    EmptyKey.labels.contains "" = true ∧
      Provenance.parse (some (Provenance.encode EmptyKey.labels.keys)) ≠ EmptyKey.labels.keySet ∧
      (syncNodeLabels EmptyKey.node EmptyKey.labels).1.ownedKeys ≠ EmptyKey.labels.keySet ∧
      (syncNodeLabels EmptyKey.node EmptyKey.labels).1.customLabels ≠ EmptyKey.labels ∧
      (syncNodeLabels (syncNodeLabels EmptyKey.node EmptyKey.labels).1 EmptyKey.labels).2 =
        true := by
  decide +kernel

/-! ## What bringing the labels in line does -/

/-- What becomes of a node whose labels are brought in line with the expected ones. -/
structure BroughtInLine (node : Node) (expected : Labels) (synced : Node) (changed : Bool) :
    Prop where
  /-- Expected labels are there, other ones that were recorded are not, and the rest has stayed. -/
  labels : ∀ key, synced.labelMap.get? key =
    if expected.contains key then expected.get? key
    else if node.ownedKeys.contains key then none
    else node.labelMap.get? key
  record : synced.ownedKeys = expected.keySet
  annotations : ∀ key, key ≠ Provenance.annotationKey →
    synced.annotationMap.get? key = node.annotationMap.get? key
  /-- With the labels and annotations that it had, the node is the one it was. -/
  others : { synced with metadata := { synced.metadata with
    labels := node.metadata.labels, annotations := node.metadata.annotations } } = node
  truthful : changed = true ↔
    synced.labelMap ≠ node.labelMap ∨ synced.annotationMap ≠ node.annotationMap
  again : syncNodeLabels synced expected = (synced, false)

section Sync

variable {node : Node} {expected : Labels}

theorem get?_labelMap_syncNodeLabels (key : String) :
    (syncNodeLabels node expected).1.labelMap.get? key =
      if expected.contains key then expected.get? key
      else if node.ownedKeys.contains key then none
      else node.labelMap.get? key := by
  rw [syncNodeLabels_labelMap, SortedMap.get?_override, keptLabels, SortedMap.get?_filterKeys]
  cases asked : expected.contains key with
  | true =>
      obtain ⟨value, found⟩ := SortedMap.contains_iff_exists.mp asked
      simp [found]
  | false =>
      rw [SortedMap.contains_eq_false_iff.mp asked]
      cases node.ownedKeys.contains key <;> rfl

/-- The record is the only annotation that changes. -/
theorem get?_annotationMap_syncNodeLabels {key : String} (other : key ≠ Provenance.annotationKey) :
    (syncNodeLabels node expected).1.annotationMap.get? key = node.annotationMap.get? key := by
  by_cases agrees : node.AgreesWith expected
  · rw [syncNodeLabels_of_agreesWith agrees]
    rfl
  · rw [syncNodeLabels_of_not_agreesWith agrees]
    calc (recordKeys node.annotationMap expected).get? key
        = ((recordKeys node.annotationMap expected).erase Provenance.annotationKey).get? key :=
          (SortedMap.get?_erase_of_ne _ other).symm
      _ = (node.annotationMap.erase Provenance.annotationKey).get? key := by
          rw [erase_recordKeys]
      _ = node.annotationMap.get? key := SortedMap.get?_erase_of_ne _ other

/-- Only labels and annotations change. -/
theorem restored_syncNodeLabels :
    { (syncNodeLabels node expected).1 with
      metadata := { (syncNodeLabels node expected).1.metadata with
        labels := node.metadata.labels, annotations := node.metadata.annotations } } = node := by
  by_cases agrees : node.AgreesWith expected
  · rw [syncNodeLabels_of_agreesWith agrees]
  · rw [syncNodeLabels_of_not_agreesWith agrees]

/-- Whether a node agrees with the expected labels is a matter of its labels and annotations. -/
theorem Node.AgreesWith.congr {other : Node} (labels : other.labelMap = node.labelMap)
    (annotations : other.annotationMap = node.annotationMap)
    (agrees : other.AgreesWith expected) : node.AgreesWith expected := by
  unfold Node.AgreesWith Node.customLabels Node.ownedKeys at agrees ⊢
  rwa [← labels, ← annotations]

variable (plain : ∀ key ∈ expected.keys, Provenance.hasSeparator key = false)
  (filled : expected.contains "" = false)

include plain filled

/-- The flag tells whether the labels or the annotations have changed. -/
theorem syncNodeLabels_truthful : (syncNodeLabels node expected).2 = true ↔
    (syncNodeLabels node expected).1.labelMap ≠ node.labelMap ∨
      (syncNodeLabels node expected).1.annotationMap ≠ node.annotationMap := by
  rw [syncNodeLabels_changed_iff, ← not_and_or, not_iff_not]
  constructor
  · intro agrees
    rw [syncNodeLabels_of_agreesWith agrees]
    exact ⟨rfl, rfl⟩
  · rintro ⟨labels, annotations⟩
    exact ((agreesWith_syncNodeLabels_iff plain).mpr filled).congr labels annotations

theorem syncNodeLabels_again :
    syncNodeLabels (syncNodeLabels node expected).1 expected =
      ((syncNodeLabels node expected).1, false) :=
  Prod.ext (syncNodeLabels_syncNodeLabels plain)
    ((syncNodeLabels_again_eq_false_iff plain).mpr filled)

end Sync

/-- A node whose labels are brought in line with labels that can be recorded has exactly these in
place of the ones that it had recorded, nothing else of it has changed, and the flag tells whether
anything has. -/
theorem syncNodeLabels_broughtInLine (node : Node) (expected : Labels)
    (trackable : ∀ key ∈ expected.keys, key ≠ "" ∧ ',' ∉ key.toList) :
    BroughtInLine node expected (syncNodeLabels node expected).1
      (syncNodeLabels node expected).2 := by
  have plain : ∀ key ∈ expected.keys, Provenance.hasSeparator key = false := fun key listed =>
    Provenance.hasSeparator_eq_false_iff.mpr (trackable key listed).2
  have filled : expected.contains "" = false := by
    rw [Bool.eq_false_iff]
    exact fun present => (trackable "" (SortedMap.mem_keys_iff.mpr present)).1 rfl
  exact {
    labels := get?_labelMap_syncNodeLabels
    record := (ownedKeys_syncNodeLabels_eq_iff plain).mpr filled
    annotations := fun _ => get?_annotationMap_syncNodeLabels
    others := restored_syncNodeLabels
    truthful := syncNodeLabels_truthful plain filled
    again := syncNodeLabels_again plain filled }

namespace StaleRecord

/-- A node whose record lists a label that is gone and one that is no longer expected, out of order
and with repeats. -/
def node : Node where
  metadata := { ObjectMeta.empty with
    name := some "node-0"
    labels := some (SortedMap.ofList [("admin", "x"), ("old", "1"), ("tier", "back")])
    annotations := some (SortedMap.ofList [
      (Provenance.annotationKey, "tier,,old,gone,tier"), ("owner", "ops")]) }
  spec := none
  status := none

def expected : Labels := SortedMap.ofList [("tier", "front"), ("zone", "a")]

end StaleRecord

theorem syncNodeLabels_broughtInLine_staleRecord :
    (∀ key ∈ StaleRecord.expected.keys, key ≠ "" ∧ ',' ∉ key.toList) ∧
      BroughtInLine StaleRecord.node StaleRecord.expected
        (syncNodeLabels StaleRecord.node StaleRecord.expected).1
        (syncNodeLabels StaleRecord.node StaleRecord.expected).2 := by
  have trackable : ∀ key ∈ StaleRecord.expected.keys, key ≠ "" ∧ ',' ∉ key.toList := by
    decide +kernel
  exact ⟨trackable, syncNodeLabels_broughtInLine _ _ trackable⟩

end NodeSync
