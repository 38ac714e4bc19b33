/-
Module: NodeSync.Proofs.Provenance
Purpose: What the record of owned keys can hold, and what bringing a node's labels in line with
  the expected ones does to the node. The record of a list of keys is read back as the non-empty
  pieces of its keys; the resolver hands out no key that would be taken apart. Once the expected
  labels are on the machine, writing them to the node does not change what is expected, and
  writing them twice is writing them once.
Main exports: Provenance.contains_parse_encode, contains_expectedLabels,
  syncNodeLabels_changed_iff, syncNodeLabels_labelMap, contains_ownedKeys_syncNodeLabels,
  expectedLabels_setNodeLabels, expectedLabels_syncNodeLabels, syncNodeLabels_syncNodeLabels
-/
import NodeSync.Proofs.Maps
import NodeSync.Proofs.Text.Pieces
import NodeSync.Provenance

namespace NodeSync

open NodeSync.Text

set_option autoImplicit false

namespace Provenance

theorem hasSeparator_eq_false_iff {key : String} :
    hasSeparator key = false ↔ separator ∉ key.toList := by
  simp [hasSeparator]

theorem contains_parse (listed : Option String) (key : String) :
    (parse listed).contains key = true ↔
      key ≠ "" ∧ key.toList ∈ pieces separator (listed.getD "").toList := by
  rw [parse, SortedSet.contains_ofList, List.mem_map]
  constructor
  · rintro ⟨piece, member, rfl⟩
    have ⟨inside, filled⟩ := List.mem_filter.mp member
    refine ⟨?_, by simpa using inside⟩
    intro blank
    have : piece = [] := by simpa using congrArg String.toList blank
    simp [this] at filled
  · rintro ⟨filled, inside⟩
    refine ⟨key.toList, List.mem_filter.mpr ⟨inside, ?_⟩, String.ofList_toList⟩
    simpa using filled

/-- The record of some keys lists the non-empty pieces of the keys. -/
theorem contains_parse_encode (keys : List String) (key : String) :
    (parse (some (encode keys))).contains key = true ↔
      key ≠ "" ∧ ∃ whole ∈ keys, key.toList ∈ pieces separator whole.toList := by
  rw [contains_parse]
  refine and_congr_right fun filled => ?_
  rw [Option.getD_some, encode, String.toList_ofList]
  by_cases none : (SortedSet.ofList keys).toList.map String.toList = []
  · have blank : key.toList ≠ [] := by simpa using filled
    have no_keys : ∀ whole, whole ∉ keys := by
      intro whole member
      have : whole ∈ (SortedSet.ofList keys).toList :=
        SortedSet.mem_toList_iff.mpr ((SortedSet.contains_ofList keys whole).mpr member)
      simp [List.map_eq_nil_iff.mp none] at this
    simp [none, pieces, blank, no_keys]
  · rw [pieces_intercalate none, List.mem_flatMap]
    constructor
    · rintro ⟨part, member, inside⟩
      obtain ⟨whole, listed, rfl⟩ := List.mem_map.mp member
      exact ⟨whole, (SortedSet.contains_ofList keys whole).mp (SortedSet.mem_toList_iff.mp listed),
        inside⟩
    · rintro ⟨whole, member, inside⟩
      refine ⟨whole.toList, List.mem_map.mpr ⟨whole, ?_, rfl⟩, inside⟩
      exact SortedSet.mem_toList_iff.mpr ((SortedSet.contains_ofList keys whole).mpr member)

/-- The record of keys without separators lists them, the empty one excepted. -/
theorem contains_parse_encode_of_plain {keys : List String}
    (plain : ∀ key ∈ keys, hasSeparator key = false) (key : String) :
    (parse (some (encode keys))).contains key = true ↔ key ≠ "" ∧ key ∈ keys := by
  rw [contains_parse_encode]
  refine and_congr_right fun _ => ⟨?_, ?_⟩
  · rintro ⟨whole, member, inside⟩
    rw [pieces_of_not_mem (hasSeparator_eq_false_iff.mp (plain whole member)),
      List.mem_singleton, String.toList_inj] at inside
    exact inside ▸ member
  · intro member
    refine ⟨key, member, ?_⟩
    rw [pieces_of_not_mem (hasSeparator_eq_false_iff.mp (plain key member))]
    exact List.mem_singleton_self _

end Provenance

/-! ## The expected labels -/

section Expected

variable {machineSet : MachineSet} {machine : Machine} {node : Node}

/-- Whether a label of the template may be put on a machine and its node. -/
def mayLabel (machine : Machine) (node : Node) (key : String) : Bool :=
  !Provenance.hasSeparator key &&
    (!node.labelMap.contains key || machine.nodeLabels.contains key || node.ownedKeys.contains key)

theorem get?_expectedLabels (key : String) :
    (expectedLabels machineSet machine node).get? key =
      if mayLabel machine node key then machineSet.templateNodeLabels.get? key else none :=
  SortedMap.get?_filterKeys _ _ key

theorem contains_expectedLabels (key : String) :
    (expectedLabels machineSet machine node).contains key =
      (mayLabel machine node key && machineSet.templateNodeLabels.contains key) :=
  SortedMap.contains_filterKeys _ _ key

/-- The expected labels depend on the machine and the node only through what may be put on them. -/
theorem expectedLabels_congr {machine' : Machine} {node' : Node}
    (same : ∀ key, machineSet.templateNodeLabels.contains key = true →
      mayLabel machine' node' key = mayLabel machine node key) :
    expectedLabels machineSet machine' node' = expectedLabels machineSet machine node := by
  apply SortedMap.ext_get?
  intro key
  rw [get?_expectedLabels, get?_expectedLabels]
  cases asked : machineSet.templateNodeLabels.contains key with
  | true => rw [same key asked]
  | false => simp [SortedMap.contains_eq_false_iff.mp asked]

/-- Every expected key can be recorded. -/
theorem hasSeparator_of_mem_expectedLabels (key : String)
    (h : key ∈ (expectedLabels machineSet machine node).keys) :
    Provenance.hasSeparator key = false := by
  rw [SortedMap.mem_keys_iff, contains_expectedLabels] at h
  simp only [mayLabel, Bool.and_eq_true, Bool.not_eq_true'] at h
  exact h.1.1

/-- A label that somebody else has set is not expected. -/
theorem contains_expectedLabels_of_foreign {key : String}
    (carried : node.labelMap.contains key = true)
    (unclaimed : machine.nodeLabels.contains key = false)
    (unlisted : node.ownedKeys.contains key = false) :
    (expectedLabels machineSet machine node).contains key = false := by
  simp [contains_expectedLabels, mayLabel, carried, unclaimed, unlisted]

/-- Putting the expected labels on the machine does not change what is expected. -/
theorem expectedLabels_setNodeLabels :
    expectedLabels machineSet
        (machine.setNodeLabels (expectedLabels machineSet machine node)) node =
      expectedLabels machineSet machine node := by
  apply expectedLabels_congr
  intro key asked
  have now :
      (machine.setNodeLabels (expectedLabels machineSet machine node)).nodeLabels.contains key =
        mayLabel machine node key := by
    change (expectedLabels machineSet machine node).contains key = _
    rw [contains_expectedLabels, asked, Bool.and_true]
  rw [mayLabel, now, mayLabel]
  cases Provenance.hasSeparator key <;> cases node.labelMap.contains key <;>
    cases machine.nodeLabels.contains key <;> cases node.ownedKeys.contains key <;> rfl

end Expected

/-! ## Bringing the labels of a node in line -/

section Sync

variable {node : Node} {expected : Labels}

/-- The node has the expected labels, and its annotation lists exactly their keys. -/
def Node.AgreesWith (node : Node) (expected : Labels) : Prop :=
  node.customLabels.filterKeys expected.contains = expected ∧ node.ownedKeys = expected.keySet

theorem Node.agreesWith_iff : node.AgreesWith expected ↔
    (∀ key, node.ownedKeys.contains key = expected.contains key) ∧
      ∀ key value, expected.get? key = some value → node.labelMap.get? key = some value := by
  constructor
  · rintro ⟨labels, keys⟩
    have listed : ∀ key, node.ownedKeys.contains key = expected.contains key := by
      intro key
      rw [keys, SortedMap.contains_keySet]
    refine ⟨listed, ?_⟩
    intro key value found
    have present := SortedMap.contains_of_get? found
    have here := congrArg (SortedMap.get? · key) labels
    simpa [Node.customLabels, SortedMap.get?_filterKeys, listed, present, found] using here
  · rintro ⟨listed, labels⟩
    refine ⟨SortedMap.ext_get? fun key => ?_, SortedSet.ext_contains fun key => ?_⟩
    · simp only [Node.customLabels, SortedMap.get?_filterKeys, listed]
      cases found : expected.get? key with
      | none => simp [SortedMap.contains, found]
      | some value => simp [SortedMap.contains, found, labels key value found]
    · rw [listed, SortedMap.contains_keySet]

/-- A node that agrees with the expected labels keeps its labels. -/
theorem keptLabels_of_agreesWith (agrees : node.AgreesWith expected) :
    keptLabels node expected = node.labelMap := by
  apply SortedMap.filterKeys_eq_self
  intro key _
  rw [(Node.agreesWith_iff.mp agrees).1 key]
  cases expected.contains key <;> rfl

theorem syncNodeLabels_of_agreesWith (agrees : node.AgreesWith expected) :
    syncNodeLabels node expected =
      ({ node with metadata := { node.metadata with labels := some node.labelMap } }, false) := by
  have unchanged : (node.customLabels.keys.any fun key => !expected.contains key) = false := by
    rw [List.any_eq_false]
    intro key member
    have owned : node.ownedKeys.contains key = true := by
      have := SortedMap.mem_keys_iff.mp member
      rw [Node.customLabels, SortedMap.contains_filterKeys, Bool.and_eq_true] at this
      exact this.1
    simp [← (Node.agreesWith_iff.mp agrees).1 key, owned]
  have kept := keptLabels_of_agreesWith agrees
  unfold Node.AgreesWith at agrees
  rw [syncNodeLabels, if_pos agrees, kept, unchanged]

theorem syncNodeLabels_of_not_agreesWith (differs : ¬node.AgreesWith expected) :
    syncNodeLabels node expected =
      ({ node with metadata := { node.metadata with
          labels := some ((keptLabels node expected).override expected)
          annotations := some (recordKeys node.annotationMap expected) } }, true) := by
  unfold Node.AgreesWith at differs
  rw [syncNodeLabels, if_neg differs]

/-- The labels of a node are written exactly if it does not agree with the expected ones. -/
theorem syncNodeLabels_changed_iff :
    (syncNodeLabels node expected).2 = true ↔ ¬node.AgreesWith expected := by
  by_cases agrees : node.AgreesWith expected
  · simp [syncNodeLabels_of_agreesWith agrees, agrees]
  · simp [syncNodeLabels_of_not_agreesWith agrees, agrees]

/-- The labels afterwards: without the owned ones that are no longer expected, and overridden by
the expected ones. -/
theorem syncNodeLabels_labelMap :
    (syncNodeLabels node expected).1.labelMap = (keptLabels node expected).override expected := by
  by_cases agrees : node.AgreesWith expected
  · rw [syncNodeLabels_of_agreesWith agrees, keptLabels_of_agreesWith agrees,
      SortedMap.override_eq_self (Node.agreesWith_iff.mp agrees).2]
    rfl
  · rw [syncNodeLabels_of_not_agreesWith agrees]
    rfl

/-- The record afterwards: the keys of the expected labels, if they can be recorded. -/
theorem contains_ownedKeys_syncNodeLabels
    (plain : ∀ key ∈ expected.keys, Provenance.hasSeparator key = false) (key : String) :
    (syncNodeLabels node expected).1.ownedKeys.contains key = true ↔
      key ≠ "" ∧ expected.contains key = true := by
  by_cases agrees : node.AgreesWith expected
  · rw [syncNodeLabels_of_agreesWith agrees, ← (Node.agreesWith_iff.mp agrees).1 key]
    exact ⟨fun owned => ⟨((Provenance.contains_parse _ key).mp owned).1, owned⟩, fun h => h.2⟩
  · rw [syncNodeLabels_of_not_agreesWith agrees]
    change (Provenance.parse ((recordKeys node.annotationMap expected).get?
      Provenance.annotationKey)).contains key = true ↔ _
    rw [recordKeys]
    split
    · rename_i empty
      have absent : expected.contains key = false :=
        SortedMap.contains_eq_false_iff.mpr (SortedMap.isEmpty_iff.mp empty key)
      rw [SortedMap.get?_erase_self, Provenance.contains_parse, absent]
      simp [Text.pieces]
    · rw [SortedMap.get?_insert_self, Provenance.contains_parse_encode_of_plain plain,
        SortedMap.mem_keys_iff]

/-- Keys that somebody else has set stay as they are. -/
theorem syncNodeLabels_get?_of_foreign {key : String}
    (unlisted : node.ownedKeys.contains key = false) (unexpected : expected.contains key = false) :
    (syncNodeLabels node expected).1.labelMap.get? key = node.labelMap.get? key := by
  rw [syncNodeLabels_labelMap, SortedMap.get?_override, keptLabels, SortedMap.get?_filterKeys,
    SortedMap.contains_eq_false_iff.mp unexpected]
  simp [unlisted]

/-- After the labels of a node were brought in line, no owned key is unexpected. -/
theorem keptLabels_syncNodeLabels
    (plain : ∀ key ∈ expected.keys, Provenance.hasSeparator key = false) :
    keptLabels (syncNodeLabels node expected).1 expected =
      (syncNodeLabels node expected).1.labelMap := by
  apply SortedMap.filterKeys_eq_self
  intro key _
  cases owned : (syncNodeLabels node expected).1.ownedKeys.contains key with
  | false => rfl
  | true => simp [((contains_ownedKeys_syncNodeLabels plain key).mp owned).2]

/-- The record is the only annotation that is written. -/
theorem erase_recordKeys (annotations : Labels) :
    (recordKeys annotations expected).erase Provenance.annotationKey =
      annotations.erase Provenance.annotationKey := by
  apply SortedMap.ext_get?
  intro key
  cases empty : expected.isEmpty with
  | true =>
      simp only [recordKeys, empty, if_true, SortedMap.get?_erase]
      split <;> rfl
  | false =>
      simp only [recordKeys, empty, Bool.false_eq_true, if_false, SortedMap.get?_erase,
        SortedMap.get?_insert]
      split <;> rfl

theorem recordKeys_recordKeys (annotations : Labels) :
    recordKeys (recordKeys annotations expected) expected = recordKeys annotations expected := by
  apply SortedMap.ext_get?
  intro key
  cases empty : expected.isEmpty with
  | true =>
      simp only [recordKeys, empty, if_true, SortedMap.get?_erase]
      split <;> rfl
  | false =>
      simp only [recordKeys, empty, Bool.false_eq_true, if_false, SortedMap.get?_insert]
      split <;> rfl

/-- Bringing the labels in line a second time changes nothing. -/
theorem syncNodeLabels_syncNodeLabels
    (plain : ∀ key ∈ expected.keys, Provenance.hasSeparator key = false) :
    (syncNodeLabels (syncNodeLabels node expected).1 expected).1 =
      (syncNodeLabels node expected).1 := by
  have labels : (keptLabels (syncNodeLabels node expected).1 expected).override expected =
      (syncNodeLabels node expected).1.labelMap := by
    rw [keptLabels_syncNodeLabels plain, syncNodeLabels_labelMap]
    apply SortedMap.override_eq_self
    intro key value found
    rw [SortedMap.get?_override, found, Option.some_or]
  by_cases again : (syncNodeLabels node expected).1.AgreesWith expected
  · rw [syncNodeLabels_of_agreesWith again]
    by_cases agrees : node.AgreesWith expected
    · rw [syncNodeLabels_of_agreesWith agrees]
      rfl
    · rw [syncNodeLabels_of_not_agreesWith agrees]
      rfl
  · rw [syncNodeLabels_of_not_agreesWith again, labels]
    by_cases agrees : node.AgreesWith expected
    · rw [syncNodeLabels_of_agreesWith agrees] at again
      exact absurd agrees again
    · rw [syncNodeLabels_of_not_agreesWith agrees]
      simp only [Node.annotationMap, Node.labelMap, ObjectMeta.labelMap, Option.getD_some,
        recordKeys_recordKeys]

/-- After the labels of a node were brought in line it agrees with them, if all keys can be
recorded. -/
theorem agreesWith_syncNodeLabels
    (plain : ∀ key ∈ expected.keys, Provenance.hasSeparator key = false)
    (filled : ∀ key, expected.contains key = true → key ≠ "") :
    (syncNodeLabels node expected).1.AgreesWith expected := by
  refine Node.agreesWith_iff.mpr ⟨fun key => ?_, fun key value found => ?_⟩
  · rw [Bool.eq_iff_iff, contains_ownedKeys_syncNodeLabels plain]
    exact ⟨fun h => h.2, fun present => ⟨filled key present, present⟩⟩
  · rw [syncNodeLabels_labelMap, SortedMap.get?_override, found, Option.some_or]

/-- Once the expected labels are on the machine, writing them to the node does not change what is
expected. -/
theorem expectedLabels_syncNodeLabels {machineSet : MachineSet} {machine machine' : Machine}
    (labelled : machine'.nodeLabels = expectedLabels machineSet machine node) :
    expectedLabels machineSet machine'
        (syncNodeLabels node (expectedLabels machineSet machine node)).1 =
      expectedLabels machineSet machine node := by
  apply expectedLabels_congr
  intro key asked
  have expectedHere : (expectedLabels machineSet machine node).contains key =
      mayLabel machine node key := by
    rw [contains_expectedLabels, asked, Bool.and_true]
  cases may : mayLabel machine node key with
  | true =>
      rw [may] at expectedHere
      have plain : Provenance.hasSeparator key = false :=
        hasSeparator_of_mem_expectedLabels key (SortedMap.mem_keys_iff.mpr expectedHere)
      simp [mayLabel, plain, labelled, expectedHere]
  | false =>
      rw [may] at expectedHere
      cases separated : Provenance.hasSeparator key with
      | true => simp [mayLabel, separated]
      | false =>
          -- The key was on the node and is nobody's here, so it is still there and unlisted.
          simp only [mayLabel, separated, Bool.not_false, Bool.true_and, Bool.or_eq_false_iff,
            Bool.not_eq_false'] at may
          obtain ⟨⟨carried, -⟩, unlisted⟩ := may
          have still : (syncNodeLabels node
              (expectedLabels machineSet machine node)).1.labelMap.contains key = true := by
            rw [SortedMap.contains, syncNodeLabels_get?_of_foreign unlisted expectedHere]
            exact carried
          have unrecorded : (syncNodeLabels node
              (expectedLabels machineSet machine node)).1.ownedKeys.contains key = false := by
            rw [Bool.eq_false_iff, Ne,
              contains_ownedKeys_syncNodeLabels hasSeparator_of_mem_expectedLabels, expectedHere]
            simp
          simp [mayLabel, still, unrecorded, labelled, expectedHere]

end Sync

end NodeSync
