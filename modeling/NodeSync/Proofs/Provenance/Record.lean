/-
Module: NodeSync.Proofs.Provenance.Record
Purpose: Which keys the record can hold. Writing keys down forgets their order and repeats, and
  reading the record gives the non-empty pieces of the keys: a key comes back as it was exactly if
  it is not empty and holds no separator. Keys that were read from a record are of this kind, so a
  record that is read and written again lists the same keys.
Main exports: Provenance.encode_congr, Provenance.trackable_of_contains_parse,
  Provenance.parse_encode_eq_iff, Provenance.parse_encode_parse, Provenance.recordOf_encode
-/
import NodeSync.Proofs.Provenance

namespace NodeSync

open NodeSync.Text

set_option autoImplicit false

namespace Provenance

variable {keys : List String}

/-- Order and repeats of the keys do not show in their record. -/
theorem encode_congr {others : List String} (same : ∀ key, key ∈ others ↔ key ∈ keys) :
    encode others = encode keys := by
  rw [encode, SortedSet.ofList_congr same, ← encode]

/-- A key that was read from a record is not empty and holds no separator. -/
theorem trackable_of_contains_parse {listed : Option String} {key : String}
    (read : (parse listed).contains key = true) : key ≠ "" ∧ separator ∉ key.toList := by
  obtain ⟨filled, inside⟩ := (contains_parse listed key).mp read
  exact ⟨filled, not_mem_of_mem_pieces inside⟩

/-- The record of keys that are not empty and hold no separator lists these keys. -/
theorem parse_encode_of_trackable
    (trackable : ∀ key ∈ keys, key ≠ "" ∧ separator ∉ key.toList) :
    parse (some (encode keys)) = SortedSet.ofList keys := by
  have plain : ∀ key ∈ keys, hasSeparator key = false := fun key inside =>
    hasSeparator_eq_false_iff.mpr (trackable key inside).2
  apply SortedSet.ext_contains
  intro key
  rw [Bool.eq_iff_iff, contains_parse_encode_of_plain plain, SortedSet.contains_ofList]
  exact ⟨fun h => h.2, fun inside => ⟨(trackable key inside).1, inside⟩⟩

/-- A list of keys is read back from its record exactly if none of them is empty or taken apart. -/
theorem parse_encode_eq_iff :
    parse (some (encode keys)) = SortedSet.ofList keys ↔
      ∀ key ∈ keys, key ≠ "" ∧ separator ∉ key.toList := by
  constructor
  · intro same key inside
    have read : (parse (some (encode keys))).contains key = true := by
      rw [same]
      exact (SortedSet.contains_ofList keys key).mpr inside
    exact trackable_of_contains_parse read
  · exact parse_encode_of_trackable

/-- Writing down what was read, and reading it again, gives the same keys. -/
theorem parse_encode_parse (listed : Option String) :
    parse (some (encode (parse listed).toList)) = parse listed := by
  have trackable : ∀ key ∈ (parse listed).toList, key ≠ "" ∧ separator ∉ key.toList :=
    fun _ inside => trackable_of_contains_parse (SortedSet.mem_toList_iff.mp inside)
  rw [parse_encode_of_trackable trackable, SortedSet.ofList_toList]

/-- What the record of some keys has of them. -/
structure RecordOf (keys : List String) (record : String) : Prop where
  /-- Only the set of the keys counts. -/
  unordered : ∀ others : List String, (∀ key, key ∈ others ↔ key ∈ keys) → encode others = record
  /-- The record lists the non-empty pieces of the keys. -/
  pieces : ∀ key, (parse (some record)).contains key = true ↔
    key ≠ "" ∧ ∃ whole ∈ keys, IsPiece ',' key.toList whole.toList
  /-- These are the keys themselves exactly if none of the keys is empty or taken apart. -/
  faithful : parse (some record) = SortedSet.ofList keys ↔
    ∀ key ∈ keys, key ≠ "" ∧ ',' ∉ key.toList

/-- The record of some keys lists their non-empty pieces, whatever the order and the repeats, and
the keys that any annotation lists stay the same when they are written down again. -/
theorem recordOf_encode (keys : List String) (text : String) :
    RecordOf keys (encode keys) ∧
      parse (some (encode (parse (some text)).toList)) = parse (some text) := by
  refine ⟨?_, parse_encode_parse (some text)⟩
  exact {
    unordered := fun _ same => encode_congr same
    pieces := fun key => by
      rw [contains_parse_encode]
      simp only [mem_pieces_iff, separator]
    faithful := parse_encode_eq_iff }

/-- An empty key and the ends of a key that is taken apart leave nothing behind. -/
example : parse (some (encode ["zone", "", ",app,,tier", "zone"])) =
    SortedSet.ofList ["app", "tier", "zone"] := by decide +kernel

end Provenance

end NodeSync
