/-
Module: NodeSync.SortedMap
Purpose: Finite maps whose entries stand in ascending order of their keys. The order is part of the
  type, so a map has one representation, and maps with the same look-ups are equal. Every operation
  is described by its effect on look-ups.
Main exports: SortedMap, SortedSet, SortedMap.ext_get?, SortedMap.get?_insert, SortedMap.get?_erase,
  SortedMap.get?_filterKeys, SortedMap.get?_override
-/
import NodeSync.SortedMap.Entries

namespace NodeSync

set_option autoImplicit false
set_option linter.unusedSectionVars false

/-- A finite map, kept as its entries in ascending order of the keys. -/
structure SortedMap (κ ν : Type) [Ord κ] where
  entries : Entries κ ν
  ascending : entries.Ascending

namespace SortedMap

variable {κ ν : Type} [Ord κ]

@[ext] theorem ext {first second : SortedMap κ ν} (h : first.entries = second.entries) :
    first = second := by
  cases first
  cases second
  cases h
  rfl

instance [DecidableEq κ] [DecidableEq ν] : DecidableEq (SortedMap κ ν) := fun first second =>
  if h : first.entries = second.entries then isTrue (ext h)
  else isFalse fun same => h (congrArg entries same)

instance [Repr κ] [Repr ν] : Repr (SortedMap κ ν) where
  reprPrec map precedence := reprPrec map.entries precedence

/-- The map without entries. -/
def empty : SortedMap κ ν := ⟨[], List.Pairwise.nil⟩

instance : Inhabited (SortedMap κ ν) := ⟨empty⟩

instance : EmptyCollection (SortedMap κ ν) := ⟨empty⟩

/-- The value stored under a key. -/
def get? (map : SortedMap κ ν) (key : κ) : Option ν := map.entries.lookup key

/-- Whether a key is present. -/
def contains (map : SortedMap κ ν) (key : κ) : Bool := (map.get? key).isSome

def isEmpty (map : SortedMap κ ν) : Bool := map.entries.isEmpty

/-- The entries in ascending order of their keys. -/
def toList (map : SortedMap κ ν) : List (κ × ν) := map.entries

/-- The keys in ascending order. -/
def keys (map : SortedMap κ ν) : List κ := map.entries.map (·.1)

/-- The values in the order of their keys. -/
def values (map : SortedMap κ ν) : List ν := map.entries.map (·.2)

section Operations

variable [Std.TransOrd κ] [Std.LawfulEqOrd κ]

/-- Stores a value under a key, replacing the one that stood there. -/
def insert (map : SortedMap κ ν) (key : κ) (value : ν) : SortedMap κ ν :=
  ⟨map.entries.insert key value, Entries.ascending_insert map.ascending key value⟩

/-- Removes a key. -/
def erase (map : SortedMap κ ν) (key : κ) : SortedMap κ ν :=
  ⟨map.entries.erase key, Entries.ascending_erase map.ascending key⟩

/-- Keeps the entries whose key passes a test. -/
def filterKeys (map : SortedMap κ ν) (keep : κ → Bool) : SortedMap κ ν :=
  ⟨map.entries.filter fun entry => keep entry.1, Entries.ascending_filter map.ascending _⟩

/-- The map of a list of entries; of repeated keys the last one wins. -/
def ofList (entries : List (κ × ν)) : SortedMap κ ν :=
  ⟨Entries.ofList entries, Entries.ascending_ofList entries⟩

/-- Overrides a map by the entries of another one. -/
def override (map overriding : SortedMap κ ν) : SortedMap κ ν :=
  overriding.entries.foldl (fun result entry => result.insert entry.1 entry.2) map

end Operations

section Laws

variable [Std.TransOrd κ] [Std.LawfulEqOrd κ]

/-- Maps with the same look-ups are equal. -/
theorem ext_get? {first second : SortedMap κ ν} (same : ∀ key, first.get? key = second.get? key) :
    first = second :=
  ext (Entries.ascending_ext first.ascending second.ascending same)

@[simp] theorem get?_empty (key : κ) : (empty : SortedMap κ ν).get? key = none := rfl

/-- Insertion changes exactly one look-up. -/
theorem get?_insert (map : SortedMap κ ν) (key other : κ) (value : ν) :
    (map.insert key value).get? other =
      if compare other key = .eq then some value else map.get? other :=
  Entries.lookup_insert key other value map.entries

@[simp] theorem get?_insert_self (map : SortedMap κ ν) (key : κ) (value : ν) :
    (map.insert key value).get? key = some value := by
  simp [get?_insert]

theorem get?_insert_of_ne (map : SortedMap κ ν) {key other : κ} (h : other ≠ key) (value : ν) :
    (map.insert key value).get? other = map.get? other := by
  rw [get?_insert, if_neg (Entries.compare_ne_eq h)]

/-- Erasure removes exactly one look-up. -/
theorem get?_erase (map : SortedMap κ ν) (key other : κ) :
    (map.erase key).get? other = if compare other key = .eq then none else map.get? other :=
  Entries.lookup_erase key other map.entries

@[simp] theorem get?_erase_self (map : SortedMap κ ν) (key : κ) :
    (map.erase key).get? key = none := by
  simp [get?_erase]

theorem get?_erase_of_ne (map : SortedMap κ ν) {key other : κ} (h : other ≠ key) :
    (map.erase key).get? other = map.get? other := by
  rw [get?_erase, if_neg (Entries.compare_ne_eq h)]

/-- A test on keys decides each look-up by itself. -/
theorem get?_filterKeys (map : SortedMap κ ν) (keep : κ → Bool) (key : κ) :
    (map.filterKeys keep).get? key = if keep key then map.get? key else none :=
  Entries.lookup_filter_key keep key map.entries

/-- An entry of the overriding map wins; elsewhere the first map is kept. -/
theorem get?_override (map overriding : SortedMap κ ν) (key : κ) :
    (map.override overriding).get? key = (overriding.get? key).or (map.get? key) := by
  rcases overriding with ⟨entries, ascending⟩
  change (entries.foldl (fun result entry => result.insert entry.1 entry.2) map).get? key =
    (entries.lookup key).or (map.get? key)
  induction entries generalizing map with
  | nil => simp
  | cons entry rest ih =>
      rcases entry with ⟨head, value⟩
      have ⟨below, tail⟩ := List.pairwise_cons.mp ascending
      rw [List.foldl_cons, ih _ tail, get?_insert, Entries.lookup_cons]
      by_cases found : compare key head = .eq
      · have same := Std.LawfulEqOrd.eq_of_compare found
        subst same
        simp [Entries.lookup_of_below below]
      · simp [found]

/-- What is found under a key is the entry with that key. -/
theorem get?_eq_some_iff_mem {map : SortedMap κ ν} {key : κ} {value : ν} :
    map.get? key = some value ↔ (key, value) ∈ map.toList :=
  ⟨Entries.mem_of_lookup, Entries.lookup_of_mem map.ascending⟩

/-- The keys are those under which something is found. -/
theorem mem_keys_iff {map : SortedMap κ ν} {key : κ} :
    key ∈ map.keys ↔ map.contains key = true := by
  constructor
  · intro member
    obtain ⟨entry, inside, rfl⟩ := List.mem_map.mp member
    have : map.get? entry.1 = some entry.2 := get?_eq_some_iff_mem.mpr inside
    simp [contains, this]
  · intro present
    obtain ⟨value, found⟩ := Option.isSome_iff_exists.mp present
    exact List.mem_map.mpr ⟨(key, value), get?_eq_some_iff_mem.mp found, rfl⟩

end Laws

end SortedMap

/-- A finite set of keys, kept in ascending order. -/
abbrev SortedSet (κ : Type) [Ord κ] := SortedMap κ Unit

namespace SortedSet

variable {κ : Type} [Ord κ] [Std.TransOrd κ] [Std.LawfulEqOrd κ]

/-- The set of the members of a list. -/
def ofList (members : List κ) : SortedSet κ :=
  SortedMap.ofList (members.map fun member => (member, ()))

/-- The members in ascending order. -/
def toList (set : SortedSet κ) : List κ := set.keys

end SortedSet

/-- The set of the keys of a map. -/
def SortedMap.keySet {κ ν : Type} [Ord κ] [Std.TransOrd κ] [Std.LawfulEqOrd κ]
    (map : SortedMap κ ν) : SortedSet κ :=
  SortedSet.ofList map.keys

end NodeSync
