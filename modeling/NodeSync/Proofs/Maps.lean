/-
Module: NodeSync.Proofs.Maps
Purpose: Which keys a sorted map or set has after an operation, and how a map of values is read
  through a function. Sets are compared by their members, maps by their look-ups.
Main exports: SortedMap.contains_filterKeys, SortedMap.isEmpty_iff, SortedMap.nodup_keys,
  SortedSet.contains_ofList, SortedSet.ext_contains, SortedSet.ofList_congr,
  SortedSet.ofList_toList, SortedMap.contains_keySet, SortedMap.map_toList_eq
-/
import NodeSync.SortedMap

namespace NodeSync

set_option autoImplicit false

namespace SortedMap

variable {κ ν : Type} [Ord κ]

theorem contains_eq_false_iff {map : SortedMap κ ν} {key : κ} :
    map.contains key = false ↔ map.get? key = none := by
  simp [contains]

theorem contains_iff_exists {map : SortedMap κ ν} {key : κ} :
    map.contains key = true ↔ ∃ value, map.get? key = some value :=
  Option.isSome_iff_exists

theorem contains_of_get? {map : SortedMap κ ν} {key : κ} {value : ν}
    (h : map.get? key = some value) : map.contains key = true :=
  contains_iff_exists.mpr ⟨value, h⟩

variable [Std.TransOrd κ] [Std.LawfulEqOrd κ]

theorem contains_filterKeys (map : SortedMap κ ν) (keep : κ → Bool) (key : κ) :
    (map.filterKeys keep).contains key = (keep key && map.contains key) := by
  rw [contains, get?_filterKeys]
  cases keep key <;> simp [contains]

/-- A filter that passes every key present keeps the map. -/
theorem filterKeys_eq_self {map : SortedMap κ ν} {keep : κ → Bool}
    (all : ∀ key, map.contains key = true → keep key = true) : map.filterKeys keep = map := by
  apply ext_get?
  intro key
  rw [get?_filterKeys]
  by_cases present : map.contains key = true
  · rw [if_pos (all key present)]
  · have absent : map.get? key = none := by simpa [contains] using present
    simp [absent]

/-- Overriding by entries that are there already keeps the map. -/
theorem override_eq_self {map overriding : SortedMap κ ν}
    (within : ∀ key value, overriding.get? key = some value → map.get? key = some value) :
    map.override overriding = map := by
  apply ext_get?
  intro key
  rw [get?_override]
  cases found : overriding.get? key with
  | none => rfl
  | some value => rw [within key value found]; rfl

/-- A map is empty if nothing is found in it. -/
theorem isEmpty_iff {map : SortedMap κ ν} :
    map.isEmpty = true ↔ ∀ key, map.get? key = none := by
  constructor
  · intro empty key
    have none : map.entries = [] := List.isEmpty_iff.mp empty
    rw [get?, none]
    rfl
  · intro absent
    have same : map = SortedMap.empty :=
      ext_get? fun key => (absent key).trans (get?_empty key).symm
    rw [same]
    rfl

/-- No key is listed twice. -/
theorem nodup_keys (map : SortedMap κ ν) : (map.toList.map (·.1)).Nodup :=
  List.pairwise_map.mpr (map.ascending.imp Entries.ne_of_compare_lt)

/-- Maps that agree through a function list the same entries through it. -/
theorem map_toList_eq {ξ : Type} {first second : SortedMap κ ν} {view : ν → ξ}
    (same : ∀ key, (first.get? key).map view = (second.get? key).map view) :
    first.toList.map (fun entry => (entry.1, view entry.2)) =
      second.toList.map (fun entry => (entry.1, view entry.2)) := by
  have viewed : ∀ (key : κ) (entries : Entries κ ν),
      Entries.lookup key (entries.map fun entry => (entry.1, view entry.2)) =
        (Entries.lookup key entries).map view := by
    intro key entries
    induction entries with
    | nil => rfl
    | cons entry rest ih =>
        rw [List.map_cons, Entries.lookup_cons, Entries.lookup, ih]
        split <;> rfl
  have ascending : ∀ map : SortedMap κ ν,
      Entries.Ascending (map.entries.map fun entry => (entry.1, view entry.2)) := by
    intro map
    exact List.pairwise_map.mpr map.ascending
  apply Entries.ascending_ext (ascending first) (ascending second)
  intro key
  exact (viewed key first.entries).trans ((same key).trans (viewed key second.entries).symm)

end SortedMap

namespace SortedSet

variable {κ : Type} [Ord κ] [Std.TransOrd κ] [Std.LawfulEqOrd κ]

/-- Sets with the same members are equal. -/
theorem ext_contains {first second : SortedSet κ}
    (same : ∀ key, first.contains key = second.contains key) : first = second := by
  apply SortedMap.ext_get?
  intro key
  have := same key
  cases found : first.get? key <;> cases found' : second.get? key <;>
    simp_all [SortedMap.contains]

/-- Inserting members one after the other adds exactly them. -/
theorem isSome_lookup_foldl_insert (members : List κ) (sorted : Entries κ Unit) (key : κ) :
    (((members.map fun member => (member, ())).foldl
        (fun sorted entry => Entries.insert entry.1 entry.2 sorted) sorted).lookup key).isSome =
      true ↔ key ∈ members ∨ (sorted.lookup key).isSome = true := by
  induction members generalizing sorted with
  | nil => simp
  | cons member rest ih =>
      rw [List.map_cons, List.foldl_cons, ih, Entries.lookup_insert]
      by_cases same : key = member
      · subst same
        simp [Std.ReflOrd.compare_self]
      · simp [same, Entries.compare_ne_eq same]

theorem contains_ofList (members : List κ) (key : κ) :
    (SortedSet.ofList members).contains key = true ↔ key ∈ members := by
  have added := isSome_lookup_foldl_insert members [] key
  exact added.trans (by simp)

theorem mem_toList_iff {set : SortedSet κ} {key : κ} :
    key ∈ set.toList ↔ set.contains key = true :=
  SortedMap.mem_keys_iff

/-- The set of the members of a list does not depend on their order or on repeats. -/
theorem ofList_congr {first second : List κ} (same : ∀ key, key ∈ first ↔ key ∈ second) :
    ofList first = ofList second := by
  apply ext_contains
  intro key
  rw [Bool.eq_iff_iff, contains_ofList, contains_ofList, same key]

/-- A set is the set of its members. -/
theorem ofList_toList (set : SortedSet κ) : ofList set.toList = set := by
  apply ext_contains
  intro key
  rw [Bool.eq_iff_iff, contains_ofList, mem_toList_iff]

end SortedSet

theorem SortedMap.contains_keySet {κ ν : Type} [Ord κ] [Std.TransOrd κ] [Std.LawfulEqOrd κ]
    (map : SortedMap κ ν) (key : κ) : map.keySet.contains key = map.contains key := by
  rw [Bool.eq_iff_iff, SortedMap.keySet, SortedSet.contains_ofList, SortedMap.mem_keys_iff]

end NodeSync
