/-
Module: NodeSync.Proofs.Json.Faithful
Purpose: Values that are read again as they are. Every value that is read off a text is one, for its
  objects are in order. The fields of an object are found again by their names, and of repeated
  names the last counts.
Main exports: Entries.lookup_ofList, Entries.lookup_reverse, SortedMap.ofList_toList, Json.Faithful,
  Json.faithful_object, Json.faithful_of_json?
-/
import NodeSync.Json.Document
import NodeSync.Proofs.Maps

namespace NodeSync

set_option autoImplicit false

/-! ## Entries in any order -/

namespace Entries

variable {κ ν : Type} [Ord κ] [Std.TransOrd κ] [Std.LawfulEqOrd κ]

theorem lookup_append (key : κ) (first second : Entries κ ν) :
    lookup key (first ++ second) = (lookup key first).or (lookup key second) := by
  induction first with
  | nil => rfl
  | cons entry rest ih =>
      rw [List.cons_append, lookup_cons, lookup_cons, ih]
      split <;> rfl

/-- Of repeated keys the last one wins. -/
theorem lookup_ofList (key : κ) (entries : List (κ × ν)) :
    lookup key (ofList entries) = lookup key entries.reverse := by
  have step (rest : List (κ × ν)) (sorted : Entries κ ν) :
      lookup key (rest.foldl (fun sorted entry => insert entry.1 entry.2 sorted) sorted) =
        (lookup key rest.reverse).or (lookup key sorted) := by
    induction rest generalizing sorted with
    | nil => rfl
    | cons entry rest ih =>
        rw [List.foldl_cons, ih, List.reverse_cons, lookup_append, Option.or_assoc, lookup_insert,
          lookup_cons, lookup_nil]
        split <;> simp
  rw [ofList, step, lookup_nil, Option.or_none]

theorem lookup_eq_none_of_forall {key : κ} {entries : Entries κ ν}
    (absent : ∀ entry ∈ entries, entry.1 ≠ key) : lookup key entries = none := by
  cases found : lookup key entries with
  | none => rfl
  | some value => exact absurd rfl (absent _ (mem_of_lookup found))

/-- Where no key is repeated the order does not matter. -/
theorem lookup_reverse {entries : Entries κ ν} (distinct : (entries.map (·.1)).Nodup) (key : κ) :
    lookup key entries.reverse = lookup key entries := by
  induction entries with
  | nil => rfl
  | cons entry rest ih =>
      obtain ⟨fresh, others⟩ := List.nodup_cons.mp distinct
      rw [List.reverse_cons, lookup_append, ih others, lookup_cons, lookup_cons, lookup_nil]
      split
      · rename_i same
        have key_eq := Std.LawfulEqOrd.eq_of_compare same
        have absent : lookup key rest = none := lookup_eq_none_of_forall fun other inside equal =>
          fresh (List.mem_map.mpr ⟨other, inside, equal.trans key_eq⟩)
        rw [absent, Option.none_or]
      · rw [Option.or_none]

/-- Entries in order are kept as they are. -/
theorem ofList_of_ascending {entries : Entries κ ν} (ascending : Ascending entries) :
    ofList entries = entries :=
  have distinct := SortedMap.nodup_keys ⟨entries, ascending⟩
  ascending_ext (ascending_ofList entries) ascending fun key =>
    (lookup_ofList key entries).trans (lookup_reverse distinct key)

theorem mem_of_mem_ofList {entries : List (κ × ν)} {entry : κ × ν}
    (inside : entry ∈ ofList entries) : entry ∈ entries := by
  have found := lookup_of_mem (ascending_ofList entries) inside
  rw [lookup_ofList] at found
  exact List.mem_reverse.mp (mem_of_lookup found)

end Entries

theorem SortedMap.ofList_toList {κ ν : Type} [Ord κ] [Std.TransOrd κ] [Std.LawfulEqOrd κ]
    (map : SortedMap κ ν) : SortedMap.ofList map.toList = map :=
  ext (Entries.ofList_of_ascending map.ascending)

/-! ## Faithful values -/

namespace Json

/-- A value that is read again as it is. -/
def Faithful (value : Json) : Prop := (Document.ofJson value).json? = some value

theorem fieldsJson?_ofFields {entries : Entries String Json}
    (faithful : ∀ entry ∈ entries, Faithful entry.2) :
    Document.fieldsJson? (Document.ofFields entries) = some entries := by
  induction entries with
  | nil => rfl
  | cons entry rest ih =>
      obtain ⟨first, others⟩ := List.forall_mem_cons.mp faithful
      have own : (Document.ofJson entry.2).json? = some entry.2 := first
      simp [Document.ofFields, Document.fieldsJson?, own, ih others]

/-- An object is faithful if its fields are in order and their values are faithful. -/
theorem faithful_object {entries : Entries String Json} (ascending : entries.Ascending)
    (faithful : ∀ entry ∈ entries, Faithful entry.2) : Faithful (.object entries) := by
  rw [Faithful, Document.ofJson, Document.json?, fieldsJson?_ofFields faithful, Option.map_some,
    Entries.ofList_of_ascending ascending]

mutual

/-- The value of a text is read again as it is. -/
theorem faithful_of_json? : ∀ {document : Document} {value : Json},
    document.json? = some value → Faithful value
  | .null, _, read => by
      cases read
      rfl
  | .bool _, _, read => by
      cases read
      rfl
  | .number _, _, read => by
      cases read
      rfl
  | .string _, _, read => by
      cases read
      rfl
  | .array _, _, read => by
      obtain ⟨values, found, rfl⟩ := Option.map_eq_some_iff.mp read
      rw [Faithful, Document.ofJson, Document.json?, itemsJson?_ofItems found, Option.map_some]
  | .object _, _, read => by
      obtain ⟨entries, found, rfl⟩ := Option.map_eq_some_iff.mp read
      exact faithful_object (Entries.ascending_ofList entries) fun entry inside =>
        faithful_of_fieldsJson? found entry (Entries.mem_of_mem_ofList inside)
  | .unreadable, _, read => by cases read

/-- So are the values of the items of an array. -/
theorem itemsJson?_ofItems : ∀ {items : List Document} {values : List Json},
    Document.itemsJson? items = some values →
      Document.itemsJson? (Document.ofItems values) = some values
  | [], _, read => by
      cases read
      rfl
  | _ :: _, _, read => by
      simp only [Document.itemsJson?, Option.bind_eq_bind, Option.bind_eq_some_iff] at read
      obtain ⟨value, first, values, others, same⟩ := read
      cases same
      have own : (Document.ofJson value).json? = some value := faithful_of_json? first
      simp [Document.ofItems, Document.itemsJson?, own, itemsJson?_ofItems others]

/-- So are the values of the fields of an object. -/
theorem faithful_of_fieldsJson? : ∀ {fields : List (Option String × Document)}
    {entries : List (String × Json)}, Document.fieldsJson? fields = some entries →
      ∀ entry ∈ entries, Faithful entry.2
  | [], _, read => by
      cases read
      exact nofun
  | (_, _) :: _, _, read => by
      simp only [Document.fieldsJson?, Option.bind_eq_bind, Option.bind_eq_some_iff] at read
      obtain ⟨name, -, value, first, entries, others, same⟩ := read
      cases same
      exact List.forall_mem_cons.mpr ⟨faithful_of_json? first, faithful_of_fieldsJson? others⟩

end

end Json

end NodeSync
