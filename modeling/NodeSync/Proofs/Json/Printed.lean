/-
Module: NodeSync.Proofs.Json.Printed
Purpose: The fields of a printed object, as they are read. A name stands for at most one of them,
  and they say the typed fields that have a value and the fields that are carried along.
Main exports: Fields.ofEntries, Fields.saying, Fields.Shows, Fields.Shows.exists_of_mem,
  shows_entriesWith, shows_toList, exists_object?_ofFieldsWith, exists_extensible?_ofFieldsWith,
  exists_extensible?_ofFields, exists_record?_ofFields
-/
import NodeSync.Json.Decoder
import NodeSync.Proofs.Json.Faithful

namespace NodeSync.Json

set_option autoImplicit false

/-- The fields that say the entries of an object. -/
def Fields.ofEntries (entries : Entries String Json) : Fields :=
  entries.map fun entry => (entry.1, .ofJson entry.2)

/-- An object is opened to the fields that say its entries. -/
theorem object?_ofJson (entries : Entries String Json) :
    object? (.ofJson (.object entries)) = some (Fields.ofEntries entries) := by
  rw [Document.ofJson, object?]
  induction entries with
  | nil => rfl
  | cons entry rest ih => simp [Document.ofFields, Fields.ofEntries] at ih ⊢; simp [ih]

/-- The fields that say a value, if there is one. -/
def Fields.saying (name : String) (value : Option Json) : Fields :=
  value.toList.map fun shown => (name, .ofJson shown)

/-- In ascending entries no name is said twice. -/
theorem filter_ofEntries {entries : Entries String Json} (ascending : entries.Ascending)
    (name : String) : (Fields.ofEntries entries).filter (·.1 == name) =
      Fields.saying name (entries.lookup name) := by
  induction entries with
  | nil => rfl
  | cons entry rest ih =>
      obtain ⟨below, tail⟩ := List.pairwise_cons.mp ascending
      have own := ih tail
      rw [Fields.ofEntries] at own ⊢
      rw [List.map_cons, Entries.lookup_cons]
      by_cases same : entry.1 = name
      · subst same
        have absent := Entries.lookup_of_below below
        rw [absent] at own
        simp [own, Fields.saying, Std.ReflOrd.compare_self]
      · rw [List.filter_cons_of_neg (by simpa using same), own,
          if_neg (Entries.compare_ne_eq (Ne.symm same))]

/-- Fields of an object say what was printed: each typed field that has a value, and the others that
are carried along. -/
structure Fields.Shows (fields : Fields) (typed : List (String × Option Json))
    (others : SortedMap String Json) : Prop where
  field : ∀ {name value}, typed.lookup name = some value →
    fields.filter (·.1 == name) = Fields.saying name value
  other : ∀ {name}, typed.lookup name = none →
    fields.filter (·.1 == name) = Fields.saying name (others.get? name)
  rest : fields.filter (fun field => !(typed.map (·.1)).contains field.1) =
    Fields.ofEntries others.toList

/-- The entries of an object that is printed from typed fields and from fields carried along. -/
abbrev entriesWith (typed : List (String × Option Json)) (others : SortedMap String Json) :
    Entries String Json :=
  Entries.ofList ((others.toList.map (fun field => (field.1, some field.2)) ++ typed).filterMap
    fun field => field.2.map (field.1, ·))

section Printed

variable {typed : List (String × Option Json)} {others : SortedMap String Json} {name : String}

theorem lookup_eq_none_of_not_mem (absent : name ∉ typed.map (·.1)) :
    typed.lookup name = none := by
  refine List.lookup_eq_none_iff.mpr fun field inside => ?_
  simpa using fun equal : name = field.1 => absent (List.mem_map.mpr ⟨field, inside, equal.symm⟩)

/-- A typed field without a value has no entry. -/
theorem lookup_filterMap_typed (distinct : (typed.map (·.1)).Nodup) (name : String) :
    Entries.lookup name (typed.filterMap fun field => field.2.map (field.1, ·)) =
      (typed.lookup name).join := by
  induction typed with
  | nil => rfl
  | cons field rest ih =>
      obtain ⟨own, value⟩ := field
      obtain ⟨fresh, tail⟩ := List.nodup_cons.mp distinct
      by_cases same : name = own
      · subst same
        cases value with
        | some value => simp [Entries.lookup_cons, Std.ReflOrd.compare_self]
        | none => simp [ih tail, lookup_eq_none_of_not_mem fresh]
      · have other : (name == own) = false := by simpa using same
        cases value with
        | some value =>
            simp [Entries.lookup_cons, Entries.compare_ne_eq same, ih tail, List.lookup_cons, other]
        | none => simp [ih tail, List.lookup_cons, other]

theorem nodup_filterMap_typed (distinct : (typed.map (·.1)).Nodup) :
    ((typed.filterMap fun field => field.2.map (field.1, ·)).map (·.1)).Nodup := by
  refine List.Nodup.sublist ?_ distinct
  clear distinct
  induction typed with
  | nil => exact .slnil
  | cons field rest ih =>
      cases value : field.2 with
      | none => simpa [value] using .cons _ ih
      | some shown => simpa [value] using ih

/-- A typed field comes before one of the same name that is carried along. -/
theorem lookup_entriesWith (distinct : (typed.map (·.1)).Nodup) (name : String) :
    (entriesWith typed others).lookup name = ((typed.lookup name).join).or (others.get? name) := by
  have carried : (others.toList.map fun field => (field.1, some field.2)).filterMap
      (fun field => field.2.map (field.1, ·)) = others.toList := by
    rw [List.filterMap_map]
    exact List.filterMap_some
  rw [entriesWith, Entries.lookup_ofList, List.filterMap_append, carried, List.reverse_append,
    Entries.lookup_append, Entries.lookup_reverse (nodup_filterMap_typed distinct),
    lookup_filterMap_typed distinct, Entries.lookup_reverse others.nodup_keys]
  rfl

/-- A printed object shows its typed fields and what is carried along under other names. -/
theorem shows_entriesWith (distinct : (typed.map (·.1)).Nodup)
    (apart : ∀ name ∈ typed.map (·.1), others.get? name = none) :
    (Fields.ofEntries (entriesWith typed others)).Shows typed others where
  field {name value} here := by
    have typedName : name ∈ typed.map (·.1) := by
      refine Classical.byContradiction fun elsewhere => ?_
      rw [lookup_eq_none_of_not_mem elsewhere] at here
      cases here
    rw [filter_ofEntries (Entries.ascending_ofList _), lookup_entriesWith distinct, here,
      apart name typedName, Option.or_none]
    rfl
  other {name} elsewhere := by
    rw [filter_ofEntries (Entries.ascending_ofList _), lookup_entriesWith distinct, elsewhere]
    rfl
  rest := by
    have kept : (entriesWith typed others).filter
        (fun entry => !(typed.map (·.1)).contains entry.1) = others.toList := by
      refine Entries.ascending_ext (Entries.ascending_filter (Entries.ascending_ofList _) _)
        others.ascending fun name => ?_
      rw [Entries.lookup_filter_key fun name => !(typed.map (·.1)).contains name]
      by_cases typedName : name ∈ typed.map (·.1)
      · have inside : (typed.map (·.1)).contains name = true := by simpa using typedName
        rw [inside]
        exact (apart name typedName).symm
      · have outside : (typed.map (·.1)).contains name = false := by simpa using typedName
        rw [outside, lookup_entriesWith distinct, lookup_eq_none_of_not_mem typedName]
        rfl
    rw [← kept, Fields.ofEntries, Fields.ofEntries, List.filter_map]
    rfl

/-- No name stands for more than one printed field. -/
theorem Fields.Shows.areSingle {shown : Fields} (shows : shown.Shows typed others)
    (names : List String) : shown.areSingle names = true := by
  rw [Fields.areSingle, List.all_eq_true]
  intro name _
  cases here : typed.lookup name with
  | some value =>
      rw [shows.field here]
      cases value <;> simp [Fields.saying]
  | none =>
      rw [shows.other here]
      cases others.get? name <;> simp [Fields.saying]

/-- Where nothing else is carried along, every field says a typed one. -/
theorem Fields.Shows.exists_of_mem {shown : Fields} (shows : shown.Shows typed .empty)
    {field : String × Document} (inside : field ∈ shown) :
    ∃ value, (field.1, some value) ∈ typed ∧ field.2 = .ofJson value := by
  have said : field ∈ shown.filter (·.1 == field.1) := List.mem_filter.mpr ⟨inside, by simp⟩
  cases here : typed.lookup field.1 with
  | none =>
      rw [shows.other here] at said
      cases said
  | some value =>
      rw [shows.field here] at said
      obtain ⟨printed, listed, same⟩ := List.mem_map.mp said
      obtain ⟨before, after, split, -⟩ := List.lookup_eq_some_iff.mp here
      refine ⟨printed, ?_, same ▸ rfl⟩
      rw [split, Option.mem_toList.mp listed]
      simp

/-- The printed object has fields that say what was printed. -/
theorem exists_object?_ofFieldsWith (distinct : (typed.map (·.1)).Nodup)
    (apart : ∀ name ∈ typed.map (·.1), others.get? name = none) {further : Fields → Prop}
    (shown : ∀ fields : Fields, fields.Shows typed others → further fields) :
    ∃ fields, object? (.ofJson (ofFieldsWith typed others)) = some fields ∧ further fields :=
  ⟨_, object?_ofJson _, shown _ (shows_entriesWith distinct apart)⟩

theorem exists_object?_ofFields (distinct : (typed.map (·.1)).Nodup) {further : Fields → Prop}
    (shown : ∀ fields : Fields, fields.Shows typed .empty → further fields) :
    ∃ fields, object? (.ofJson (ofFields typed)) = some fields ∧ further fields :=
  exists_object?_ofFieldsWith distinct (fun _ _ => rfl) shown

/-- A type that carries its other fields along refuses repeated names, and a printed object has
none. -/
theorem exists_extensible?_ofFieldsWith {names : List String}
    (distinct : (typed.map (·.1)).Nodup)
    (apart : ∀ name ∈ typed.map (·.1), others.get? name = none) {further : Fields → Prop}
    (shown : ∀ fields : Fields, fields.Shows typed others → further fields) :
    ∃ fields, extensible? names (.ofJson (ofFieldsWith typed others)) = some fields ∧
      further fields := by
  have shows := shows_entriesWith distinct apart
  refine ⟨_, ?_, shown _ shows⟩
  rw [extensible?, ofFieldsWith, ofFields, object?_ofJson, Option.filter_some,
    if_pos (shows.areSingle names)]

theorem exists_extensible?_ofFields {names : List String} (distinct : (typed.map (·.1)).Nodup)
    {further : Fields → Prop}
    (shown : ∀ fields : Fields, fields.Shows typed .empty → further fields) :
    ∃ fields, extensible? names (.ofJson (ofFields typed)) = some fields ∧ further fields :=
  exists_extensible?_ofFieldsWith distinct (fun _ _ => rfl) shown

/-- A record is printed as an object, though it may be read from a list as well. -/
theorem exists_record?_ofFields {names : List String} {least : Nat}
    (distinct : (typed.map (·.1)).Nodup) {further : Fields → Prop}
    (shown : ∀ fields : Fields, fields.Shows typed .empty → further fields) :
    ∃ fields, record? names least (.ofJson (ofFields typed)) = some fields ∧ further fields :=
  exists_extensible?_ofFields distinct shown

end Printed

theorem shows_toList (map : SortedMap String Json) :
    (Fields.ofEntries map.toList).Shows [] map where
  field here := nomatch here
  other _ := filter_ofEntries map.ascending _
  rest := by simp

end NodeSync.Json
