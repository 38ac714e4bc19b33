/-
Module: NodeSync.Proofs.Json.Stable
Purpose: Views whose printed values they accept again. A view is stable if what it finds in a text
  it finds, up to a rounding, in the printed form of that as well. Lists, maps and forms of stable
  views are stable, and each way of reading a field finds the same again in the printed fields.
Main exports: mapM_eq_some_iff, Stable, FieldForm.IsStable, Stable.list, Stable.map, Stable.ofView,
  Form.isStable_record, Fields.optional?_of_again, Fields.exists_others?, Fields.Shows.optional?,
  Fields.Shows.required?, Fields.Shows.defaulted?, Fields.Shows.others?, Fields.Shows.carried?
-/
import Mathlib.Data.List.Forall2
import NodeSync.Json.Form
import NodeSync.Proofs.Json.Printed

namespace NodeSync.Json

set_option autoImplicit false

variable {α : Type}

/-! ## Views of one part after the other -/

section Parts

variable {β : Type} {view : α → Option β} {parts : List α} {values : List β}

/-- A view that looks at one part after the other finds all of them. -/
theorem view_bind_eq_some_iff {part : Option α} {further : α → Option β} {value : β} :
    (part >>= further) = some value ↔ ∃ found, part = some found ∧ further found = some value :=
  Option.bind_eq_some_iff

/-- The values of a list of parts are those of its parts, one from each. -/
theorem mapM_eq_some_iff : parts.mapM view = some values ↔
    List.Forall₂ (fun part value => view part = some value) parts values := by
  induction parts generalizing values with
  | nil =>
      rw [List.mapM_nil, List.forall₂_nil_left_iff, Option.pure_def, Option.some.injEq, eq_comm]
  | cons part rest ih =>
      simp only [List.mapM_cons, view_bind_eq_some_iff, Option.pure_def, Option.some.injEq, ih,
        List.forall₂_cons_left_iff]
      constructor
      · rintro ⟨value, accepted, others, found, rfl⟩
        exact ⟨value, others, accepted, found, rfl⟩
      · rintro ⟨value, others, accepted, found, rfl⟩
        exact ⟨value, accepted, others, found, rfl⟩

theorem exists_of_mem_mapM {value : β} (read : parts.mapM view = some values)
    (inside : value ∈ values) : ∃ part ∈ parts, view part = some value := by
  induction mapM_eq_some_iff.mp read with
  | nil => cases inside
  | cons accepted others ih =>
      rcases List.mem_cons.mp inside with rfl | later
      · exact ⟨_, List.mem_cons_self, accepted⟩
      · obtain ⟨other, listed, accepted⟩ := ih (mapM_eq_some_iff.mpr others) later
        exact ⟨other, List.mem_cons_of_mem _ listed, accepted⟩

theorem exists_of_mapM (read : parts.mapM view = some values) :
    ∀ part ∈ parts, ∃ value, view part = some value := by
  induction mapM_eq_some_iff.mp read with
  | nil => exact nofun
  | cons accepted others ih =>
      exact List.forall_mem_cons.mpr ⟨⟨_, accepted⟩, ih (mapM_eq_some_iff.mpr others)⟩

theorem getLast?_of_mapM (read : parts.mapM view = some values) :
    values.getLast? = parts.getLast?.bind view := by
  have reversed := List.forall₂_reverse_iff.mpr (mapM_eq_some_iff.mp read)
  rw [← List.head?_reverse, ← List.head?_reverse]
  generalize parts.reverse = parts, values.reverse = values at reversed
  cases reversed with
  | nil => rfl
  | cons accepted others => exact accepted.symm

theorem mapM_eq_some_map (found : α → β) (all : ∀ part ∈ parts, view part = some (found part)) :
    parts.mapM view = some (parts.map found) :=
  mapM_eq_some_iff.mpr (List.forall₂_map_right_iff.mpr (List.forall₂_same.mpr all))

end Parts

/-! ## Stable views -/

/-- A view that accepts what is printed of its values, and finds the same in it up to a rounding.
Only a null is printed as null. -/
structure Stable (view : Decoder α) (toJson : α → Json) (round : α → α) : Prop where
  again : ∀ {document value}, view document = some value →
    view (.ofJson (toJson value)) = some (round value)
  filled : ∀ {document value}, view document = some value → document ≠ .null →
    toJson value ≠ .null

/-- A form is stable if it keeps all of what is kept. -/
abbrev Form.IsStable (form : Form) : Prop := Stable form id id

/-- So is a field of a record, if that is true of its form, and of what is kept if it is absent. -/
structure FieldForm.IsStable (field : FieldForm) : Prop where
  form : field.form.IsStable
  fallback : ∀ kept, field.fallback = some kept →
    kept ≠ .null ∧ field.form (.ofJson kept) = some kept

theorem stable_text : Stable text? .string id where
  again read := by
    unfold text? at read
    split at read
    · cases read
      rfl
    · cases read
  filled _ _ := nofun

theorem stable_bool : Stable bool? .bool id where
  again read := by
    unfold bool? at read
    split at read
    · cases read
      rfl
    · cases read
  filled _ _ := nofun

/-- An integer within its bounds is read from its print. -/
theorem stable_integer (low high : Int) : Stable (integer? low high) ofInt id where
  again read := by
    unfold integer? at read
    split at read
    · split at read
      · rename_i within
        cases read
        exact if_pos within
      · cases read
    · cases read
  filled _ _ := nofun

/-- Any value is kept as a whole. -/
theorem Form.isStable_any : Form.any.IsStable where
  again read := faithful_of_json? read
  filled {document value} read other := by
    rintro rfl
    cases document with
    | null => exact other rfl
    | array items => simp [Form.any, Document.json?] at read
    | object fields => simp [Form.any, Document.json?] at read
    | _ => cases read

/-- What is kept by a stable view is kept again, if rounding does not show in print. -/
theorem Stable.ofView {view : Decoder α} {toJson : α → Json} {round : α → α}
    (stable : Stable view toJson round) (printed : ∀ value, toJson (round value) = toJson value) :
    (Form.ofView view toJson).IsStable where
  again read := by
    obtain ⟨value, found, rfl⟩ := Option.map_eq_some_iff.mp read
    exact Option.map_eq_some_iff.mpr ⟨_, stable.again found, printed value⟩
  filled read other := by
    obtain ⟨value, found, rfl⟩ := Option.map_eq_some_iff.mp read
    exact stable.filled found other

theorem Document.ofItems_eq (items : List Json) : Document.ofItems items = items.map .ofJson := by
  induction items with
  | nil => rfl
  | cons item rest ih => simp [Document.ofItems, ih]

/-- A list of parts that a stable view accepts. -/
theorem Stable.list {item : Decoder α} {toJson : α → Json} {round : α → α}
    (stable : Stable item toJson round) :
    Stable (list? item) (fun values => .array (values.map toJson)) (List.map round) where
  again {document values} read := by
    unfold list? at read
    split at read
    · have accepted : ∀ value ∈ values, item (.ofJson (toJson value)) = some (round value) := by
        intro value inside
        obtain ⟨part, -, found⟩ := exists_of_mem_mapM read inside
        exact stable.again found
      rw [Document.ofJson, Document.ofItems_eq, list?, List.map_map, List.mapM_map]
      exact mapM_eq_some_map round accepted
    · cases read
  filled _ _ := nofun

/-! ## Fields that are read again -/

/-- What is read where a null may stand is no null. -/
theorem nullable?_eq_some_some {view : Decoder α} {document : Document} {value : α}
    (read : nullable? view document = some (some value)) :
    document ≠ .null ∧ view document = some value := by
  unfold nullable? at read
  split at read
  · cases read
  · rename_i other
    exact ⟨other, by simpa using read⟩

theorem eq_null_of_nullable? {view : Decoder α} {document : Document}
    (read : nullable? view document = some none) : document = .null := by
  unfold nullable? at read
  split at read
  · rfl
  · simp at read

/-- A print that is no null is read as what it prints. -/
theorem nullable?_ofJson {view : Decoder α} {printed : Json} (filled : printed ≠ .null) :
    nullable? view (.ofJson printed) = (view (.ofJson printed)).map some := by
  cases printed with
  | null => exact absurd rfl filled
  | _ => rfl

namespace Fields

/-- The last field of a name. -/
def find? (fields : Fields) (name : String) : Option Document := Entries.lookup name fields.reverse

/-- Of repeated fields the last one counts. -/
theorem find?_eq_getLast? (fields : Fields) (name : String) :
    fields.find? name = (fields.filter (·.1 == name)).getLast?.map (·.2) := by
  have first (entries : Fields) :
      Entries.lookup name entries = (entries.filter (·.1 == name)).head?.map (·.2) := by
    induction entries with
    | nil => rfl
    | cons entry rest ih =>
        rw [Entries.lookup_cons, ih]
        by_cases same : name = entry.1
        · subst same
          simp [Std.ReflOrd.compare_self]
        · have other : (entry.1 == name) = false := by simpa using Ne.symm same
          rw [if_neg (Entries.compare_ne_eq same), List.filter_cons, other]
          rfl
  rw [find?, first, List.filter_reverse, List.head?_reverse]

section Again

variable {fields shown : Fields} {typed : List (String × Option Json)}
  {others : SortedMap String Json} {name : String} {view : Decoder α} {toJson : α → Json}
  {round : α → α} {value fallback : α}

/-- The value that is found is that of the last field of the name, if there is one. -/
theorem find?_of_last? {found : Option α} (read : fields.last? name view = some found) :
    found = (fields.find? name).bind view ∧ (found = none → fields.find? name = none) := by
  obtain ⟨values, all, rfl⟩ := Option.map_eq_some_iff.mp read
  have last := getLast?_of_mapM all
  rw [find?_eq_getLast?, last]
  cases here : (fields.filter (·.1 == name)).getLast? with
  | none => exact ⟨rfl, fun _ => rfl⟩
  | some field =>
      refine ⟨rfl, fun absent => ?_⟩
      obtain ⟨value, accepted⟩ := exists_of_mapM all field (List.mem_of_getLast? here)
      rw [Option.bind_some, accepted] at absent
      cases absent

/-- A value that is found comes from a part that the view accepts. -/
theorem exists_of_last? (read : fields.last? name view = some (some value)) :
    ∃ document, fields.find? name = some document ∧ view document = some value :=
  Option.bind_eq_some_iff.mp (find?_of_last? read).1.symm

/-- A field that is not said is absent. -/
theorem last?_of_absent (said : shown.filter (·.1 == name) = saying name none) :
    shown.last? name view = some none := by
  rw [last?, said]
  rfl

theorem last?_of_printed {printed : Json}
    (said : shown.filter (·.1 == name) = saying name (some printed)) :
    shown.last? name view = (view (.ofJson printed)).map some := by
  rw [last?, said]
  simp [saying]
  cases view (.ofJson printed) <;> rfl

/-- An optional field is found again if its value is. -/
theorem optional?_of_again {value : Option α}
    (again : ∀ {present}, value = some present →
      toJson present ≠ .null ∧ view (.ofJson (toJson present)) = some (round present))
    (said : shown.filter (·.1 == name) = saying name (value.map toJson)) :
    shown.optional? name view = some (value.map round) := by
  cases value with
  | none =>
      rw [optional?, last?_of_absent said]
      rfl
  | some value =>
      obtain ⟨filled, accepted⟩ := again rfl
      rw [optional?, last?_of_printed said, nullable?_ofJson filled, accepted]
      rfl

/-- The value of an optional field comes from a part that is not null. -/
theorem exists_of_optional? (read : fields.optional? name view = some (some value)) :
    ∃ document, document ≠ .null ∧ view document = some value := by
  obtain ⟨found, last, joined⟩ := Option.map_eq_some_iff.mp read
  rw [Option.join_eq_some_iff] at joined
  subst joined
  obtain ⟨document, -, accepted⟩ := exists_of_last? last
  exact ⟨document, nullable?_eq_some_some accepted⟩

/-- The value of a field that has to be there comes from a part. -/
theorem exists_of_required? (read : fields.required? name view = some value) :
    ∃ document, view document = some value := by
  rw [required?, Option.join_eq_some_iff] at read
  obtain ⟨document, -, accepted⟩ := exists_of_last? read
  exact ⟨document, accepted⟩

/-- What a stable view finds is found again. -/
theorem optional?_again {value : Option α} (stable : Stable view toJson round)
    (read : fields.optional? name view = some value)
    (said : shown.filter (·.1 == name) = saying name (value.map toJson)) :
    shown.optional? name view = some (value.map round) := by
  refine optional?_of_again (fun {present} same => ?_) said
  subst same
  obtain ⟨document, other, accepted⟩ := exists_of_optional? read
  exact ⟨stable.filled accepted other, stable.again accepted⟩

/-- An optional field is read again from the print, or is absent again. -/
theorem Shows.optional? {value : Option α} (shows : shown.Shows typed others)
    (stable : Stable view toJson round) (read : fields.optional? name view = some value)
    (here : typed.lookup name = some (value.map toJson)) :
    shown.optional? name view = some (value.map round) :=
  optional?_again stable read (shows.field here)

/-- An optional text is found again whatever it is. -/
theorem Shows.optionalText? {text : Option String} (shows : shown.Shows typed others)
    (here : typed.lookup name = some (text.map .string)) :
    shown.optional? name text? = some text := by
  have again (present : String) : Json.string present ≠ .null ∧
      text? (.ofJson (.string present)) = some (id present) := ⟨nofun, rfl⟩
  simpa using optional?_of_again (fun _ => again _) (shows.field here)

/-- So is a field that is always printed. -/
theorem Shows.orElse?_of_again (shows : shown.Shows typed others) (filled : toJson value ≠ .null)
    (again : view (.ofJson (toJson value)) = some (round value))
    (here : typed.lookup name = some (some (toJson value))) :
    shown.orElse? name fallback view = some (round value) := by
  rw [Fields.orElse?, Fields.optional?, last?_of_printed (shows.field here),
    nullable?_ofJson filled, again]
  rfl

/-- A text that is always printed is read again, whatever stands for a missing one. -/
theorem Shows.orElse? {text fallback : String} (shows : shown.Shows typed others)
    (here : typed.lookup name = some (some (.string text))) :
    shown.orElse? name fallback text? = some text :=
  have again : text? (.ofJson (.string text)) = some (id text) := rfl
  shows.orElse?_of_again (nofun : Json.string text ≠ .null) again here

/-- So is a field that has to be there. -/
theorem Shows.required?_of_again (shows : shown.Shows typed others)
    (again : view (.ofJson (toJson value)) = some (round value))
    (here : typed.lookup name = some (some (toJson value))) :
    shown.required? name view = some (round value) := by
  rw [Fields.required?, last?_of_printed (shows.field here), again]
  rfl

/-- A required field is read again from the print. -/
theorem Shows.required? (shows : shown.Shows typed others) (stable : Stable view toJson round)
    (read : fields.required? name view = some value)
    (here : typed.lookup name = some (some (toJson value))) :
    shown.required? name view = some (round value) :=
  have ⟨_, accepted⟩ := exists_of_required? read
  shows.required?_of_again (stable.again accepted) here

/-- So is a field with a fixed value that is meant if it is absent. The field may be left out where
it has that value. -/
theorem Shows.defaulted? {printed : Option Json} (shows : shown.Shows typed others)
    (stable : Stable view toJson round)
    (base : view (.ofJson (toJson fallback)) = some (round fallback))
    (read : fields.defaulted? name fallback view = some value)
    (here : typed.lookup name = some printed)
    (said : printed = some (toJson value) ∨ printed = none ∧ round value = fallback) :
    shown.defaulted? name fallback view = some (round value) := by
  have again : view (.ofJson (toJson value)) = some (round value) := by
    obtain ⟨found, last, rfl⟩ := Option.map_eq_some_iff.mp read
    cases found with
    | none => exact base
    | some value =>
        obtain ⟨document, -, accepted⟩ := exists_of_last? last
        exact stable.again accepted
  rcases said with rfl | ⟨rfl, same⟩
  · rw [Fields.defaulted?, last?_of_printed (shows.field here), again]
    rfl
  · rw [Fields.defaulted?, last?_of_absent (shows.field here), same]
    rfl

end Again

/-! ## Fields that are carried along -/

section Others

variable {fields shown : Fields} {typed : List (String × Option Json)} {names : List String}
  {others : SortedMap String Json}

/-- What is carried along has other names than the typed fields. -/
theorem mem_others {entry : String × Json} (read : fields.others? names = some others)
    (inside : entry ∈ others.toList) : entry.1 ∉ names ∧ entry.2.Faithful := by
  simp only [others?, Option.bind_eq_bind, Option.bind_eq_some_iff] at read
  obtain ⟨values, all, same⟩ := read
  cases same
  obtain ⟨⟨name, document⟩, kept, found⟩ :=
    exists_of_mem_mapM all (Entries.mem_of_mem_ofList inside)
  obtain ⟨value, accepted, rfl⟩ := Option.map_eq_some_iff.mp found
  have outside := (List.mem_filter.mp kept).2
  exact ⟨by simpa using outside, faithful_of_json? accepted⟩

/-- Fields have a value each where all that are not named do. -/
theorem exists_others? (valued : ∀ field ∈ fields, field.1 ∉ names →
    ∃ value, field.2.json? = some value) : ∃ others, fields.others? names = some others := by
  have found : ∀ field ∈ fields.filter fun field => !names.contains field.1,
      field.2.json?.map (field.1, ·) = some (field.1, field.2.json?.getD .null) := by
    intro field kept
    obtain ⟨inside, unnamed⟩ := List.mem_filter.mp kept
    obtain ⟨value, read⟩ := valued field inside (by simpa using unnamed)
    rw [read]
    rfl
  exact ⟨_, by
    simp only [others?, mapM_eq_some_map _ found, Option.bind_eq_bind, Option.bind_some]; rfl⟩

theorem others_get?_eq_none {name : String} (read : fields.others? names = some others)
    (listed : name ∈ names) : others.get? name = none := by
  cases found : others.get? name with
  | none => rfl
  | some value =>
      exact absurd listed (mem_others read (SortedMap.get?_eq_some_iff_mem.mp found)).1

/-- Under another name stands the value of the last field of the name. -/
theorem others_get?_eq_find? {name : String} (read : fields.others? names = some others)
    (unlisted : name ∉ names) :
    (fields.find? name).map Document.json? = (others.get? name).map some := by
  simp only [Fields.others?, Option.bind_eq_bind, Option.bind_eq_some_iff] at read
  obtain ⟨values, all, same⟩ := read
  cases same
  have outside : (!names.contains name) = true := by simpa using unlisted
  have kept : fields.find? name =
      Entries.lookup name (fields.filter fun field => !names.contains field.1).reverse := by
    rw [find?, ← List.filter_reverse, Entries.lookup_filter_key fun name => !names.contains name,
      if_pos outside]
  have look : (SortedMap.ofList values).get? name = Entries.lookup name values.reverse :=
    Entries.lookup_ofList name values
  rw [kept, look]
  have reversed := List.forall₂_reverse_iff.mpr (mapM_eq_some_iff.mp all)
  clear look kept all
  generalize (fields.filter fun field => !names.contains field.1).reverse = others,
    values.reverse = values at reversed
  induction reversed with
  | nil => rfl
  | cons first later ih =>
      obtain ⟨value, accepted, rfl⟩ := Option.map_eq_some_iff.mp first
      rw [Entries.lookup_cons, Entries.lookup_cons]
      split
      · rw [Option.map_some, Option.map_some, accepted]
      · exact ih

/-- The other fields are found again. -/
theorem Shows.others? (shows : shown.Shows typed others)
    (read : fields.others? names = some others) (all : typed.map (·.1) = names) :
    shown.others? names = some others := by
  have kept := shows.rest
  rw [all] at kept
  have values : (ofEntries others.toList).mapM
      (fun field => field.2.json?.map (field.1, ·)) = some others.toList := by
    rw [ofEntries, List.mapM_map]
    refine (mapM_eq_some_map id fun entry inside => ?_).trans (by simp)
    have faithful : (Document.ofJson entry.2).json? = some entry.2 := (mem_others read inside).2
    simp [faithful]
  simp only [Fields.others?, kept, values, Option.bind_eq_bind, Option.bind_some,
    SortedMap.ofList_toList]

end Others

section Carried

variable {fields shown : Fields} {typed : List (String × Option Json)} {forms : List FieldForm}
  {form : FieldForm} {kept : FieldForm → Option Json} {carried : SortedMap String Json}

/-- The map of what is kept of the named fields. -/
def keptMap (forms : List FieldForm) (kept : FieldForm → Option Json) : SortedMap String Json :=
  SortedMap.ofList ((forms.map fun form => (form.name, kept form)).filterMap
    fun entry => entry.2.map (entry.1, ·))

/-- Each form keeps its own field. -/
theorem get?_keptMap (distinct : (forms.map (·.name)).Nodup) (name : String) :
    (keptMap forms kept).get? name =
      ((forms.map fun form => (form.name, kept form)).lookup name).join := by
  have names : ((forms.map fun form => (form.name, kept form)).map (·.1)).Nodup := by
    simpa [Function.comp_def] using distinct
  rw [← lookup_filterMap_typed names, ← Entries.lookup_reverse (nodup_filterMap_typed names),
    ← Entries.lookup_ofList]
  rfl

theorem get?_keptMap_of_mem (distinct : (forms.map (·.name)).Nodup) (inside : form ∈ forms) :
    (keptMap forms kept).get? form.name = kept form := by
  rw [get?_keptMap distinct]
  induction forms with
  | nil => cases inside
  | cons head rest ih =>
      obtain ⟨fresh, tail⟩ := List.nodup_cons.mp distinct
      rcases List.mem_cons.mp inside with rfl | later
      · simp
      · have other : (form.name == head.name) = false := by
          simpa using fun equal : form.name = head.name =>
            fresh (List.mem_map.mpr ⟨form, later, equal⟩)
        simpa [List.lookup_cons, other] using ih tail later

theorem get?_keptMap_of_not_mem (distinct : (forms.map (·.name)).Nodup) {name : String}
    (absent : name ∉ forms.map (·.name)) : (keptMap forms kept).get? name = none := by
  rw [get?_keptMap distinct, lookup_eq_none_of_not_mem (by simpa using absent)]
  rfl

/-- What is carried along is what is kept of each field that a form names. -/
theorem carried?_eq_some_iff : fields.carried? forms = some carried ↔
    ∃ kept : FieldForm → Option Json, carried = keptMap forms kept ∧
      ∀ form ∈ forms, ∃ value, fields.optional? form.name form.form = some value ∧
        kept form = value.or form.fallback := by
  have entries (kept : FieldForm → Option Json)
      (all : ∀ form ∈ forms, ∃ value, fields.optional? form.name form.form = some value ∧
        kept form = value.or form.fallback) :
      fields.carried? forms = some (keptMap forms kept) := by
    have found : ∀ form ∈ forms, ((fields.optional? form.name form.form).map fun value =>
        (form.name, value.or form.fallback)) = some (form.name, kept form) := by
      intro form inside
      obtain ⟨value, accepted, keeps⟩ := all form inside
      rw [accepted, keeps]
      rfl
    simp only [carried?, mapM_eq_some_map _ found]
    rfl
  constructor
  · intro read
    have all : ∀ form ∈ forms, ∃ value, fields.optional? form.name form.form = some value ∧
        ((fields.optional? form.name form.form).getD none).or form.fallback =
          value.or form.fallback := by
      intro form inside
      simp only [carried?, Option.bind_eq_bind, Option.bind_eq_some_iff] at read
      obtain ⟨found, every, -⟩ := read
      obtain ⟨_, here⟩ := exists_of_mapM every form inside
      obtain ⟨value, accepted, -⟩ := Option.map_eq_some_iff.mp here
      exact ⟨value, accepted, by rw [accepted]; rfl⟩
    exact ⟨_, Option.some.inj (read.symm.trans (entries _ all)), all⟩
  · rintro ⟨kept, rfl, all⟩
    exact entries kept all

theorem carried_get?_eq_none (read : fields.carried? forms = some carried)
    (distinct : (forms.map (·.name)).Nodup) {name : String}
    (absent : ∀ form ∈ forms, form.name ≠ name) : carried.get? name = none := by
  obtain ⟨kept, rfl, -⟩ := carried?_eq_some_iff.mp read
  exact get?_keptMap_of_not_mem distinct (by simpa using absent)

/-- What is carried along is carried along again. -/
theorem Shows.carried? (shows : shown.Shows typed carried)
    (read : fields.carried? forms = some carried) (distinct : (forms.map (·.name)).Nodup)
    (stable : ∀ form ∈ forms, form.IsStable)
    (apart : ∀ form ∈ forms, typed.lookup form.name = none) :
    shown.carried? forms = some carried := by
  obtain ⟨kept, rfl, all⟩ := carried?_eq_some_iff.mp read
  refine carried?_eq_some_iff.mpr ⟨kept, rfl, fun form inside => ?_⟩
  obtain ⟨value, accepted, keeps⟩ := all form inside
  have said := shows.other (apart form inside)
  rw [get?_keptMap_of_mem distinct inside, keeps] at said
  rw [keeps]
  cases value with
  | some value => exact ⟨some value, optional?_again (stable form inside).form accepted said, rfl⟩
  | none =>
      cases fallback : form.fallback with
      | none =>
          rw [fallback] at said
          exact ⟨none, by rw [Fields.optional?, last?_of_absent said]; rfl, rfl⟩
      | some value =>
          rw [fallback] at said
          obtain ⟨filled, accepted⟩ := (stable form inside).fallback value fallback
          refine ⟨some value, ?_, rfl⟩
          rw [Fields.optional?, last?_of_printed said, nullable?_ofJson filled, accepted]
          rfl

end Carried

end Fields

/-! ## Maps and records -/

/-- A map of parts that a stable view accepts. -/
theorem Stable.map {item : Decoder α} {toJson : α → Json} (stable : Stable item toJson id) :
    Stable (map? item) (fun map => .object (map.toList.map fun entry => (entry.1, toJson entry.2)))
      id where
  again {document map} read := by
    simp only [map?, Option.bind_eq_bind, Option.bind_eq_some_iff, Option.map_eq_some_iff] at read
    obtain ⟨fields, -, entries, all, rfl⟩ := read
    have accepted : ∀ entry ∈ (SortedMap.ofList entries).toList,
        item (.ofJson (toJson entry.2)) = some entry.2 := by
      intro entry inside
      obtain ⟨field, -, found⟩ := exists_of_mem_mapM all (Entries.mem_of_mem_ofList inside)
      obtain ⟨value, accepted, rfl⟩ := Option.map_eq_some_iff.mp found
      exact stable.again accepted
    have values : (Fields.ofEntries ((SortedMap.ofList entries).toList.map fun entry =>
        (entry.1, toJson entry.2))).mapM (fun field => (item field.2).map (field.1, ·)) =
          some (SortedMap.ofList entries).toList := by
      rw [Fields.ofEntries, List.map_map, List.mapM_map]
      refine (mapM_eq_some_map id fun entry inside => ?_).trans (by simp)
      simp [accepted entry inside]
    simp [map?, object?_ofJson, values, SortedMap.ofList_toList]
  filled _ _ := nofun

/-- A record of fields that are kept again. -/
theorem Form.isStable_record {forms : List FieldForm} (distinct : (forms.map (·.name)).Nodup)
    (stable : ∀ form ∈ forms, form.IsStable) : (Form.record forms).IsStable := by
  have found : Stable (fun value => (object? value).bind (Fields.carried? · forms))
      (fun entries => .object entries.toList) id := by
    refine ⟨fun {document carried} read => ?_, fun _ _ => nofun⟩
    obtain ⟨fields, -, kept⟩ := Option.bind_eq_some_iff.mp read
    rw [object?_ofJson]
    exact (shows_toList carried).carried? kept distinct stable fun _ _ => rfl
  exact found.ofView fun _ => rfl

/-- A list is kept in the form of its items. -/
theorem Form.isStable_list {item : Form} (stable : item.IsStable) : (Form.list item).IsStable := by
  have items : Stable (list? item) .array id := by
    refine ⟨fun {document values} read => ?_, fun _ _ => nofun⟩
    simpa using stable.list.again read
  exact items.ofView fun _ => rfl

theorem Form.isStable_text : Form.text.IsStable := stable_text.ofView fun _ => rfl

theorem Form.isStable_bool : Form.bool.IsStable := stable_bool.ofView fun _ => rfl

theorem Form.isStable_integer (low high : Int) : (Form.ofView (integer? low high) ofInt).IsStable :=
  (stable_integer low high).ofView fun _ => rfl

theorem Form.isStable_mapping {item : Form} (stable : item.IsStable) :
    (Form.mapping item).IsStable := by
  have entries : Stable (map? item) (fun entries => .object entries.toList) id := by
    refine ⟨fun {document map} read => ?_, fun _ _ => nofun⟩
    simpa using stable.map.again read
  exact entries.ofView fun _ => rfl

theorem FieldForm.isStable_text (name : String) : (FieldForm.text name).IsStable where
  form := Form.isStable_text
  fallback kept same := by
    cases same
    exact ⟨nofun, rfl⟩

theorem FieldForm.isStable_optional {name : String} {form : Form} (stable : form.IsStable) :
    (FieldForm.optional name form).IsStable := ⟨stable, nofun⟩

end NodeSync.Json
