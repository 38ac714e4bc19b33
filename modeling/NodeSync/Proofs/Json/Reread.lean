/-
Module: NodeSync.Proofs.Json.Reread
Purpose: A printed value is read as it is, if its arrays and objects are nested no deeper than the
  reader looks and all its numbers are lasting; what is nested deeper has no value. The tokens of a
  value put what is read of it into the array or object that is open.
Main exports: Json.depth, Json.seen, Json.seen_eq, Json.IsLasting, Runs, Json.runs_tokens,
  Json.read?_print, Json.IsLasting.read?_print
-/
import NodeSync.Json.Reader
import NodeSync.Proofs.Json.Lexed

namespace NodeSync

open NodeSync.Json

set_option autoImplicit false

namespace Json

mutual

/-- How deep arrays and objects are nested in a value. -/
def depth : Json → Nat
  | .array items => itemsDepth items + 1
  | .object fields => fieldsDepth fields + 1
  | _ => 0

/-- How deep they are nested in the items of an array. -/
def itemsDepth : List Json → Nat
  | [] => 0
  | item :: rest => max (depth item) (itemsDepth rest)

/-- How deep they are nested in the fields of an object. -/
def fieldsDepth : List (String × Json) → Nat
  | [] => 0
  | (_, value) :: rest => max (depth value) (fieldsDepth rest)

end

mutual

/-- What is read of a value where arrays and objects are looked at down to a limit. -/
def seen : Nat → Json → Document
  | _, .null => .null
  | _, .bool value => .bool value
  | _, .number value => .number value
  | _, .string value => .string value
  | 0, .array _ => .unreadable
  | limit + 1, .array items => .array (seenItems limit items)
  | 0, .object _ => .unreadable
  | limit + 1, .object fields => .object (seenFields limit fields)

/-- What is read of the items of an array. -/
def seenItems : Nat → List Json → List Document
  | _, [] => []
  | limit, item :: rest => seen limit item :: seenItems limit rest

/-- What is read of the fields of an object. -/
def seenFields : Nat → List (String × Json) → List (Option String × Document)
  | _, [] => []
  | limit, (name, value) :: rest => (some name, seen limit value) :: seenFields limit rest

end

mutual

/-- All is read of a value that is nested no deeper than the limit. -/
theorem seen_eq : ∀ {value : Json} {limit : Nat}, value.depth ≤ limit →
    seen limit value = .ofJson value
  | .null, _, _ => by rw [seen, Document.ofJson]
  | .bool _, _, _ => by rw [seen, Document.ofJson]
  | .number _, _, _ => by rw [seen, Document.ofJson]
  | .string _, _, _ => by rw [seen, Document.ofJson]
  | .array items, limit + 1, within => by
      rw [seen, Document.ofJson, seenItems_eq (Nat.le_of_succ_le_succ within)]
  | .object fields, limit + 1, within => by
      rw [seen, Document.ofJson, seenFields_eq (Nat.le_of_succ_le_succ within)]

/-- So it is of the items of an array. -/
theorem seenItems_eq : ∀ {items : List Json} {limit : Nat}, itemsDepth items ≤ limit →
    seenItems limit items = Document.ofItems items
  | [], _, _ => rfl
  | item :: rest, _, within => by
      obtain ⟨first, others⟩ := Nat.max_le.mp within
      rw [seenItems, Document.ofItems, seen_eq first, seenItems_eq others]

/-- So it is of the fields of an object. -/
theorem seenFields_eq : ∀ {fields : List (String × Json)} {limit : Nat},
    fieldsDepth fields ≤ limit → seenFields limit fields = Document.ofFields fields
  | [], _, _ => rfl
  | (name, value) :: rest, _, within => by
      obtain ⟨first, others⟩ := Nat.max_le.mp within
      rw [seenFields, Document.ofFields, seen_eq first, seenFields_eq others]

end

/-- A value that outlasts being written and read. -/
structure IsLasting (value : Json) : Prop where
  depth : value.depth ≤ Reader.maxDepth
  numbers : value.lasts = true

instance (value : Json) : Decidable value.IsLasting :=
  decidable_of_iff (value.depth ≤ Reader.maxDepth ∧ value.lasts = true)
    ⟨fun both => ⟨both.1, both.2⟩, fun lasting => ⟨lasting.depth, lasting.numbers⟩⟩

/-! ## Reading tokens -/

/-- Reading tokens takes the reader from one state to another. -/
def Runs (tokens : List Token) (before after : Reader) : Prop :=
  tokens.foldlM Reader.step before = some after

section Runs

variable {token : Token} {first second : List Token} {before middle after : Reader}

theorem Runs.cons (step : before.step token = some middle) (rest : Runs first middle after) :
    Runs (token :: first) before after := by
  rw [Runs, List.foldlM_cons, step]
  exact rest

theorem runs_of_step (step : before.step token = some after) : Runs [token] before after :=
  Runs.cons step rfl

/-- A run goes on where another one ends. -/
theorem Runs.append (start : Runs first before middle) (rest : Runs second middle after) :
    Runs (first ++ second) before after := by
  rw [Runs, List.foldlM_append, start]
  exact rest

end Runs

/-- Where a value may come next. -/
def Expected.IsValue (expected : Expected) : Prop := expected = .value ∨ expected = .firstItem

/-- Where the name of a field may come next. -/
def Expected.IsKey (expected : Expected) : Prop := expected = .key ∨ expected = .firstKey

section Steps

variable {expected : Expected} (outer : List Frame) (reversed : List Document)
  (named : List (Option String × Document)) (key : Option String)

/-- Words and texts are values, and complete what awaits one. -/
theorem step_word (value : Document) (awaited : expected.IsValue) :
    Reader.step ⟨outer, expected, none⟩ (.word value) = some (Reader.complete outer value) := by
  rcases awaited with rfl | rfl <;> rfl

theorem step_text (value : String) (awaited : expected.IsValue) :
    Reader.step ⟨outer, expected, none⟩ (.text (some value)) =
      some (Reader.complete outer (.string value)) := by
  rcases awaited with rfl | rfl <;> rfl

/-- A bracket opens a frame, inside the ones that are open. -/
theorem step_openArray (awaited : expected.IsValue) :
    Reader.step ⟨outer, expected, none⟩ .openArray =
      some ⟨.array [] :: outer, .firstItem, none⟩ := by
  rcases awaited with rfl | rfl <;> rfl

theorem step_openObject (awaited : expected.IsValue) :
    Reader.step ⟨outer, expected, none⟩ .openObject =
      some ⟨.object [] none :: outer, .firstKey, none⟩ := by
  rcases awaited with rfl | rfl <;> rfl

/-- In an object, a text before a colon is a name. -/
theorem step_name (name : String) (awaited : expected.IsKey) :
    Reader.step ⟨.object named key :: outer, expected, none⟩ (.text (some name)) =
      some ⟨.object named (some name) :: outer, .colon, none⟩ := by
  rcases awaited with rfl | rfl <;> rfl

theorem step_colon : Reader.step ⟨outer, .colon, none⟩ .colon = some ⟨outer, .value, none⟩ := rfl

theorem step_nextItem : Reader.step ⟨.array reversed :: outer, .separator, none⟩ .comma =
    some ⟨.array reversed :: outer, .value, none⟩ := rfl

theorem step_nextField : Reader.step ⟨.object named key :: outer, .separator, none⟩ .comma =
    some ⟨.object named key :: outer, .key, none⟩ := rfl

/-- A closing bracket completes the items of the innermost frame, which were kept in reverse. -/
theorem step_closeArray (closable : expected = .firstItem ∨ expected = .separator) :
    Reader.step ⟨.array reversed :: outer, expected, none⟩ .closeArray =
      some (Reader.completeNested outer (.array reversed.reverse)) := by
  rcases closable with rfl | rfl <;> rfl

theorem step_closeObject (closable : expected = .firstKey ∨ expected = .separator) :
    Reader.step ⟨.object named key :: outer, expected, none⟩ .closeObject =
      some (Reader.completeNested outer (.object named.reverse)) := by
  rcases closable with rfl | rfl <;> rfl

end Steps

/-- How many more arrays and objects are looked at inside the open ones. -/
def room (outer : List Frame) : Nat := Reader.maxDepth - outer.length

theorem room_cons (frame : Frame) (outer : List Frame) :
    room (frame :: outer) = room outer - 1 := by
  rw [room, room, List.length_cons, Nat.sub_add_eq]

/-- A closed array or object is kept if it was opened within the limit. -/
theorem completeNested_eq (outer : List Frame) (part : Document) :
    Reader.completeNested outer part =
      Reader.complete outer (if room outer = 0 then .unreadable else part) := by
  have within : Reader.isWithinDepth outer = true ↔ room outer ≠ 0 := by
    rw [Reader.isWithinDepth, List.isEmpty_iff, List.drop_eq_nil_iff, room]
    simp only [Reader.maxDepth]
    omega
  rw [Reader.completeNested]
  by_cases none : room outer = 0
  · rw [if_pos none, if_neg fun deep => within.mp deep none]
  · rw [if_neg none, if_pos (within.mpr none)]

/-- An array that is nested too deeply is passed over when it is complete. -/
theorem completeNested_array (outer : List Frame) (items : List Json) :
    Reader.completeNested outer (.array (seenItems (room outer - 1) items)) =
      Reader.complete outer (seen (room outer) (.array items)) := by
  rw [completeNested_eq]
  cases room outer <;> rfl

theorem completeNested_object (outer : List Frame) (fields : List (String × Json)) :
    Reader.completeNested outer (.object (seenFields (room outer - 1) fields)) =
      Reader.complete outer (seen (room outer) (.object fields)) := by
  rw [completeNested_eq]
  cases room outer <;> rfl

mutual

/-- The tokens of a value put what is read of the value into what is open. -/
theorem runs_tokens : ∀ (value : Json) (outer : List Frame) {expected : Expected},
    expected.IsValue → Runs value.tokens ⟨outer, expected, none⟩
      (Reader.complete outer (seen (room outer) value))
  | .null, outer, _, awaited => runs_of_step (step_word outer .null awaited)
  | .bool value, outer, _, awaited => runs_of_step (step_word outer (.bool value) awaited)
  | .number value, outer, _, awaited => runs_of_step (step_word outer (.number value) awaited)
  | .string value, outer, _, awaited => runs_of_step (step_text outer value awaited)
  | .array items, outer, _, awaited => by
      have inner (filled : items ≠ []) := runs_itemTokens items filled outer [] (.inr rfl)
      rw [tokens, ← completeNested_array]
      refine .cons (step_openArray outer awaited) ?_
      cases items with
      | nil => exact runs_of_step (step_closeArray outer [] (.inl rfl))
      | cons item others =>
          have closes := step_closeArray outer
            ((seenItems (room outer - 1) (item :: others)).reverse ++ []) (.inr rfl)
          rw [List.append_nil, List.reverse_reverse, ← List.append_nil (List.reverse _)] at closes
          exact (inner (List.cons_ne_nil _ _)).append (runs_of_step closes)
  | .object fields, outer, _, awaited => by
      have inner (filled : fields ≠ []) := runs_fieldTokens fields filled outer [] (.inr rfl)
      rw [tokens, ← completeNested_object]
      refine .cons (step_openObject outer awaited) ?_
      cases fields with
      | nil => exact runs_of_step (step_closeObject outer [] none (.inl rfl))
      | cons field others =>
          have closes := step_closeObject outer
            ((seenFields (room outer - 1) (field :: others)).reverse ++ []) none (.inr rfl)
          rw [List.append_nil, List.reverse_reverse, ← List.append_nil (List.reverse _)] at closes
          exact (inner (List.cons_ne_nil _ _)).append (runs_of_step closes)

/-- The tokens of items put them into the array that is open. -/
theorem runs_itemTokens : ∀ (items : List Json) (_ : items ≠ []) (outer : List Frame)
    (reversed : List Document) {expected : Expected}, expected.IsValue →
      Runs (itemTokens items) ⟨.array reversed :: outer, expected, none⟩
        ⟨.array ((seenItems (room outer - 1) items).reverse ++ reversed) :: outer, .separator, none⟩
  | [], filled, _, _, _, _ => absurd rfl filled
  | [item], _, outer, reversed, _, awaited => by
      have own := runs_tokens item (.array reversed :: outer) awaited
      rw [room_cons] at own
      exact own
  | item :: next :: others, _, outer, reversed, _, awaited => by
      have first := runs_tokens item (.array reversed :: outer) awaited
      rw [room_cons] at first
      have later := runs_itemTokens (next :: others) (List.cons_ne_nil _ _) outer
        (seen (room outer - 1) item :: reversed) (.inl rfl)
      have all := first.append (.cons (step_nextItem outer _) later)
      rw [itemTokens, seenItems]
      simpa using all

/-- The tokens of fields put them into the object that is open. -/
theorem runs_fieldTokens : ∀ (fields : List (String × Json)) (_ : fields ≠ []) (outer : List Frame)
    (named : List (Option String × Document)) {expected : Expected}, expected.IsKey →
      Runs (fieldTokens fields) ⟨.object named none :: outer, expected, none⟩
        ⟨.object ((seenFields (room outer - 1) fields).reverse ++ named) none :: outer,
          .separator, none⟩
  | [], filled, _, _, _, _ => absurd rfl filled
  | [(name, value)], _, outer, named, _, awaited => by
      have own := runs_tokens value (.object named (some name) :: outer) (.inl rfl)
      rw [room_cons] at own
      exact .cons (step_name outer named none name awaited) (.cons (step_colon _) own)
  | (name, value) :: next :: others, _, outer, named, _, awaited => by
      have own := runs_tokens value (.object named (some name) :: outer) (.inl rfl)
      rw [room_cons] at own
      have first := Runs.cons (step_name outer named none name awaited) (.cons (step_colon _) own)
      have later := runs_fieldTokens (next :: others) (List.cons_ne_nil _ _) outer
        ((some name, seen (room outer - 1) value) :: named) (.inl rfl)
      have all := first.append (.cons (step_nextField outer _ none) later)
      rw [fieldTokens, seenFields]
      simpa using all

end

/-- What is read of a printed value: all of it down to the limit, if its numbers are lasting. -/
theorem read?_print {value : Json} (lasting : value.lasts = true) :
    Document.read? value.print = some (seen Reader.maxDepth value) := by
  have runs : Runs value.tokens Reader.initial
      ⟨[], .separator, some (seen Reader.maxDepth value)⟩ := runs_tokens value [] (.inl rfl)
  rw [Document.read?, tokens?_print lasting, Option.bind_some, runs]
  rfl

/-- A lasting value is read from its text as it is. -/
theorem IsLasting.read?_print {value : Json} (lasting : value.IsLasting) :
    Document.read? value.print = some (.ofJson value) := by
  rw [Json.read?_print lasting.numbers, seen_eq lasting.depth]

end Json

end NodeSync
