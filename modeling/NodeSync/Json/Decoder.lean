/-
Module: NodeSync.Json.Decoder
Purpose: Typed views of what a JSON text says. A view is `none` where the text says something of
  another type or outside the range; the views of a field differ in what an absent field and a null
  mean. Only the parts that a view asks for need to have a value.
Main exports: Decoder, Fields, Json.object?, Json.extensible?, Json.record?, Json.text?,
  Json.integer?, Json.list?, Json.texts?, Fields.required?, Fields.optional?, Fields.orElse?,
  Fields.defaulted?, Fields.others?
-/
import NodeSync.Json.Document

namespace NodeSync.Json

set_option autoImplicit false

/-- A typed view. -/
abbrev Decoder (α : Type) := Document → Option α

/-- The fields of an object in the order of the text. A name may be there more than once. -/
abbrev Fields := List (String × Document)

def array? : Decoder (List Document)
  | .array items => some items
  | _ => none

def text? : Decoder String
  | .string value => some value
  | _ => none

def bool? : Decoder Bool
  | .bool value => some value
  | _ => none

/-- An integer between two bounds, both included. -/
def integer? (low high : Int) : Decoder Int
  | .number (.integer value) => if low ≤ value ∧ value ≤ high then some value else none
  | _ => none

/-- A natural number up to a bound. -/
def natural? (high : Nat) : Decoder Nat := fun value =>
  (integer? 0 high value).map Int.toNat

/-- The fields of an object, in which names may be repeated. -/
def object? : Decoder Fields
  | .object fields => fields.mapM fun field => field.1.map (·, field.2)
  | _ => none

/-- Whether none of the given names is repeated. -/
def Fields.areSingle (fields : Fields) (names : List String) : Bool :=
  names.all fun name => (fields.filter (·.1 == name)).length ≤ 1

/-- The fields of an object that may have others than the named ones; these are not repeated. -/
def extensible? (names : List String) : Decoder Fields := fun value =>
  (object? value).filter fun fields => Fields.areSingle fields names

/-- The fields of a record, which may also be written as the list of their values in a fixed order;
such a list has at least `least` of them. -/
def record? (names : List String) (least : Nat) : Decoder Fields
  | .array items =>
      if least ≤ items.length ∧ items.length ≤ names.length then some (names.zip items) else none
  | value => extensible? names value

/-- A list of values of one type. -/
def list? {α : Type} (item : Decoder α) : Decoder (List α)
  | .array items => items.mapM item
  | _ => none

/-- A map of values of one type; the last value of a repeated name wins. -/
def map? {α : Type} (item : Decoder α) : Decoder (SortedMap String α) := fun value => do
  let fields ← object? value
  (fields.mapM fun field => (item field.2).map (field.1, ·)).map SortedMap.ofList

/-- A map of texts. -/
def texts? : Decoder (SortedMap String String) := map? text?

/-- Null, or a value of the given type. -/
def nullable? {α : Type} (item : Decoder α) : Decoder (Option α)
  | .null => some none
  | value => (item value).map some

namespace Fields

variable {α : Type}

/-- The value of a field, if there is one. Every field of the name has to be of the given type, and
the last one wins. -/
def last? (fields : Fields) (name : String) (item : Decoder α) : Option (Option α) :=
  ((fields.filter (·.1 == name)).mapM fun field => item field.2).map List.getLast?

/-- The value of a field that has to be there. -/
def required? (fields : Fields) (name : String) (item : Decoder α) : Option α :=
  (fields.last? name item).join

/-- The value of a field that may be absent or null. -/
def optional? (fields : Fields) (name : String) (item : Decoder α) : Option (Option α) :=
  (fields.last? name (nullable? item)).map Option.join

/-- The value of a field that may be absent or null, both meaning a fixed value. -/
def orElse? (fields : Fields) (name : String) (fallback : α) (item : Decoder α) : Option α :=
  (fields.optional? name item).map (·.getD fallback)

/-- The value of a field that may be absent, which means a fixed value; a null is no value. -/
def defaulted? (fields : Fields) (name : String) (fallback : α) (item : Decoder α) : Option α :=
  (fields.last? name item).map (·.getD fallback)

/-- The fields other than the named ones, as they are; every one of them has to have a value. -/
def others? (fields : Fields) (names : List String) : Option (SortedMap String Json) := do
  let others := fields.filter fun field => !names.contains field.1
  let values ← others.mapM fun (name, value) => value.json?.map (name, ·)
  some (SortedMap.ofList values)

end Fields

end NodeSync.Json
