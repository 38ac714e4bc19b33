/-
Module: NodeSync.Json.Document
Purpose: What a JSON text says, part by part. The fields of an object are kept in the order of the
  text, repeated names included. A part may follow the grammar and still have no value; that
  matters only to a reader who looks at the part.
Main exports: Document, Document.json?, Document.ofJson
-/
import NodeSync.Json.Value

namespace NodeSync.Json

set_option autoImplicit false

/-- A part of a JSON text. The name of a field is missing where it has no value. -/
inductive Document where
  | null
  | bool (value : Bool)
  | number (value : Number)
  | string (value : String)
  | array (items : List Document)
  | object (fields : List (Option String × Document))
  /-- A number beyond double precision, a text that is no Unicode, or an array or object nested too
  deep. -/
  | unreadable
deriving Inhabited

namespace Document

/-- A text that may have no value. -/
def ofText : Option String → Document
  | some value => .string value
  | none => .unreadable

mutual

/-- The value of a part, if every part of it has one. Of fields with one name the last counts. -/
def json? : Document → Option Json
  | .null => some .null
  | .bool value => some (.bool value)
  | .number value => some (.number value)
  | .string value => some (.string value)
  | .array items => (itemsJson? items).map .array
  | .object fields => (fieldsJson? fields).map fun fields => .object (Entries.ofList fields)
  | .unreadable => none

/-- The values of the items of an array. -/
def itemsJson? : List Document → Option (List Json)
  | [] => some []
  | item :: rest => do some ((← json? item) :: (← itemsJson? rest))

/-- The values of the fields of an object. -/
def fieldsJson? : List (Option String × Document) → Option (List (String × Json))
  | [] => some []
  | (name, value) :: rest => do some ((← name, ← json? value) :: (← fieldsJson? rest))

end

mutual

/-- A value as the text that says it. -/
def ofJson : Json → Document
  | .null => .null
  | .bool value => .bool value
  | .number value => .number value
  | .string value => .string value
  | .array items => .array (ofItems items)
  | .object fields => .object (ofFields fields)

/-- The items of an array. -/
def ofItems : List Json → List Document
  | [] => []
  | item :: rest => ofJson item :: ofItems rest

/-- The fields of an object. -/
def ofFields : List (String × Json) → List (Option String × Document)
  | [] => []
  | (name, value) :: rest => (some name, ofJson value) :: ofFields rest

end

end Document

end NodeSync.Json
