/-
Module: NodeSync.Json.Reader
Purpose: Reading a JSON text: one pass over its tokens with a stack of the arrays and objects
  that are still open. Those nested more than 127 deep follow the grammar but have no value.
Main exports: Document.read?, Json.read?
-/
import NodeSync.Json.Token

namespace NodeSync.Json

set_option autoImplicit false

/-- An array or object that is still open. -/
inductive Frame where
  | array (reversed : List Document)
  | object (reversed : List (Option String × Document)) (key : Option String)
deriving Inhabited

/-- What may come next. -/
inductive Expected where
  | value
  | firstItem
  | key
  | firstKey
  | colon
  | separator
deriving Repr, Inhabited, DecidableEq

/-- The reading of the tokens so far; `finished` is what the whole text says. -/
structure Reader where
  frames : List Frame
  expected : Expected
  finished : Option Document
deriving Inhabited

namespace Reader

/-- The deepest nesting of arrays and objects with a value. -/
def maxDepth : Nat := 127

/-- Before the first token. -/
def initial : Reader := ⟨[], .value, none⟩

/-- Puts a finished part into the innermost open array or object. -/
def complete (frames : List Frame) (part : Document) : Reader :=
  match frames with
  | [] => ⟨[], .separator, some part⟩
  | .array reversed :: outer => ⟨.array (part :: reversed) :: outer, .separator, none⟩
  | .object reversed key :: outer =>
      ⟨.object ((key, part) :: reversed) none :: outer, .separator, none⟩

/-- Whether fewer than `maxDepth` arrays and objects are open; only so many are looked at. -/
def isWithinDepth (outer : List Frame) : Bool := (outer.drop (maxDepth - 1)).isEmpty

/-- Puts a closed array or object into the one around it. -/
def completeNested (outer : List Frame) (part : Document) : Reader :=
  complete outer (if isWithinDepth outer then part else .unreadable)

/-- Opens an array or object. -/
def enter (reader : Reader) (frame : Frame) (expected : Expected) : Reader :=
  ⟨frame :: reader.frames, expected, none⟩

/-- Reads the first token of a value. -/
def value? (reader : Reader) : Token → Option Reader
  | .openObject => some (reader.enter (.object [] none) .firstKey)
  | .openArray => some (reader.enter (.array []) .firstItem)
  | .text value => some (complete reader.frames (.ofText value))
  | .word value => some (complete reader.frames value)
  | _ => none

/-- Reads the name of a field. -/
def key? (reader : Reader) : Token → Option Reader
  | .text name =>
      match reader.frames with
      | .object reversed _ :: outer => some ⟨.object reversed name :: outer, .colon, none⟩
      | _ => none
  | _ => none

/-- Closes the innermost open array or object. -/
def close? (reader : Reader) (token : Token) : Option Reader :=
  match token, reader.frames with
  | .closeArray, .array reversed :: outer => some (completeNested outer (.array reversed.reverse))
  | .closeObject, .object reversed _ :: outer =>
      some (completeNested outer (.object reversed.reverse))
  | _, _ => none

/-- Reads one token. -/
def step (reader : Reader) (token : Token) : Option Reader :=
  match reader.finished with
  | some _ => none
  | none =>
      match reader.expected with
      | .value => reader.value? token
      | .firstItem => (reader.close? token).or (reader.value? token)
      | .key => reader.key? token
      | .firstKey => (reader.close? token).or (reader.key? token)
      | .colon =>
          match token with
          | .colon => some { reader with expected := .value }
          | _ => none
      | .separator =>
          match token, reader.frames with
          | .comma, .array _ :: _ => some { reader with expected := .value }
          | .comma, .object _ _ :: _ => some { reader with expected := .key }
          | _, _ => reader.close? token

end Reader

/-- What a JSON text says; `none` if the text is malformed. -/
def Document.read? (s : String) : Option Document :=
  (tokens? s.toList).bind fun tokens =>
    (tokens.foldlM Reader.step Reader.initial).bind (·.finished)

/-- The value of a JSON text; `none` if the text is malformed or a part of it has no value. -/
def read? (s : String) : Option Json := (Document.read? s).bind Document.json?

end NodeSync.Json
