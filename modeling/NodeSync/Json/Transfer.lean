/-
Module: NodeSync.Json.Transfer
Purpose: What becomes of a JSON value that one side writes and the other reads. All is kept but
  doubles: their shortest decimal may have more digits than reading takes in exactly, and then the
  last place can differ.
Main exports: Number.transferred, Json.transferred
-/
import NodeSync.Json.Numeral
import NodeSync.Json.Printer

namespace NodeSync

open Json

set_option autoImplicit false

/-- The number that is read from the text of a number. -/
def Number.transferred : Number → Number
  | .integer value => .integer value
  | .double value =>
      let text := (Number.double value).print.toList
      ((Numeral.read? text).bind Numeral.number?).getD (.double value)

namespace Json

mutual

/-- The value that is read from the text of a value. -/
def transferred : Json → Json
  | .null => .null
  | .bool value => .bool value
  | .number value => .number value.transferred
  | .string value => .string value
  | .array items => .array (transferredItems items)
  | .object fields => .object (transferredFields fields)

/-- The items of an array that is read from its text. -/
def transferredItems : List Json → List Json
  | [] => []
  | item :: rest => transferred item :: transferredItems rest

/-- The fields of an object that is read from its text. -/
def transferredFields : List (String × Json) → List (String × Json)
  | [] => []
  | (name, value) :: rest => (name, transferred value) :: transferredFields rest

end

end Json

end NodeSync
