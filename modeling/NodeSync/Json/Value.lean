/-
Module: NodeSync.Json.Value
Purpose: JSON values. An object is a list of fields in ascending order of their names, each name
  once; the reader builds objects in that form and `Json.ofFields` keeps to it.
Main exports: Number, Json, Json.ofFields, Json.ofFieldsWith
-/
import NodeSync.Double
import NodeSync.SortedMap

namespace NodeSync

set_option autoImplicit false

/-- A number. Those written with a point or an exponent are kept in double precision, as are minus
zero and the integers that no signed or unsigned 64-bit integer equals. -/
inductive Number where
  | integer (value : Int)
  | double (value : Double)
deriving Repr, Inhabited, DecidableEq

/-- A JSON value. -/
inductive Json where
  | null
  | bool (value : Bool)
  | number (value : Number)
  | string (value : String)
  | array (items : List Json)
  | object (fields : List (String × Json))
deriving Repr, Inhabited

namespace Json

/-- The object with the given fields, those without a value left out. -/
def ofFields (fields : List (String × Option Json)) : Json :=
  .object (Entries.ofList (fields.filterMap fun field => field.2.map (field.1, ·)))

/-- The object of typed fields, those without a value left out, and of fields carried along. -/
def ofFieldsWith (fields : List (String × Option Json)) (others : SortedMap String Json) : Json :=
  ofFields (others.toList.map (fun field => (field.1, some field.2)) ++ fields)

/-- The number of an integer. -/
def ofInt (value : Int) : Json := .number (.integer value)

def ofNat (value : Nat) : Json := ofInt value

/-- The object that a map of texts stands for. -/
def ofTexts (map : SortedMap String String) : Json :=
  .object (map.entries.map fun entry => (entry.1, .string entry.2))

end Json

end NodeSync
