/-
Module: NodeSync.Store.Error
Purpose: The errors of reading and writing cluster objects, their texts, and the short reasons
  under which they are counted.
Main exports: ApiStatus, ApiFailure, StoreError, StoreError.ofApi
-/
import NodeSync.Text.Quoted

namespace NodeSync

open NodeSync.Text

set_option autoImplicit false

/-- The answer by which the API server refuses a request. -/
structure ApiStatus where
  status : String
  message : String
  reason : String
  code : Nat
deriving Repr, Inhabited, DecidableEq

/-- The text of a refusal: what went wrong, then all of the answer. -/
def ApiStatus.text (answer : ApiStatus) : String :=
  "ApiError: " ++ answer.message ++ ": " ++ answer.reason ++
    " (ErrorResponse \x7b status: " ++ quoted answer.status ++
    ", message: " ++ quoted answer.message ++ ", reason: " ++ quoted answer.reason ++
    ", code: " ++ decimal answer.code ++ " \x7d)"

/-- Why an exchange with the API server failed. -/
inductive ApiFailure where
  | refused (answer : ApiStatus)
  /-- The object's name gives no address to send a request to. -/
  | unaddressable
  /-- The connection failed. -/
  | unreachable
  /-- The answer is no object of the wanted type. -/
  | unreadable
deriving Repr, Inhabited, DecidableEq

/-- Errors of reading or writing cluster objects. -/
inductive StoreError where
  | notFound (what : String)
  /-- The object was changed since it was read. -/
  | conflict (what : String)
  | api (failure : ApiFailure)
  /-- A text is no JSON. -/
  | serialization
  /-- The object lacks a field that the store needs. -/
  | invalidObject (what : String)
  | unavailable (what : String)
deriving Repr, Inhabited, DecidableEq

namespace StoreError

/-- The reason under which the error is counted. -/
def reason : StoreError → String
  | .notFound _ => "NotFound"
  | .conflict _ => "Conflict"
  | .api _ => "ApiError"
  | .serialization => "Serialization"
  | .invalidObject _ => "InvalidObject"
  | .unavailable _ => "Unavailable"

/-- The text of the error, where it has a fixed one. -/
def message? : StoreError → Option String
  | .notFound what => some ("Not found: " ++ what)
  | .conflict what => some ("Conflict: " ++ what)
  | .api (.refused answer) => some ("Kubernetes error: " ++ answer.text)
  | .api _ => none
  | .serialization => none
  | .invalidObject what => some ("Invalid object: " ++ what)
  | .unavailable what => some ("Store unavailable: " ++ what)

def isNotFound : StoreError → Bool
  | .notFound _ => true
  | _ => false

def isConflict : StoreError → Bool
  | .conflict _ => true
  | _ => false

/-- The error of an exchange about an object: two codes of a refusal have errors of their own,
which name the object. -/
def ofApi (failure : ApiFailure) (what : String) : StoreError :=
  match failure with
  | .refused answer =>
      if answer.code = 404 then .notFound what
      else if answer.code = 409 then .conflict (what ++ ": " ++ answer.message)
      else .api failure
  | _ => .api failure

end StoreError

end NodeSync
