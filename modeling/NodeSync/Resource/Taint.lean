/-
Module: NodeSync.Resource.Taint
Purpose: Taints of machines and nodes, with the JSON form.
Main exports: Taint
-/
import NodeSync.Resource.Metadata

namespace NodeSync

open Json

set_option autoImplicit false

/-- A mark that keeps pods off a node. -/
structure Taint where
  key : String
  value : Option String
  effect : String
  timeAdded : Option Timestamp
deriving Repr, Inhabited, DecidableEq

namespace Taint

def decode? : Decoder Taint := fun value => do
  let fields ← object? value
  some {
    key := ← Fields.orElse? fields "key" "" text?
    value := ← Fields.optional? fields "value" text?
    effect := ← Fields.orElse? fields "effect" "" text?
    timeAdded := ← Fields.optional? fields "timeAdded" Timestamp.decode? }

def toJson (taint : Taint) : Json :=
  ofFields [
    ("key", some (.string taint.key)),
    ("value", taint.value.map .string),
    ("effect", some (.string taint.effect)),
    ("timeAdded", taint.timeAdded.map Timestamp.toJson)]

def listToJson (taints : List Taint) : Json := .array (taints.map toJson)

end Taint

end NodeSync
