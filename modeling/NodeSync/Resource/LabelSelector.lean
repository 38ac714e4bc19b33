/-
Module: NodeSync.Resource.LabelSelector
Purpose: Label selectors as they are written in a MachineSet, with the JSON form. Whether one is
  well formed is decided in `NodeSync.Selector`.
Main exports: Requirement, LabelSelector
-/
import NodeSync.Resource.Metadata

namespace NodeSync

open Json

set_option autoImplicit false

/-- One expression of a selector: an operator on the value of a key. -/
structure Requirement where
  key : String
  operator : String
  values : Option (List String)
deriving Repr, Inhabited, DecidableEq

namespace Requirement

def decode? : Decoder Requirement := fun value => do
  let fields ← object? value
  some {
    key := ← Fields.orElse? fields "key" "" text?
    operator := ← Fields.orElse? fields "operator" "" text?
    values := ← Fields.optional? fields "values" (list? text?) }

def toJson (requirement : Requirement) : Json :=
  ofFields [
    ("key", some (.string requirement.key)),
    ("operator", some (.string requirement.operator)),
    ("values", requirement.values.map fun values => .array (values.map .string))]

end Requirement

/-- A query over labels: pairs that have to be present and further expressions. -/
structure LabelSelector where
  matchLabels : Option Labels
  matchExpressions : Option (List Requirement)
deriving Repr, Inhabited, DecidableEq

namespace LabelSelector

/-- The selector without any requirement. -/
def empty : LabelSelector := ⟨none, none⟩

def decode? : Decoder LabelSelector := fun value => do
  let fields ← object? value
  some {
    matchLabels := ← Fields.optional? fields "matchLabels" texts?
    matchExpressions := ← Fields.optional? fields "matchExpressions" (list? Requirement.decode?) }

def toJson (selector : LabelSelector) : Json :=
  ofFields [
    ("matchLabels", selector.matchLabels.map ofTexts),
    ("matchExpressions",
      selector.matchExpressions.map fun items => .array (items.map Requirement.toJson))]

/-- The pairs that have to be present. -/
def pairs (selector : LabelSelector) : List (String × String) :=
  (selector.matchLabels.getD SortedMap.empty).toList

/-- The further expressions. -/
def expressions (selector : LabelSelector) : List Requirement :=
  selector.matchExpressions.getD []

end LabelSelector

end NodeSync
