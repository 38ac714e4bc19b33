/-
Module: NodeSync.Selector
Purpose: The compilation of label selectors and their meaning. Malformed selectors are refused
  with the first fault found: an empty key among the pairs, then the expressions in their order,
  and an unknown operator only if there is nothing else to say.
Main exports: SelectorError, Condition, LabelMatcher, LabelMatcher.compile, LabelMatcher.accepts
-/
import NodeSync.Resource.LabelSelector
import NodeSync.Text.Quoted

namespace NodeSync

open NodeSync.Text

set_option autoImplicit false

/-- Why the selector of a machine set cannot be used. -/
inductive SelectorError where
  | emptyKey
  | missingValues (key operator : String)
  | unexpectedValues (key operator : String)
  | unknownOperator
  | templateMismatch
deriving Repr, Inhabited, DecidableEq

def SelectorError.message : SelectorError → String
  | .emptyKey => "selector requirement has an empty key"
  | .missingValues key operator =>
      "selector operator " ++ operator ++ " for key " ++ quoted key ++
        " requires at least one value"
  | .unexpectedValues key operator =>
      "selector operator " ++ operator ++ " for key " ++ quoted key ++ " does not take values"
  | .unknownOperator =>
      "invalid selector: failed to parse value as expression: Invalid expression operator"
  | .templateMismatch =>
      "selector does not match the template labels, cannot match any machines"

/-- One requirement on labels. -/
inductive Condition where
  | equals (key value : String)
  | oneOf (key : String) (values : List String)
  | noneOf (key : String) (values : List String)
  | present (key : String)
  | absent (key : String)
deriving Repr, Inhabited, DecidableEq

/-- Whether labels meet a requirement. A key that is absent has none of any values. -/
def Condition.holds (labels : Labels) : Condition → Bool
  | .equals key value => labels.get? key == some value
  | .oneOf key values => (labels.get? key).any values.contains
  | .noneOf key values => (labels.get? key).all fun value => !values.contains value
  | .present key => labels.contains key
  | .absent key => !labels.contains key

namespace Requirement

/-- Whether a requirement lists a value. -/
def hasValues (requirement : Requirement) : Bool := !(requirement.values.getD []).isEmpty

/-- Refuses an empty key, an operator on values without one and an operator on keys with one. -/
def check (requirement : Requirement) : Except SelectorError Unit :=
  if requirement.key = "" then .error .emptyKey
  else if (requirement.operator = "In" ∨ requirement.operator = "NotIn") ∧
      ¬requirement.hasValues then
    .error (.missingValues requirement.key requirement.operator)
  else if (requirement.operator = "Exists" ∨ requirement.operator = "DoesNotExist") ∧
      requirement.hasValues then
    .error (.unexpectedValues requirement.key requirement.operator)
  else .ok ()

/-- The condition that a requirement states. -/
def condition (requirement : Requirement) : Except SelectorError Condition :=
  let values := requirement.values.getD []
  if requirement.operator = "In" then .ok (.oneOf requirement.key values)
  else if requirement.operator = "NotIn" then .ok (.noneOf requirement.key values)
  else if requirement.operator = "Exists" then .ok (.present requirement.key)
  else if requirement.operator = "DoesNotExist" then .ok (.absent requirement.key)
  else .error .unknownOperator

end Requirement

/-- A compiled selector: the conditions that all have to hold. -/
structure LabelMatcher where
  conditions : List Condition
deriving Repr, Inhabited, DecidableEq

namespace LabelMatcher

/-- Compiles a selector, or tells its first fault. -/
def compile (selector : LabelSelector) : Except SelectorError LabelMatcher := do
  if selector.pairs.any (·.1 == "") then throw .emptyKey
  selector.expressions.forM Requirement.check
  let conditions ← selector.expressions.mapM Requirement.condition
  return ⟨selector.pairs.map (fun pair => .equals pair.1 pair.2) ++ conditions⟩

/-- Whether there are no conditions at all. -/
def isEmpty (matcher : LabelMatcher) : Bool := matcher.conditions.isEmpty

/-- Whether labels meet every condition. -/
def accepts (matcher : LabelMatcher) (labels : Labels) : Bool :=
  matcher.conditions.all (Condition.holds labels)

end LabelMatcher

end NodeSync
