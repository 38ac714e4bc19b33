/-
Module: NodeSync.Selection
Purpose: Which machines belong to a machine set. A machine does if no other controller owns it, it
  is not being deleted, and its labels meet the selector of the set. A selector without
  requirements selects nothing, so that such a set never claims every machine.
Main exports: validateMachineSet, isExcluded, selectMachines, hasMatchingLabels,
  OwnerReference.isMachineSet
-/
import NodeSync.Resource.MachineSet
import NodeSync.Selector
import NodeSync.Text.Pieces

namespace NodeSync

open NodeSync.Text

set_option autoImplicit false

/-- Compiles the selector of a set and checks that it matches the set's own template; one that
does not would select no machine at all. -/
def validateMachineSet (machineSet : MachineSet) : Except SelectorError LabelMatcher := do
  let matcher ← LabelMatcher.compile machineSet.spec.selector
  if matcher.accepts machineSet.templateMachineLabels then return matcher
  else throw .templateMismatch

/-- Whether the machine's controller is the given set, by its UID. -/
def isControlledBy (machine : Machine) (machineSet : MachineSet) : Bool :=
  machine.metadata.controller?.any fun owner => owner.uid == machineSet.metadata.uid.getD ""

/-- Whether a machine does not belong to a set with the given compiled selector. -/
def isExcluded (machineSet : MachineSet) (matcher : LabelMatcher) (machine : Machine) : Bool :=
  (machine.metadata.controller?.isSome && !isControlledBy machine machineSet) ||
    machine.metadata.deletionTimestamp.isSome ||
    matcher.isEmpty ||
    !matcher.accepts machine.objectLabels

/-- The machines that belong to a set, in their order. -/
def selectMachines (machineSet : MachineSet) (machines : List Machine) :
    Except SelectorError (List Machine) := do
  let matcher ← validateMachineSet machineSet
  return machines.filter fun machine => !isExcluded machineSet matcher machine

/-- Whether labels meet the selector of a set; a malformed or empty selector is met by none. -/
def hasMatchingLabels (machineSet : MachineSet) (labels : Labels) : Bool :=
  match LabelMatcher.compile machineSet.spec.selector with
  | .ok matcher => !matcher.isEmpty && matcher.accepts labels
  | .error _ => false

/-- The part of an API version before its first slash; `none` without a slash. -/
def apiGroup? (apiVersion : String) : Option String :=
  (splitFirst? '/' apiVersion.toList).map fun parts => String.ofList parts.1

/-- Whether an owner is a machine set of the machine API; other APIs have a type of that name
too, so the group counts. -/
def OwnerReference.isMachineSet (owner : OwnerReference) : Bool :=
  owner.kind == MachineSet.kind && apiGroup? owner.apiVersion == some machineGroup

end NodeSync
