/-
Module: NodeSync.Trigger
Purpose: Which machine sets have to be looked at when a machine changes: the one that controls it,
  or, without a controller, those of its namespace whose selector matches its labels.
Main exports: MachineSetRef, machineSetsForMachine
-/
import NodeSync.Selection

namespace NodeSync

set_option autoImplicit false

/-- The place of a machine set. -/
structure MachineSetRef where
  ns : Option String
  name : String
deriving Repr, Inhabited, DecidableEq

/-- The machine sets to look at when a machine changes. A controller of another type takes the
machine out of the hands of all machine sets, and a machine without labels is matched by none. -/
def machineSetsForMachine (machine : Machine) (machineSets : List MachineSet) :
    List MachineSetRef :=
  let ns := machine.metadata.ns.getD ""
  match machine.metadata.controller? with
  | some owner => if owner.isMachineSet then [⟨some ns, owner.name⟩] else []
  | none =>
      if machine.objectLabels.isEmpty then []
      else
        (machineSets.filter fun machineSet =>
          machineSet.metadata.ns == some ns &&
            hasMatchingLabels machineSet machine.objectLabels).map fun machineSet =>
          ⟨machineSet.metadata.ns, machineSet.metadata.name.getD ""⟩

end NodeSync
