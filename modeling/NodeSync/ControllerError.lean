/-
Module: NodeSync.ControllerError
Purpose: The errors that end a pass or keep the controller from starting, with their texts and the
  short reasons under which they are counted.
Main exports: ControllerError
-/
import NodeSync.Selector
import NodeSync.Store.Error

namespace NodeSync

set_option autoImplicit false

/-- Errors of the controller. -/
inductive ControllerError where
  | store (error : StoreError)
  /-- The selector of a machine set is malformed or cannot match its own template. -/
  | selector (machineSet : String) (error : SelectorError)
  /-- The pass was cancelled before it finished. -/
  | cancelled
  | invalidConfig (text : String)
  | metrics (text : String)
  | watch (text : String)
deriving Repr, Inhabited, DecidableEq

namespace ControllerError

/-- The reason under which the error is counted. -/
def reason : ControllerError → String
  | .store error => error.reason
  | .selector .. => "InvalidSelector"
  | .cancelled => "Cancelled"
  | .invalidConfig _ => "InvalidConfig"
  | .metrics _ => "Metrics"
  | .watch _ => "Watch"

/-- The text of the error, where it has a fixed one. -/
def message? : ControllerError → Option String
  | .store error => error.message?.map ("Store error: " ++ ·)
  | .selector machineSet error =>
      some ("Invalid MachineSet " ++ machineSet ++ ": " ++ error.message)
  | .cancelled => some "Reconciliation cancelled"
  | .invalidConfig text => some ("Invalid configuration: " ++ text)
  | .metrics text => some ("Metrics error: " ++ text)
  | .watch text => some ("Resource watch failed: " ++ text)

end ControllerError

end NodeSync
