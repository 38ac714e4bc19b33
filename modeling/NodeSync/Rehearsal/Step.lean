/-
Module: NodeSync.Rehearsal.Step
Purpose: What can be done in a rehearsal, where the controller works on a store in memory beside
  other clients: changes by the others, passes of the controller, and questions about the state.
  A change can also be put off to the moment just before some later call on the store.
Main exports: NodeEdit, Ending, Change, Step
-/
import NodeSync.Store.Memory

namespace NodeSync.Rehearsal

set_option autoImplicit false

/-- Changes to labels or annotations: each key gets a value, or is removed. -/
abbrev TextEdits := List (String × Option String)

/-- A change that another client makes to a node. -/
structure NodeEdit where
  labels : TextEdits
  annotations : TextEdits
  /-- The new specification, if it is to be replaced. -/
  spec : Option NodeSpec
deriving Inhabited

/-- Applies changes one after the other. A map that is absent is created for the first of them. -/
def applyEdits (edits : TextEdits) (texts : Option Labels) : Option Labels :=
  edits.foldl
    (fun texts edit =>
      let current := texts.getD SortedMap.empty
      match edit.2 with
      | some value => some (current.insert edit.1 value)
      | none => some (current.erase edit.1))
    texts

/-- The node after the change. -/
def NodeEdit.apply (edit : NodeEdit) (node : Node) : Node :=
  { node with
    metadata := { node.metadata with
      labels := applyEdits edit.labels node.metadata.labels
      annotations := applyEdits edit.annotations node.metadata.annotations }
    spec := edit.spec.or node.spec }

/-- What becomes of a call after the interruption before it. -/
inductive Ending where
  /-- The call goes on. -/
  | goesOn
  /-- The call fails without reaching the store. -/
  | fails (error : StoreError)
  /-- The call never completes, and everything that waits for it is cancelled. -/
  | hangs
deriving Repr, Inhabited

/-- What happens around the controller without a call on the store. -/
inductive Change where
  | addMachineSet (machineSet : MachineSet)
  | addMachine (machine : Machine)
  | addNode (node : Node)
  | removeMachineSet (key : ObjectKey)
  | editMachineSet (key : ObjectKey) (spec : MachineSetSpec)
  | editNode (name : String) (edit : NodeEdit)
  /-- Orders a failure of the next call of a kind. -/
  | failNext (operation : Operation)
  | clearUpdates
  /-- Cancels what runs under the current token. -/
  | cancel
  /-- What starts from here on is cancelled by itself. -/
  | renewToken
  /-- Plans changes for the moment before a call of a kind; `countdown` is 1 for the next one. -/
  | interrupt (operation : Operation) (countdown : Nat) (changes : List Change) (ending : Ending)
deriving Inhabited

/-- A step of a rehearsal. -/
inductive Step where
  | change (change : Change)
  | showMachineSet (key : ObjectKey)
  | showMachine (key : ObjectKey)
  | showNode (name : String)
  | showUpdates
  | countUpdates
  /-- A call by another client. -/
  | call (request : Request)
  | reconcile (ns name : String)
  | showState
  /-- An event of a machine set: a pass, and the decision when the next one is due. -/
  | trigger (machineSet : MachineSet)
  /-- An event of a machine: the machine sets it concerns. -/
  | machineEvent (machine : Machine)
  | delayAfterFailure (key : String)
  | resetBackoff (key : String)
  | showFailures
  | showMetrics
  | describe
deriving Inhabited

end NodeSync.Rehearsal
