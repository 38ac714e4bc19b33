/-
Module: NodeSync.Rehearsal.Stage
Purpose: The state of a rehearsal and what its steps do to it. The controller and the other clients
  share one store; whenever one of them calls it, the interruptions that are due come first. Each
  interruption happens once.
Main exports: Stage, Answer, Stage.apply, Stage.call, Stage.pass, Stage.perform
-/
import NodeSync.Metrics
import NodeSync.Rehearsal.Step
import NodeSync.Requeue
import NodeSync.Trigger

namespace NodeSync.Rehearsal

open NodeSync.Text

set_option autoImplicit false

/-- An interruption that is still to come. -/
structure Interruption where
  operation : Operation
  /-- How many calls of the kind are left, the one it comes before included. -/
  countdown : Nat
  changes : List Change
  ending : Ending
deriving Inhabited

/-- The state of a rehearsal. -/
structure Stage where
  store : MemoryStore
  backoffs : Backoffs
  /-- The delay after a successful pass, in seconds. -/
  resync : UInt64
  /-- The reported failures, oldest first. -/
  failures : List FailureReport
  interruptions : List Interruption
  /-- The token under which new passes start. -/
  token : Nat
  cancelled : List Nat

/-- What a step gives. -/
inductive Answer where
  | done
  | added (metadata : ObjectMeta)
  | machineSet (found : Option MachineSet)
  | machine (found : Option Machine)
  | node (found : Option Node)
  | updates (records : List UpdateRecord)
  | updateCount (count : Nat)
  | reply (request : Request) (reply : request.Reply)
  /-- The result of a pass, what it updated and reported, and the state after it. -/
  | pass (result : Except ControllerError Outcome) (updates : List UpdateRecord)
      (failures : List FailureReport) (store : MemoryStore)
  | state (store : MemoryStore)
  | decision (decision : Decision) (error : Option ControllerError) (updates : List UpdateRecord)
      (failures : List FailureReport)
  | machineSets (references : List MachineSetRef)
  | delay (seconds : UInt64) (count : Nat)
  | failures (reports : List FailureReport)
  | text (text : String)
  | texts (texts : List String)
  /-- The step never completes. -/
  | unfinished

namespace Stage

/-- Before the first step. -/
def start (minimum maximum resync : UInt64) : Stage :=
  ⟨.empty, .start minimum maximum, resync, [], [], 0, []⟩

/-- Cancels what runs under the current token. -/
def cancel (stage : Stage) : Stage := { stage with cancelled := stage.token :: stage.cancelled }

/-- Makes a change. -/
def apply (stage : Stage) : Change → Answer × Stage
  | .addMachineSet machineSet =>
      let (added, store) := stage.store.addMachineSet machineSet
      (.added added.metadata, { stage with store := store })
  | .addMachine machine =>
      let (added, store) := stage.store.addMachine machine
      (.added added.metadata, { stage with store := store })
  | .addNode node =>
      let (added, store) := stage.store.addNode node
      (.added added.metadata, { stage with store := store })
  | .removeMachineSet key => (.done, { stage with store := stage.store.removeMachineSet key })
  | .editMachineSet key spec =>
      let store := stage.store.editMachineSet key fun machineSet => { machineSet with spec := spec }
      (.machineSet (store.machineSets.get? key), { stage with store := store })
  | .editNode name edit =>
      let store := stage.store.editNode name edit.apply
      (.node (store.nodes.get? name), { stage with store := store })
  | .failNext operation =>
      match stage.store.failNext? operation with
      | some store => (.done, { stage with store := store })
      | none => (.unfinished, stage)
  | .clearUpdates => (.done, { stage with store := stage.store.clearUpdates })
  | .cancel => (.done, stage.cancel)
  | .renewToken => (.done, { stage with token := stage.token + 1 })
  | .interrupt operation countdown changes ending =>
      (.done, { stage with
        interruptions := stage.interruptions ++ [⟨operation, countdown, changes, ending⟩] })

/-- Makes changes one after the other and forgets their answers. -/
def applyAll (stage : Stage) (changes : List Change) : Stage :=
  changes.foldl (fun stage change => (stage.apply change).2) stage

/-- Counts a call: the interruptions that come before it, and those that still wait. -/
def countdown (stage : Stage) (operation : Operation) : List Interruption × Stage :=
  let counted := stage.interruptions.map fun interruption =>
    if interruption.operation = operation then
      { interruption with countdown := interruption.countdown - 1 }
    else interruption
  let (due, waiting) := counted.partition fun interruption =>
    interruption.operation == operation && interruption.countdown == 0
  (due, { stage with interruptions := waiting })

/-- Goes through interruptions, up to one after which the call does not go on. -/
def interrupt (stage : Stage) : List Interruption → Ending × Stage
  | [] => (.goesOn, stage)
  | interruption :: rest =>
      let stage := stage.applyAll interruption.changes
      match interruption.ending with
      | .goesOn => stage.interrupt rest
      | .fails error => (.fails error, stage)
      | .hangs => (.hangs, stage.cancel)

/-- Makes a call on the store; without a reply it never completes. -/
def call (stage : Stage) (request : Request) : Option request.Reply × Stage :=
  let (due, stage) := stage.countdown request.operation
  match stage.interrupt due with
  | (.goesOn, stage) =>
      let (reply, store) := stage.store.answer request
      (some reply, { stage with store := store })
  | (.fails error, stage) => (some (.error error), stage)
  | (.hangs, stage) => (none, stage)

/-- Where a pass runs that started under a given token. -/
def environment (token : Nat) : Environment Stage where
  cancelled stage := stage.cancelled.contains token
  answer request stage := stage.call request
  report failure stage := { stage with failures := stage.failures ++ [failure] }

/-- A pass over the machine set at a place. -/
def pass (stage : Stage) (ns name : String) : Except ControllerError Outcome × Stage :=
  let (result, after) := runPass (environment stage.token) ns name stage
  (result, { after with backoffs := after.backoffs.afterPass (ns ++ "/" ++ name) result })

/-- The updates since an earlier state. -/
def updatesSince (stage earlier : Stage) : List UpdateRecord :=
  stage.store.updates.drop earlier.store.updates.length

/-- The failures reported since an earlier state. -/
def failuresSince (stage earlier : Stage) : List FailureReport :=
  stage.failures.drop earlier.failures.length

/-- The controller and the store in writing. -/
def describe (stage : Stage) : List String :=
  ["Reconciler \x7b backoff_min_seconds: " ++ decimal stage.backoffs.minimum.toNat ++
      ", backoff_max_seconds: " ++ decimal stage.backoffs.maximum.toNat ++ ", .. \x7d",
    "MockStore \x7b updates: " ++ decimal stage.store.updates.length ++ ", .. \x7d"]

/-- The error of a result, if it is one. -/
def errorOf {α : Type} : Except ControllerError α → Option ControllerError
  | .ok _ => none
  | .error error => some error

/-- Takes a step. -/
def perform (stage : Stage) : Step → Answer × Stage
  | .change change => stage.apply change
  | .showMachineSet key => (.machineSet (stage.store.machineSets.get? key), stage)
  | .showMachine key => (.machine (stage.store.machines.get? key), stage)
  | .showNode name => (.node (stage.store.nodes.get? name), stage)
  | .showUpdates => (.updates stage.store.updates, stage)
  | .countUpdates => (.updateCount stage.store.updates.length, stage)
  | .call request =>
      match stage.call request with
      | (some reply, after) => (.reply request reply, after)
      | (none, after) => (.unfinished, after)
  | .reconcile ns name =>
      let (result, after) := stage.pass ns name
      (.pass result (after.updatesSince stage) (after.failuresSince stage) after.store, after)
  | .showState => (.state stage.store, stage)
  | .trigger machineSet =>
      let (result, after) :=
        stage.pass (machineSet.metadata.ns.getD "") machineSet.metadata.anyName
      let (decision, backoffs) :=
        requeueDecision after.backoffs stage.resync machineSet.key result
      (.decision decision (errorOf result) (after.updatesSince stage) (after.failuresSince stage),
        { after with backoffs := backoffs })
  | .machineEvent machine =>
      (.machineSets (machineSetsForMachine machine stage.store.machineSets.values), stage)
  | .delayAfterFailure key =>
      let ((seconds, count), backoffs) := stage.backoffs.delay key
      (.delay seconds count, { stage with backoffs := backoffs })
  | .resetBackoff key => (.done, { stage with backoffs := stage.backoffs.reset key })
  | .showFailures => (.failures stage.failures, stage)
  | .showMetrics => (.text (Metrics.ofFailures stage.failures).render, stage)
  | .describe => (.texts stage.describe, stage)

end Stage

end NodeSync.Rehearsal
