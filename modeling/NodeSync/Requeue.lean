/-
Module: NodeSync.Requeue
Purpose: When a machine set is looked at again: after the resync interval if its pass succeeded,
  not before the next change if it is gone or the pass was cancelled, and otherwise after a delay
  that grows with the failures in a row. Every machine set has delays of its own.
Main exports: Backoffs, Backoffs.delay, Backoffs.reset, Backoffs.forget, Decision, requeueDecision
-/
import NodeSync.Backoff
import NodeSync.Pass.Synchronise

namespace NodeSync

set_option autoImplicit false

/-- The failures in a row of one machine set. -/
structure Failures where
  backoff : Backoff
  count : Nat
deriving Repr, Inhabited, DecidableEq

/-- The failures of all machine sets, by `namespace/name`. -/
structure Backoffs where
  minimum : UInt64
  maximum : UInt64
  states : SortedMap String Failures
deriving Repr, Inhabited

namespace Backoffs

/-- Without any failure. -/
def start (minimum maximum : UInt64) : Backoffs := ⟨minimum, maximum, SortedMap.empty⟩

/-- The failures of one machine set. -/
def failures (backoffs : Backoffs) (key : String) : Failures :=
  (backoffs.states.get? key).getD ⟨Backoff.start backoffs.minimum backoffs.maximum, 0⟩

/-- Counts a failure: the delay after it, and the number of failures in a row. -/
def delay (backoffs : Backoffs) (key : String) : (UInt64 × Nat) × Backoffs :=
  let failures := backoffs.failures key
  let (seconds, backoff) := failures.backoff.next
  let count := failures.count + 1
  ((seconds, count),
    { backoffs with states := backoffs.states.insert key ⟨backoff, count⟩ })

/-- Starts over after a success. -/
def reset (backoffs : Backoffs) (key : String) : Backoffs :=
  match backoffs.states.get? key with
  | none => backoffs
  | some failures =>
      { backoffs with states := backoffs.states.insert key ⟨failures.backoff.reset, 0⟩ }

/-- Drops what is known of a machine set. -/
def forget (backoffs : Backoffs) (key : String) : Backoffs :=
  { backoffs with states := backoffs.states.erase key }

/-- What the result of a pass means for the failures by itself: those of a machine set that is
gone are dropped. -/
def afterPass (backoffs : Backoffs) (key : String) :
    Except ControllerError Outcome → Backoffs
  | .ok .gone => backoffs.forget key
  | _ => backoffs

end Backoffs

/-- When a machine set is looked at again. -/
inductive Decision where
  | awaitChange
  | requeue (seconds : UInt64)
deriving Repr, Inhabited, DecidableEq

/-- The decision after a pass, with the failures brought up to date. -/
def requeueDecision (backoffs : Backoffs) (resync : UInt64) (key : String) :
    Except ControllerError Outcome → Decision × Backoffs
  | .ok .gone => (.awaitChange, backoffs.reset key)
  | .ok _ => (.requeue resync, backoffs.reset key)
  | .error .cancelled => (.awaitChange, backoffs)
  | .error _ =>
      let ((seconds, _), backoffs) := backoffs.delay key
      (.requeue seconds, backoffs)

/-- The key under which the failures of a machine set are kept. -/
def MachineSet.key (machineSet : MachineSet) : String :=
  machineSet.metadata.ns.getD "" ++ "/" ++ machineSet.metadata.anyName

end NodeSync
