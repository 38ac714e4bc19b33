/-
Module: NodeSync.Pass.Program
Purpose: A pass as data: the looks that it takes at its token, the calls that it makes on a store,
  each followed by what it does with the reply, and the failures that it reports. One interpreter
  runs it in any environment: a store in memory, an API server, or a store that other clients change
  between the calls. To make no call once the token is cancelled is up to the program: a guarded
  call looks at the token first, and its error is handed on like any other one.
Main exports: FailureReport, Program, Program.guarded, Environment, Program.run, Pass, Pass.call
-/
import NodeSync.ControllerError
import NodeSync.Store.Request

namespace NodeSync

set_option autoImplicit false

/-- What could not be brought up to date. -/
inductive FailureKind where
  | label
  | taint
deriving Repr, Inhabited, DecidableEq

/-- A failure as it is counted: the object that could not be read or written, its namespace,
empty for nodes, and the reason. -/
structure FailureReport where
  kind : FailureKind
  name : String
  ns : String
  reason : String
deriving Repr, Inhabited, DecidableEq

/-- Calls on a store, looks at a token and reports of failures, one after the other, up to a
result. -/
inductive Program (α : Type) where
  | done (result : α)
  /-- Looks whether the token is cancelled. -/
  | poll (next : Bool → Program α)
  /-- Makes a call and waits for the reply. There is none if the token is cancelled first. -/
  | call (request : Request) (next : Option request.Reply → Program α)
  | report (failure : FailureReport) (next : Program α)

namespace Program

/-- Goes on from the result. -/
def bind {α β : Type} (program : Program α) (next : α → Program β) : Program β :=
  match program with
  | .done result => next result
  | .poll resume => .poll fun cancelled => (resume cancelled).bind next
  | .call request resume => .call request fun reply => (resume reply).bind next
  | .report failure rest => .report failure (rest.bind next)

instance : Monad Program where
  pure := .done
  bind := bind

theorem bind_assoc {α β γ : Type} (program : Program α) (first : α → Program β)
    (second : β → Program γ) :
    (program.bind first).bind second = program.bind fun result => (first result).bind second := by
  induction program with
  | done result => rfl
  | poll next ih => simp [bind, ih]
  | call request next ih => simp [bind, ih]
  | report failure next ih => simp [bind, ih]

/-- What a call comes to: the answer, the error of the store, or a cancellation. -/
def outcome {request : Request} : Option request.Reply → Except ControllerError request.Answer
  | some (.ok answer) => .ok answer
  | some (.error error) => .error (.store error)
  | none => .error .cancelled

/-- A call that is made only if the token is not cancelled, and given up when it is. A reply that
comes while the token is cancelled still counts. -/
def guarded (request : Request) : Program (Except ControllerError request.Answer) :=
  .poll fun cancelled =>
    if cancelled then .done (.error .cancelled)
    else .call request fun reply => .done (outcome reply)

end Program

/-- Where a program runs: a state, whether its token is cancelled, how calls are answered, and where
reports go. A call without a reply is given up because the token is cancelled. -/
structure Environment (σ : Type) where
  cancelled : σ → Bool
  answer : (request : Request) → σ → Option request.Reply × σ
  report : FailureReport → σ → σ

/-- Runs a program. -/
def Program.run {σ α : Type} (environment : Environment σ) : Program α → σ → α × σ
  | .done result, state => (result, state)
  | .poll next, state => (next (environment.cancelled state)).run environment state
  | .call request next, state =>
      match environment.answer request state with
      | (reply, after) => (next reply).run environment after
  | .report failure next, state => next.run environment (environment.report failure state)

@[simp] theorem Program.run_call {σ α : Type} (environment : Environment σ) (request : Request)
    (next : Option request.Reply → Program α) (state : σ) :
    (call request next).run environment state =
      (next (environment.answer request state).1).run environment
        (environment.answer request state).2 := rfl

/-- A composed program runs its first part and then the second one from the state that the first
one left. -/
theorem Program.run_bind {σ α β : Type} (environment : Environment σ) (program : Program α)
    (next : α → Program β) (state : σ) :
    (program.bind next).run environment state =
      (next (program.run environment state).1).run environment
        (program.run environment state).2 := by
  induction program generalizing state with
  | done result => rfl
  | poll resume ih => exact ih (environment.cancelled state) state
  | call request resume ih => exact ih _ _
  | report failure rest ih => exact ih (environment.report failure state)

/-- A guarded call is made only if the token is not cancelled. -/
theorem Program.run_guarded_bind {σ α : Type} (environment : Environment σ) (request : Request)
    (next : Except ControllerError request.Answer → Program α) (state : σ) :
    ((guarded request).bind next).run environment state =
      if environment.cancelled state then (next (.error .cancelled)).run environment state
      else (next (outcome (environment.answer request state).1)).run environment
        (environment.answer request state).2 := by
  rw [guarded, bind, run]
  split <;> rfl

section Guarded

variable {σ α : Type} {environment : Environment σ} {request : Request}
  {next : Except ControllerError request.Answer → Program α} {state : σ}

/-- Once the token is cancelled, the environment does not hear of the call. -/
theorem Program.run_guarded_of_cancelled (cancelled : environment.cancelled state = true) :
    ((guarded request).bind next).run environment state =
      (next (.error .cancelled)).run environment state := by
  rw [run_guarded_bind, if_pos cancelled]

theorem Program.run_guarded_of_running (running : environment.cancelled state = false) :
    ((guarded request).bind next).run environment state =
      (next (outcome (environment.answer request state).1)).run environment
        (environment.answer request state).2 := by
  rw [run_guarded_bind, running, if_neg Bool.false_ne_true]

end Guarded

/-- A program that may end early with an error. -/
abbrev Pass (α : Type) := ExceptT ControllerError Program α

namespace Pass

/-- Hands on an answer. An error is reported where it is to be blamed on an object, and ends the
pass. -/
def answerOrFail {α : Type} (blame : ControllerError → Option FailureReport) :
    Except ControllerError α → Pass α
  | .ok answer => pure answer
  | .error error =>
      match blame error with
      | some failure => ExceptT.mk (.report failure (.done (.error error)))
      | none => throw error

/-- Makes a guarded call. If it fails, the failure is reported where it is to be blamed on an
object, and the pass ends with the error. -/
def call (request : Request) (blame : ControllerError → Option FailureReport) :
    Pass request.Answer :=
  ExceptT.mk ((Program.guarded request).bind fun outcome => (answerOrFail blame outcome).run)

/-- Blames an error on no object. -/
def noBlame (_ : ControllerError) : Option FailureReport := none

/-- Blames an error on what an object has of a kind. A cancellation is nobody's fault. -/
def blameOn (kind : FailureKind) (name ns : String) : ControllerError → Option FailureReport
  | .cancelled => none
  | error => some ⟨kind, name, ns, error.reason⟩

/-- Blames an error on the labels of an object. -/
def blameLabels (name ns : String) : ControllerError → Option FailureReport :=
  blameOn .label name ns

/-- Blames an error on the taints of an object. -/
def blameTaints (name ns : String) : ControllerError → Option FailureReport :=
  blameOn .taint name ns

end Pass

end NodeSync
