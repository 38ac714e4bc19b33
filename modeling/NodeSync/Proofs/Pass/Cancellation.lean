/-
Module: NodeSync.Proofs.Pass.Cancellation
Purpose: What a pass does whose token is cancelled while one of its calls is made, or before it
  starts. A pass heeds its token: each of its calls is guarded, it ends as soon as a call comes to a
  cancellation, without a report, and after a failed call it makes no other one. So it makes the
  calls of the pass that is not cancelled, up to the moment, and stops where that one would make the
  next call.
Main exports: Program.Ends, Program.Heeds, Program.Heeds.bind, synchronise_heeds, Exchange,
  Program.calls, Countdown, Environment.countdown, Program.Heeds.calls_countdown,
  Program.Heeds.run_countdown, cancelled_pass_stops_at_call
-/
import NodeSync.Proofs.Pass.Disturbance

namespace NodeSync

set_option autoImplicit false

/-! ## Programs that heed their token -/

namespace Program

/-- A program that makes no call and looks at no token any more. Its result is one of some kind. -/
inductive Ends {α : Type} (kind : α → Prop) : Program α → Prop where
  | done {result : α} (fits : kind result) : Ends kind (.done result)
  | report {rest : Program α} (failure : FailureReport) (ends : Ends kind rest) :
      Ends kind (.report failure rest)

/-- A program all of whose calls are guarded. When a call comes to a cancellation, the program has
ended, with that for its result; when the store fails it, the program ends with a result of some
kind, after reports at most. -/
inductive Heeds {α : Type} (kind : Except ControllerError α → Prop) :
    Program (Except ControllerError α) → Prop where
  | done (result : Except ControllerError α) : Heeds kind (.done result)
  | guarded {request : Request}
      {next : Except ControllerError request.Answer → Program (Except ControllerError α)}
      (stops : next (.error .cancelled) = .done (.error .cancelled))
      (fails : ∀ error, Ends kind (next (.error (.store error))))
      (goes : ∀ answer, Heeds kind (next (.ok answer))) :
      Heeds kind ((guarded request).bind next)

/-- The result of a part of a pass that ends the whole. -/
def Failed {α : Type} (result : Except ControllerError α) : Prop := ∃ error, result = .error error

section Rules

variable {α β : Type} {kind kind' : Except ControllerError α → Prop}

theorem Ends.imp {program : Program (Except ControllerError α)} (ends : Ends kind program)
    (more : ∀ result, kind result → kind' result) : Ends kind' program := by
  induction ends with
  | done fits => exact .done (more _ fits)
  | report failure _ ih => exact .report failure ih

theorem Heeds.imp {program : Program (Except ControllerError α)} (heeds : Heeds kind program)
    (more : ∀ result, kind result → kind' result) : Heeds kind' program := by
  induction heeds with
  | done result => exact .done result
  | guarded stops fails _ ih => exact .guarded stops (fun error => (fails error).imp more) ih

/-- What has failed is not gone on from. -/
theorem Ends.bind {program : Program (Except ControllerError α)} (ends : Ends Failed program)
    (next : α → Pass β) : Ends Failed (program.bind (ExceptT.bindCont next)) := by
  induction ends with
  | done failed =>
      obtain ⟨error, rfl⟩ := failed
      exact .done ⟨error, rfl⟩
  | report failure _ ih => exact .report failure ih

/-- If both parts of a pass heed the token, the whole does. -/
theorem Heeds.bind {pass : Pass α} {next : α → Pass β} (first : Heeds Failed pass.run)
    (second : ∀ result, Heeds Failed (next result).run) : Heeds Failed (pass >>= next).run := by
  change Heeds Failed (pass.run.bind (ExceptT.bindCont next))
  generalize pass.run = program at first
  induction first with
  | done result =>
      cases result with
      | ok result => exact second result
      | error error => exact .done (.error error)
  | guarded stops fails _ ih =>
      rw [bind_assoc]
      refine .guarded ?_ (fun error => (fails error).bind next) ih
      rw [stops]
      rfl

theorem Heeds.pure (result : α) : Heeds Failed (Pure.pure result : Pass α).run :=
  .done (.ok result)

theorem Heeds.throw (error : ControllerError) :
    Heeds Failed (MonadExcept.throw error : Pass α).run :=
  .done (.error error)

/-- A choice heeds the token if both sides do. -/
theorem Heeds.ite {holds : Prop} [Decidable holds] {first second : Pass α}
    (yes : Heeds Failed first.run) (no : Heeds Failed second.run) :
    Heeds Failed (if holds then first else second).run := by
  split
  · exact yes
  · exact no

/-- A call heeds the token if a cancellation is not reported. -/
theorem Heeds.call (request : Request) {blame : ControllerError → Option FailureReport}
    (unblamed : blame .cancelled = none) : Heeds Failed (Pass.call request blame).run := by
  apply Heeds.guarded
  · rw [Pass.answerOrFail, unblamed]
    rfl
  · intro error
    rw [Pass.answerOrFail]
    cases blame (.store error) with
    | none => exact .done ⟨.store error, rfl⟩
    | some failure => exact .report failure (.done ⟨.store error, rfl⟩)
  · exact fun answer => .done (.ok answer)

end Rules

end Program

section Passes

open Program (Heeds Failed)

variable {machineSet : MachineSet}

theorem writeMachineLabels_heeds (machine : Machine) (expected : Labels) (name ns : String) :
    Heeds Failed (writeMachineLabels machine expected name ns).run :=
  Heeds.ite (Heeds.pure machine) (Heeds.call (.updateMachine _) rfl)

theorem writeMachineTaints_heeds (machine : Machine) (template : List Taint) (name ns : String) :
    Heeds Failed (writeMachineTaints machine template name ns).run :=
  Heeds.ite (Heeds.pure machine) (Heeds.call (.updateMachine _) rfl)

theorem writeNodeLabels_heeds (node : Node) (expected : Labels) (name : String) :
    Heeds Failed (writeNodeLabels node expected name).run := by
  rw [writeNodeLabels]
  exact Heeds.ite (Heeds.call (.updateNode _) rfl) (Heeds.pure _)

theorem writeNodeTaints_heeds (node : Node) (machineTaints : List Taint) (name : String) :
    Heeds Failed (writeNodeTaints node machineTaints name).run :=
  Heeds.ite (Heeds.pure ()) (Heeds.bind (Heeds.call (.updateNode _) rfl) fun _ => Heeds.pure ())

/-- The calls for one machine are the reading of its node and the four writes. -/
theorem synchroniseMachine_heeds (machine : Machine) :
    Heeds Failed (synchroniseMachine machineSet machine).run := by
  rw [synchroniseMachine]
  cases machine.nodeName? with
  | none => exact Heeds.pure none
  | some nodeName =>
      refine Heeds.bind (Heeds.call (.getNode nodeName) rfl) fun node => ?_
      refine Heeds.bind (writeMachineLabels_heeds _ _ _ _) fun labelled => ?_
      refine Heeds.bind (writeMachineTaints_heeds _ _ _ _) fun tainted => ?_
      refine Heeds.bind (writeNodeLabels_heeds _ _ _) fun synced => ?_
      exact Heeds.bind (writeNodeTaints_heeds _ _ _) fun _ => Heeds.pure _

/-- Machine after machine, the token is heeded. -/
theorem synchroniseMachines_heeds (machines : List Machine) :
    Heeds Failed (synchroniseMachines machineSet machines).run := by
  induction machines with
  | nil => exact Heeds.pure []
  | cons machine rest ih =>
      refine Heeds.bind (synchroniseMachine_heeds machine) fun warning => ?_
      exact Heeds.bind ih fun warnings => Heeds.pure _

/-- After the machines were listed, a selector that is not well formed ends the pass. -/
theorem synchroniseSet_heeds (ns name : String) :
    Heeds Failed (synchroniseSet machineSet ns name).run := by
  refine Heeds.bind (Heeds.call (.listMachines ns) rfl) fun machines => ?_
  cases selectMachines machineSet machines with
  | error error => exact Heeds.throw _
  | ok selected =>
      exact Heeds.bind (synchroniseMachines_heeds selected) fun warnings => Heeds.pure _

/-- A whole pass heeds its token. Of failed calls only the first one may end it with success. -/
theorem synchronise_heeds (ns name : String) : Heeds (fun _ => True) (synchronise ns name) := by
  apply Heeds.guarded
  · rfl
  · intro error
    cases error <;> exact .done trivial
  · exact fun machineSet => (synchroniseSet_heeds ns name).imp fun _ _ => trivial

end Passes

/-! ## The calls of a program -/

/-- A call that was made: the state that it met, and the reply. -/
structure Exchange (σ : Type) where
  before : σ
  request : Request
  reply : Option request.Reply

/-- The calls that a program makes, in their order. -/
def Program.calls {σ α : Type} (environment : Environment σ) :
    Program α → σ → List (Exchange σ)
  | .done _, _ => []
  | .poll next, state => (next (environment.cancelled state)).calls environment state
  | .call request next, state =>
      ⟨state, request, (environment.answer request state).1⟩ ::
        (next (environment.answer request state).1).calls environment
          (environment.answer request state).2
  | .report failure next, state => next.calls environment (environment.report failure state)

section Calls

variable {σ α : Type} {environment : Environment σ}

/-- A guarded call is the first one, unless the token is cancelled. -/
theorem Program.calls_guarded_bind {request : Request}
    {next : Except ControllerError request.Answer → Program α} {state : σ} :
    ((guarded request).bind next).calls environment state =
      if environment.cancelled state then (next (.error .cancelled)).calls environment state
      else ⟨state, request, (environment.answer request state).1⟩ ::
        (next (outcome (environment.answer request state).1)).calls environment
          (environment.answer request state).2 := by
  rw [guarded, bind, calls]
  split <;> rfl

/-- A program that ends makes no call. -/
theorem Program.Ends.calls_eq_nil {kind : α → Prop} {program : Program α}
    (ends : Ends kind program) (state : σ) : program.calls environment state = [] := by
  induction ends generalizing state with
  | done => rfl
  | report failure _ ih => exact ih _

end Calls

/-! ## The moment of a cancellation -/

/-- A state with the number of calls that are still made before the token is found cancelled: it is
cancelled during the last of them, which completes. With none left, it is cancelled already. -/
structure Countdown (σ : Type) where
  base : σ
  left : Nat

/-- An environment whose token is cancelled after a number of calls. To be cancelled keeps no call
from being answered. -/
def Environment.countdown {σ : Type} (environment : Environment σ) :
    Environment (Countdown σ) where
  cancelled state := state.left == 0 || environment.cancelled state.base
  answer request state :=
    ((environment.answer request state.base).1,
      ⟨(environment.answer request state.base).2, state.left - 1⟩)
  report failure state := { state with base := environment.report failure state.base }

/-- The call without the countdown. -/
def Exchange.base {σ : Type} (exchange : Exchange (Countdown σ)) : Exchange σ :=
  ⟨exchange.before.base, exchange.request, exchange.reply⟩

namespace Program

section Countdown

variable {σ α : Type} (environment : Environment σ)

/-- A program that ends does not notice the countdown. -/
theorem Ends.run_countdown {kind : α → Prop} {program : Program α} (ends : Ends kind program)
    (state : σ) (left : Nat) :
    program.run environment.countdown ⟨state, left⟩ =
      ((program.run environment state).1, ⟨(program.run environment state).2, left⟩) := by
  induction ends generalizing state with
  | done => rfl
  | report failure _ ih => exact ih (environment.report failure state)

variable {kind : Except ControllerError α → Prop} {program : Program (Except ControllerError α)}

/-- A program whose token is cancelled makes the calls up to that moment, as it would without. -/
theorem Heeds.calls_countdown (heeds : Heeds kind program) (state : σ) (left : Nat) :
    (program.calls environment.countdown ⟨state, left⟩).map Exchange.base =
      (program.calls environment state).take left := by
  induction heeds generalizing state left with
  | done result => simp [calls]
  | @guarded request next stops fails _ ih =>
      rw [calls_guarded_bind, calls_guarded_bind, stops]
      by_cases ended : environment.cancelled state = true
      · simp [Environment.countdown, ended, calls]
      · cases left with
        | zero => simp [Environment.countdown, calls]
        | succ left =>
            have running : environment.countdown.cancelled ⟨state, left + 1⟩ = false := by
              simp [Environment.countdown, ended]
            rw [running, if_neg Bool.false_ne_true, if_neg ended, List.map_cons,
              List.take_succ_cons]
            refine congrArg (List.cons _) ?_
            change List.map _ ((next (outcome (environment.answer request state).1)).calls
              environment.countdown ⟨(environment.answer request state).2, left⟩) = _
            rcases (environment.answer request state).1 with _ | error | answer
            · change List.map _ ((next (.error .cancelled)).calls _ _) =
                ((next (.error .cancelled)).calls _ _).take left
              rw [stops]
              simp [calls]
            · change List.map _ ((next (.error (.store error))).calls _ _) =
                ((next (.error (.store error))).calls _ _).take left
              rw [(fails error).calls_eq_nil, (fails error).calls_eq_nil]
              simp
            · exact ih answer _ left

/-- It stops in the state in which the next call would be made. If there is none, it ends as it
would without. -/
theorem Heeds.run_countdown (heeds : Heeds kind program) (state : σ) (left : Nat) :
    program.run environment.countdown ⟨state, left⟩ =
      match (program.calls environment state)[left]? with
      | some further => (.error .cancelled, ⟨further.before, 0⟩)
      | none => ((program.run environment state).1, ⟨(program.run environment state).2,
          left - (program.calls environment state).length⟩) := by
  induction heeds generalizing state left with
  | done result => simp [calls, run]
  | @guarded request next stops fails _ ih =>
      rw [calls_guarded_bind, run_guarded_bind, run_guarded_bind, stops]
      by_cases ended : environment.cancelled state = true
      · simp [Environment.countdown, ended, calls, run]
      · cases left with
        | zero => simp [Environment.countdown, ended, run]
        | succ left =>
            have running : environment.countdown.cancelled ⟨state, left + 1⟩ = false := by
              simp [Environment.countdown, ended]
            rw [running, if_neg Bool.false_ne_true, if_neg ended, if_neg ended]
            simp only [List.getElem?_cons_succ, List.length_cons, Nat.add_sub_add_right]
            change (next (outcome (environment.answer request state).1)).run
              environment.countdown ⟨(environment.answer request state).2, left⟩ = _
            rcases (environment.answer request state).1 with _ | error | answer
            · simp only [outcome, stops]
              simp [calls, run]
            · simp only [outcome]
              rw [(fails error).calls_eq_nil, (fails error).run_countdown]
              simp
            · exact ih answer _ left

end Countdown

end Program

/-! ## Passes -/

/-- A pass whose token is cancelled during one of its calls, or before it starts, makes exactly the
calls of the pass that is not cancelled, up to and including that one. If that pass makes a further
call, the cancelled one ends with the error `cancelled` in the state that the further call meets:
what was written is kept, and no report is added. Otherwise it ends as that pass does. This holds of
a store in memory, whatever disturbs it, as of every other environment. -/
theorem cancelled_pass_stops_at_call {σ : Type} (environment : Environment σ) (ns name : String)
    (state : σ) (moment : Nat) :
    ((synchronise ns name).calls environment.countdown ⟨state, moment⟩).map Exchange.base =
        ((synchronise ns name).calls environment state).take moment ∧
      (∀ further, ((synchronise ns name).calls environment state)[moment]? = some further →
        (runPass environment.countdown ns name ⟨state, moment⟩).1 = .error .cancelled ∧
        (runPass environment.countdown ns name ⟨state, moment⟩).2.base = further.before) ∧
      (((synchronise ns name).calls environment state)[moment]? = none →
        (runPass environment.countdown ns name ⟨state, moment⟩).1 =
          (runPass environment ns name state).1 ∧
        (runPass environment.countdown ns name ⟨state, moment⟩).2.base =
          (runPass environment ns name state).2) := by
  have heeds := synchronise_heeds ns name
  refine ⟨heeds.calls_countdown environment state moment, fun further next => ?_, fun last => ?_⟩
  · rw [runPass, heeds.run_countdown, next]
    exact ⟨rfl, rfl⟩
  · rw [runPass, heeds.run_countdown, last]
    exact ⟨rfl, rfl⟩

end NodeSync
