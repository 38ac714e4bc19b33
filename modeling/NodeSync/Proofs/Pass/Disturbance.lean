/-
Module: NodeSync.Proofs.Pass.Disturbance
Purpose: Passes on a store in memory that may be disturbed at any call: the call fails, or the pass
  is cancelled before, during or after it, whether the call reached the store or not. `Secures`
  says what holds after a part of a pass, whatever disturbs it: one condition for the case that it
  went through, and one for the case that it was stopped. There is one rule for a call and one for
  putting parts together; with them a pass is followed call by call, without a look at its
  environment.
Main exports: Fate, Disturbed, Disturbed.left_of_answer, Disturbed.serve_of_answer,
  MemoryStore.passUnder, MemoryStore.pass, Pass.Secures, Pass.Secures.bind, Pass.Secures.request,
  Pass.Secures.call, MemoryStore.passUnder_of_secures, Program.run_simulates, runPass_simulates,
  Program.run_keeps, MemoryStore.passUnder_preserves
-/
import NodeSync.Pass.Synchronise
import NodeSync.Proofs.Store.Writes

namespace NodeSync

set_option autoImplicit false

/-! ## The environment -/

/-- What becomes of a call. -/
inductive Fate where
  /-- The store answers. -/
  | served
  /-- The store answers, and the pass is cancelled meanwhile: it makes no further call. -/
  | servedLast
  /-- The call fails. It may have reached the store before, or not. -/
  | failed (error : StoreError) (reached : Bool)
  /-- The pass is cancelled while it waits. The call may have reached the store before, or not. -/
  | unanswered (reached : Bool)
deriving Repr, Inhabited

/-- A store in memory, the fates of the next calls, and what became of the pass so far. Calls
beyond the listed ones are served. -/
structure Disturbed where
  store : MemoryStore
  fates : List Fate
  cancelled : Bool
  /-- The reported failures, oldest first. -/
  reports : List FailureReport

namespace Disturbed

/-- The store carries out a call. -/
def carryOut (state : Disturbed) (request : Request) : request.Reply × Disturbed :=
  ((state.store.answer request).1, { state with store := (state.store.answer request).2 })

/-- A call whose answer is lost. -/
def attempt (state : Disturbed) (request : Request) (reached : Bool) : Disturbed :=
  if reached then (state.carryOut request).2 else state

/-- The reply to a call, if there is one. -/
def answer (request : Request) (state : Disturbed) : Option request.Reply × Disturbed :=
  let rest := { state with fates := state.fates.tail }
  match state.fates.head?.getD .served with
  | .served => (some (rest.carryOut request).1, (rest.carryOut request).2)
  | .servedLast =>
      (some (rest.carryOut request).1, { (rest.carryOut request).2 with cancelled := true })
  | .failed error reached => (some (.error error), rest.attempt request reached)
  | .unanswered reached => (none, rest.attempt request reached)

def environment : Environment Disturbed where
  cancelled state := state.cancelled
  answer := answer
  report failure state := { state with reports := state.reports ++ [failure] }

/-- Nothing disturbs the calls that are still to come. -/
structure Calm (state : Disturbed) : Prop where
  fates : state.fates = []
  cancelled : state.cancelled = false
  failures : ∀ operation, state.store.pendingFailures operation = 0

end Disturbed

namespace MemoryStore

/-- A pass over the machine set at a place whose calls have the given fates: its result, and the
store that it leaves. -/
def passUnder (store : MemoryStore) (fates : List Fate) (ns name : String) :
    Except ControllerError Outcome × MemoryStore :=
  let (result, after) := runPass Disturbed.environment ns name ⟨store, fates, false, []⟩
  (result, after.store)

/-- A pass that neither is cancelled nor has calls fail but for the failures ordered in the
store. -/
def pass (store : MemoryStore) (ns name : String) : Except ControllerError Outcome × MemoryStore :=
  store.passUnder [] ns name

/-- The store with other ordered failures. -/
def withFailures (store : MemoryStore) (pending : Operation → UInt32) : MemoryStore :=
  { store with pendingFailures := pending }

/-- The store with no failure ordered. -/
def withoutFailures (store : MemoryStore) : MemoryStore := store.withFailures fun _ => 0

end MemoryStore

namespace Disturbed

/-- The store carries out a call, unless a failure of it was ordered. -/
theorem carryOut_cases (request : Request) (state : Disturbed) :
    state.carryOut request =
        ((state.store.serve request).1, { state with store := (state.store.serve request).2 }) ∨
      0 < state.store.pendingFailures request.operation ∧ ∃ error pending,
        state.carryOut request =
          (.error error, { state with store := state.store.withFailures pending }) := by
  by_cases unordered : state.store.pendingFailures request.operation = 0
  · left
    rw [carryOut, MemoryStore.answer_of_unordered unordered]
  · have ordered := UInt32.pos_iff_ne_zero.mpr unordered
    refine .inr ⟨ordered, .unavailable ("injected failure for " ++ request.operation.name),
      (state.store.takeFailure request.operation).pendingFailures, ?_⟩
    rw [carryOut, MemoryStore.answer, if_pos ordered]
    rfl

/-- A call is answered by the store. -/
def Answered (request : Request) (state : Disturbed) : Prop :=
  ∃ after, answer request state = (some (state.store.serve request).1, after) ∧
    after.store = (state.store.serve request).2 ∧ (state.Calm → after.Calm)

/-- The store has carried out a call, or it is as it was but for ordered failures. -/
def Left (request : Request) (state after : Disturbed) : Prop :=
  after.store = (state.store.serve request).2 ∨
    ∃ pending, after.store = state.store.withFailures pending

/-- A call fails. -/
def Failed (request : Request) (state : Disturbed) : Prop :=
  ∃ error after, answer request state = (some (.error error), after) ∧ Left request state after

/-- A call has no reply. -/
def Unanswered (request : Request) (state : Disturbed) : Prop :=
  ∃ after, answer request state = (none, after) ∧ Left request state after

theorem left_attempt (request : Request) (state : Disturbed) (reached : Bool) :
    Left request state (state.attempt request reached) := by
  cases reached with
  | false => exact .inr ⟨state.store.pendingFailures, rfl⟩
  | true =>
      rcases carryOut_cases request state with carried | ⟨-, error, pending, carried⟩
      · exact .inl (congrArg (fun result => result.2.store) carried)
      · exact .inr ⟨pending, congrArg (fun result => result.2.store) carried⟩

/-- What becomes of a call that reaches the store and is answered by it. -/
theorem answered_or_failed (request : Request) (state rest : Disturbed) (cancelled : Bool)
    (same : rest.store = state.store)
    (reaches : answer request state =
      (some (rest.carryOut request).1, { (rest.carryOut request).2 with cancelled := cancelled }))
    (calm : state.Calm → rest.fates = [] ∧ cancelled = false) :
    Answered request state ∨ ¬state.Calm ∧ Failed request state := by
  rcases carryOut_cases request rest with carried | ⟨ordered, error, pending, carried⟩
  · left
    rw [carried, same] at reaches
    refine ⟨_, reaches, rfl, fun quiet => ?_⟩
    refine ⟨(calm quiet).1, (calm quiet).2, fun operation => ?_⟩
    exact (congrFun (MemoryStore.serve_pendingFailures state.store request) operation).trans
      (quiet.failures operation)
  · right
    rw [carried, same] at reaches
    rw [same] at ordered
    exact ⟨fun quiet => UInt32.pos_iff_ne_zero.mp ordered (quiet.failures request.operation),
      error, _, reaches, .inr ⟨pending, rfl⟩⟩

/-- A call that is not disturbed is answered by the store. -/
theorem answer_cases (request : Request) (state : Disturbed) :
    Answered request state ∨
      ¬state.Calm ∧ (Failed request state ∨ Unanswered request state) := by
  rcases state with ⟨store, fates, cancelled, reports⟩
  rcases fates with _ | ⟨fate, rest⟩
  · have reached := answered_or_failed request ⟨store, [], cancelled, reports⟩
      ⟨store, [], cancelled, reports⟩ cancelled rfl rfl (fun calm => ⟨rfl, calm.cancelled⟩)
    exact reached.imp_right fun disturbed => ⟨disturbed.1, .inl disturbed.2⟩
  · have disturbed : ¬Calm ⟨store, fate :: rest, cancelled, reports⟩ :=
      fun calm => nomatch calm.fates
    cases fate with
    | served =>
        have reached := answered_or_failed request ⟨store, .served :: rest, cancelled, reports⟩
          ⟨store, rest, cancelled, reports⟩ cancelled rfl rfl (fun calm => absurd calm disturbed)
        exact reached.imp_right fun failed => ⟨disturbed, .inl failed.2⟩
    | servedLast =>
        have reached := answered_or_failed request
          ⟨store, .servedLast :: rest, cancelled, reports⟩ ⟨store, rest, cancelled, reports⟩ true
          rfl rfl (fun calm => absurd calm disturbed)
        exact reached.imp_right fun failed => ⟨disturbed, .inl failed.2⟩
    | failed error reached =>
        exact .inr ⟨disturbed, .inl ⟨error, _, rfl, left_attempt request _ reached⟩⟩
    | unanswered reached =>
        exact .inr ⟨disturbed, .inr ⟨_, rfl, left_attempt request _ reached⟩⟩

/-- A call without listed fate is answered by the store. -/
theorem answer_of_fates_nil {state : Disturbed} (request : Request) (fates : state.fates = []) :
    answer request state =
      (some (state.store.answer request).1,
        { state with store := (state.store.answer request).2 }) := by
  rcases state with ⟨store, _, cancelled, reports⟩
  cases fates
  rfl

/-- After a call the store has carried it out, or it is as it was but for ordered failures. -/
theorem left_of_answer {request : Request} {state after : Disturbed}
    {reply : Option request.Reply} (replied : answer request state = (reply, after)) :
    Left request state after := by
  rcases answer_cases request state with answered | ⟨-, failure | silence⟩
  · obtain ⟨after', replied', left, -⟩ := answered
    rw [replied] at replied'
    rw [(Prod.mk.inj replied').2]
    exact .inl left
  · obtain ⟨error, after', replied', left⟩ := failure
    rw [replied] at replied'
    rw [(Prod.mk.inj replied').2]
    exact left
  · obtain ⟨after', replied', left⟩ := silence
    rw [replied] at replied'
    rw [(Prod.mk.inj replied').2]
    exact left

/-- A call with success was served. -/
theorem serve_of_answer {request : Request} {state after : Disturbed} {given : request.Answer}
    (replied : answer request state = (some (.ok given), after)) :
    (state.store.serve request).1 = .ok given := by
  rcases answer_cases request state with answered | ⟨-, failure | silence⟩
  · obtain ⟨after', replied', -⟩ := answered
    rw [replied] at replied'
    exact (Option.some.inj (Prod.mk.inj replied').1).symm
  · obtain ⟨error, after', replied', -⟩ := failure
    rw [replied] at replied'
    exact nomatch Option.some.inj (Prod.mk.inj replied').1
  · obtain ⟨after', replied', -⟩ := silence
    rw [replied] at replied'
    exact nomatch (Prod.mk.inj replied').1

end Disturbed

/-! ## What holds after a part of a pass -/

namespace Pass

/-- One condition on the result and the state of a part of a pass that went through, and another
one on the error that stopped it and the state. -/
def Meets {σ α : Type} (post : α → σ → Prop) (stopped : ControllerError → σ → Prop) :
    Except ControllerError α × σ → Prop
  | (.ok result, after) => post result after
  | (.error error, after) => stopped error after

/-- What holds after a part of a pass was run. -/
def Ensures {σ α : Type} (environment : Environment σ) (pass : Pass α) (state : σ)
    (post : α → σ → Prop) (stopped : ControllerError → σ → Prop) : Prop :=
  Meets post stopped (pass.run.run environment state)

theorem Ensures.bind {σ α β : Type} {environment : Environment σ} {pass : Pass α}
    {next : α → Pass β} {state : σ} {post : β → σ → Prop}
    {stopped : ControllerError → σ → Prop}
    (first : Ensures environment pass state
      (fun result middle => Ensures environment (next result) middle post stopped) stopped) :
    Ensures environment (pass >>= next) state post stopped := by
  have composed := Program.run_bind environment pass.run (ExceptT.bindCont next) state
  unfold Ensures at first ⊢
  change Meets post stopped
    (Program.run environment (Program.bind pass.run (ExceptT.bindCont next)) state)
  rw [composed]
  rcases ran : pass.run.run environment state with ⟨error | result, after⟩
  · rw [ran] at first
    exact first
  · rw [ran] at first
    exact first

theorem Ensures.imp {σ α : Type} {environment : Environment σ} {pass : Pass α} {state : σ}
    {post post' : α → σ → Prop} {stopped stopped' : ControllerError → σ → Prop}
    (ensured : Ensures environment pass state post stopped)
    (more : ∀ result after, post result after → post' result after)
    (stop : ∀ cause after, stopped cause after → stopped' cause after) :
    Ensures environment pass state post' stopped' := by
  unfold Ensures at ensured ⊢
  rcases ran : pass.run.run environment state with ⟨error | result, after⟩
  · rw [ran] at ensured
    exact stop _ _ ensured
  · rw [ran] at ensured
    exact more _ _ ensured

/-- What holds after a part of a pass that starts on a store in memory, whatever disturbs it. If
`quiet` holds, nothing does. -/
def Secures {α : Type} (quiet : Prop) (pass : Pass α) (store : MemoryStore)
    (post : α → MemoryStore → Prop)
    (stopped : ControllerError → MemoryStore → Prop) : Prop :=
  ∀ state : Disturbed, state.store = store → (quiet → state.Calm) →
    Ensures Disturbed.environment pass state
      (fun result after => (quiet → after.Calm) ∧ post result after.store)
      (fun cause after => stopped cause after.store)

namespace Secures

variable {α β : Type} {quiet : Prop} {store : MemoryStore}
  {stopped : ControllerError → MemoryStore → Prop}

theorem pure {result : α} {post : α → MemoryStore → Prop} (holds : post result store) :
    Secures quiet (Pure.pure result : Pass α) store post stopped := by
  rintro state rfl calm
  exact ⟨calm, holds⟩

theorem throw {error : ControllerError} {post : α → MemoryStore → Prop}
    (holds : stopped error store) :
    Secures quiet (MonadExcept.throw error : Pass α) store post stopped := by
  rintro state rfl _
  exact holds

theorem ite {holds : Prop} [Decidable holds] {first second : Pass α}
    {post : α → MemoryStore → Prop} (yes : holds → Secures quiet first store post stopped)
    (no : ¬holds → Secures quiet second store post stopped) :
    Secures quiet (if holds then first else second) store post stopped := by
  by_cases known : holds
  · rw [if_pos known]
    exact yes known
  · rw [if_neg known]
    exact no known

/-- What is secured whatever disturbs the pass is ensured of the environment. -/
theorem ensures {pass : Pass α} {post : α → MemoryStore → Prop} {state : Disturbed}
    (secured : Secures False pass state.store post stopped) :
    Ensures Disturbed.environment pass state (fun result after => post result after.store)
      (fun cause after => stopped cause after.store) := by
  apply (secured state rfl False.elim).imp
  · exact fun _ _ reached => reached.2
  · exact fun _ _ ended => ended

/-- What the first part secures is where the second one starts. -/
theorem bind {pass : Pass α} {next : α → Pass β} {post : β → MemoryStore → Prop}
    (first : Secures quiet pass store
      (fun result middle => Secures quiet (next result) middle post stopped) stopped) :
    Secures quiet (pass >>= next) store post stopped := by
  intro state start calm
  apply Ensures.bind
  apply (first state start calm).imp
  · intro result middle reached
    exact reached.2 middle rfl reached.1
  · intro cause middle ended
    exact ended

theorem imp {pass : Pass α} {post post' : α → MemoryStore → Prop}
    {stopped' : ControllerError → MemoryStore → Prop}
    (secured : Secures quiet pass store post stopped)
    (more : ∀ result after, post result after → post' result after)
    (stop : ∀ cause after, stopped cause after → stopped' cause after) :
    Secures quiet pass store post' stopped' := by
  intro state start calm
  apply (secured state start calm).imp
  · intro result after reached
    exact ⟨reached.1, more result after.store reached.2⟩
  · intro cause after ended
    exact stop cause after.store ended

/-- A guarded call, before its failure is reported. A disturbed call fails, or it is given up
because the pass is cancelled; in either case the call may have been carried out or not. -/
theorem guarded {request : Request}
    {next : Except ControllerError request.Answer → Program (Except ControllerError α)}
    {post : α → MemoryStore → Prop}
    (refused : ¬quiet → ∀ error pending,
      Secures quiet (ExceptT.mk (next (.error error))) (store.withFailures pending) post stopped)
    (failed : ¬quiet → ∀ error,
      Secures quiet (ExceptT.mk (next (.error error))) (store.serve request).2 post stopped)
    (served : Secures quiet (ExceptT.mk (next (Program.outcome (some (store.serve request).1))))
      (store.serve request).2 post stopped) :
    Secures quiet (ExceptT.mk ((Program.guarded request).bind next)) store post stopped := by
  rintro state rfl calm
  unfold Ensures
  change Meets _ _ (Program.run _ ((Program.guarded request).bind next) state)
  rw [Program.run_guarded_bind]
  by_cases cancelled : Disturbed.environment.cancelled state = true
  · have loud : ¬quiet := fun silent =>
      Bool.false_ne_true ((calm silent).cancelled.symm.trans cancelled)
    rw [if_pos cancelled]
    exact refused loud .cancelled state.store.pendingFailures state rfl
      (fun silent => absurd silent loud)
  · rw [if_neg cancelled]
    rcases Disturbed.answer_cases request state with answered | ⟨disturbed, failure | silence⟩
    · obtain ⟨after, replied, left, stays⟩ := answered
      rw [show Disturbed.environment.answer request state = _ from replied]
      exact served after left (fun silent => stays (calm silent))
    · obtain ⟨error, after, replied, left⟩ := failure
      have loud : ¬quiet := fun silent => disturbed (calm silent)
      rw [show Disturbed.environment.answer request state = _ from replied]
      rcases left with left | ⟨pending, left⟩
      · exact failed loud (.store error) after left (fun silent => absurd silent loud)
      · exact refused loud (.store error) pending after left (fun silent => absurd silent loud)
    · obtain ⟨after, replied, left⟩ := silence
      have loud : ¬quiet := fun silent => disturbed (calm silent)
      rw [show Disturbed.environment.answer request state = _ from replied]
      rcases left with left | ⟨pending, left⟩
      · exact failed loud .cancelled after left (fun silent => absurd silent loud)
      · exact refused loud .cancelled pending after left (fun silent => absurd silent loud)

/-- An error ends the pass, whether it is reported or not. -/
theorem fail {blame : ControllerError → Option FailureReport} {error : ControllerError}
    {post : α → MemoryStore → Prop} (holds : stopped error store) :
    Secures quiet (answerOrFail blame (.error error)) store post stopped := by
  rintro state rfl _
  rw [answerOrFail]
  cases blame error with
  | none => exact holds
  | some failure => exact holds

/-- A call whose failure is reported and ends the pass. -/
theorem call {request : Request} {blame : ControllerError → Option FailureReport}
    {post : request.Answer → MemoryStore → Prop}
    (idle : ¬quiet → ∀ cause pending, stopped cause (store.withFailures pending))
    (lost : ¬quiet → ∀ cause, stopped cause (store.serve request).2)
    (answered : ∀ answer, (store.serve request).1 = .ok answer →
      post answer (store.serve request).2)
    (failed : ∀ error, (store.serve request).1 = .error error →
      stopped (.store error) (store.serve request).2) :
    Secures quiet (Pass.call request blame) store post stopped := by
  rw [Pass.call]
  apply Secures.guarded
  · exact fun loud error pending => Secures.fail (idle loud error pending)
  · exact fun loud error => Secures.fail (lost loud error)
  · cases replied : (store.serve request).1 with
    | ok answer => exact Secures.pure (answered answer replied)
    | error error => exact Secures.fail (failed error replied)

end Secures

end Pass

/-! ## Whole passes -/

namespace MemoryStore

/-- What a whole pass secures holds of its result and of the store that it leaves. The pass is quiet
only if no call is disturbed and no failure is ordered. -/
theorem passUnder_of_secures {quiet : Prop} {store : MemoryStore} (fates : List Fate)
    {ns name : String} {post : Outcome → MemoryStore → Prop}
    {stopped : ControllerError → MemoryStore → Prop}
    (calm : quiet → fates = [] ∧ ∀ operation, store.pendingFailures operation = 0)
    (secured : Pass.Secures quiet (ExceptT.mk (synchronise ns name)) store post stopped) :
    (∃ outcome after, store.passUnder fates ns name = (.ok outcome, after) ∧ post outcome after) ∨
      ∃ cause after, store.passUnder fates ns name = (.error cause, after) ∧
        stopped cause after := by
  have ran := secured ⟨store, fates, false, []⟩ rfl
    (fun silent => ⟨(calm silent).1, rfl, (calm silent).2⟩)
  unfold Pass.Ensures at ran
  change Pass.Meets _ _ ((synchronise ns name).run _ _) at ran
  unfold passUnder runPass
  rcases whole : (synchronise ns name).run Disturbed.environment ⟨store, fates, false, []⟩ with
    ⟨error | outcome, after⟩
  · rw [whole] at ran
    exact .inr ⟨error, after.store, rfl, ran⟩
  · rw [whole] at ran
    exact .inl ⟨outcome, after.store, rfl, ran.2⟩

end MemoryStore

/-- A pass whose outcome is known. -/
theorem MemoryStore.passUnder_of_outcome {store : MemoryStore} {fates : List Fate}
    {ns name : String} {outcome : Outcome}
    (gives : (store.passUnder fates ns name).1.toOption = some outcome) :
    store.passUnder fates ns name = (.ok outcome, (store.passUnder fates ns name).2) := by
  rcases whole : store.passUnder fates ns name with ⟨_ | result, after⟩
  · rw [whole] at gives
    cases gives
  · rw [whole] at gives
    cases gives
    rfl

/-- If two environments are cancelled together, give the same replies and stay in related states, a
program has the same result in both. -/
theorem Program.run_simulates {σ τ α : Type} {first : Environment σ} {second : Environment τ}
    {related : σ → τ → Prop}
    (cancelled : ∀ state state', related state state' →
      first.cancelled state = second.cancelled state')
    (answers : ∀ request state state', related state state' →
      (first.answer request state).1 = (second.answer request state').1 ∧
        related (first.answer request state).2 (second.answer request state').2)
    (reports : ∀ failure state state', related state state' →
      related (first.report failure state) (second.report failure state'))
    (program : Program α) {state : σ} {state' : τ} (start : related state state') :
    (program.run first state).1 = (program.run second state').1 ∧
      related (program.run first state).2 (program.run second state').2 := by
  induction program generalizing state state' with
  | done result => exact ⟨rfl, start⟩
  | report failure rest ih => exact ih (reports failure state state' start)
  | poll next ih =>
      rw [run, run, cancelled state state' start]
      exact ih _ start
  | call request next ih =>
      obtain ⟨replies, left⟩ := answers request state state' start
      rw [run_call, run_call, replies]
      exact ih _ left

/-- So does a whole pass. -/
theorem runPass_simulates {σ τ : Type} {first : Environment σ} {second : Environment τ}
    {related : σ → τ → Prop}
    (cancelled : ∀ state state', related state state' →
      first.cancelled state = second.cancelled state')
    (answers : ∀ request state state', related state state' →
      (first.answer request state).1 = (second.answer request state').1 ∧
        related (first.answer request state).2 (second.answer request state').2)
    (reports : ∀ failure state state', related state state' →
      related (first.report failure state) (second.report failure state'))
    (ns name : String) {state : σ} {state' : τ} (start : related state state') :
    (runPass first ns name state).1 = (runPass second ns name state').1 ∧
      related (runPass first ns name state).2 (runPass second ns name state').2 :=
  Program.run_simulates cancelled answers reports (synchronise ns name) start

/-- What every call and every report preserves holds after any program. -/
theorem Program.run_keeps {σ α : Type} {environment : Environment σ} (holds : σ → Prop)
    (answers : ∀ request state, holds state → holds (environment.answer request state).2)
    (reports : ∀ failure state, holds state → holds (environment.report failure state))
    (program : Program α) {state : σ} (start : holds state) :
    holds (program.run environment state).2 := by
  induction program generalizing state with
  | done result => exact start
  | report failure rest ih => exact ih (reports failure state start)
  | poll next ih => exact ih _ start
  | call request next ih => exact ih _ (answers request state start)

/-- What every call preserves holds after any program, whatever disturbs it. -/
theorem Program.run_preserves {α : Type} {invariant : MemoryStore → Prop}
    (pending : ∀ store pending, invariant store → invariant (store.withFailures pending))
    (serve : ∀ (store : MemoryStore) request, invariant store → invariant (store.serve request).2)
    (program : Program α) (state : Disturbed) (holds : invariant state.store) :
    invariant (program.run Disturbed.environment state).2.store := by
  refine program.run_keeps (fun state : Disturbed => invariant state.store)
    (fun request state holds => ?_) (fun _ _ holds => holds) holds
  change invariant (Disturbed.answer request state).2.store
  rcases replied : Disturbed.answer request state with ⟨reply, after⟩
  change invariant after.store
  rcases Disturbed.left_of_answer replied with left | ⟨pending', left⟩
  · exact left ▸ serve state.store request holds
  · exact left ▸ pending state.store pending' holds

theorem MemoryStore.passUnder_preserves {invariant : MemoryStore → Prop}
    (pending : ∀ store pending, invariant store → invariant (store.withFailures pending))
    (serve : ∀ (store : MemoryStore) request, invariant store → invariant (store.serve request).2)
    {store : MemoryStore} (holds : invariant store) (fates : List Fate) (ns name : String) :
    invariant (store.passUnder fates ns name).2 := by
  change invariant (runPass Disturbed.environment ns name ⟨store, fates, false, []⟩).2.store
  exact Program.run_preserves pending serve (synchronise ns name) _ holds

/-- After a pass that nothing disturbs, no failure is ordered either. -/
theorem MemoryStore.calm_pass {store : MemoryStore}
    (calm : ∀ operation, store.pendingFailures operation = 0) (ns name : String) :
    ∀ operation, (store.pass ns name).2.pendingFailures operation = 0 := by
  have kept : (runPass Disturbed.environment ns name ⟨store, [], false, []⟩).2.Calm := by
    refine (synchronise ns name).run_keeps Disturbed.Calm (fun request state quiet => ?_)
      (fun _ _ quiet => ⟨quiet.fates, quiet.cancelled, quiet.failures⟩) ⟨rfl, rfl, calm⟩
    rcases Disturbed.answer_cases request state with answered | ⟨disturbed, -⟩
    · obtain ⟨after, replied, -, stays⟩ := answered
      change (Disturbed.answer request state).2.Calm
      rw [replied]
      exact stays quiet
    · exact absurd quiet disturbed
  exact kept.failures

/-- A pass leaves the machine sets alone. -/
theorem MemoryStore.passUnder_machineSets (store : MemoryStore) (fates : List Fate)
    (ns name : String) : (store.passUnder fates ns name).2.machineSets = store.machineSets :=
  passUnder_preserves (fun _ _ same => same)
    (fun middle request same => (middle.serve_machineSets request).trans same) rfl fates ns name

end NodeSync
