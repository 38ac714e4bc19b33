/-
Module: NodeSync.Proofs.Pass.Rehearsed
Purpose: What is shown of contested passes holds of rehearsed ones. What the others do in the
  interruptions of a rehearsed pass are events between its calls; an interruption that keeps a call
  from the store, or that cancels the pass, is the fate of the call. So every rehearsed pass is a
  contested one, over a store that is reachable.
Main exports: Rehearsal.Change.event?, Rehearsal.Stage.turn, Rehearsal.Stage.exists_fate,
  Rehearsal.Stage.exists_contested, Rehearsal.Stage.pass_contested,
  Rehearsal.Stage.reachable_perform, Rehearsal.Stage.pass_overtaken
-/
import NodeSync.Proofs.Pass.Cancellation
import NodeSync.Proofs.Pass.Contention
import NodeSync.Proofs.Store.History
import NodeSync.Rehearsal.Stage

namespace NodeSync

set_option autoImplicit false

/-- Events lead from reachable stores to reachable ones. -/
theorem MemoryStore.Reachable.run {store : MemoryStore} (reachable : store.Reachable)
    (events : List Event) : (store.run events).Reachable := by
  induction events generalizing store with
  | nil => exact reachable
  | cons event later ih => exact ih (.apply event reachable)

/-- The reply of a contested store, after the turn of the others. -/
theorem Contested.answer_eq (request : Request) (state : Contested) :
    ∃ journal, Contested.environment.answer request state =
      ((Disturbed.answer request
          { state.base with store := state.store.run (state.turns.head?.getD []) }).1,
        ⟨(Disturbed.answer request
            { state.base with store := state.store.run (state.turns.head?.getD []) }).2,
          state.turns.tail, journal⟩) := by
  have befallen : ∀ (events : List Event) (state : Contested), ∃ journal,
      events.foldl befall state =
        ⟨{ state.base with store := state.store.run events }, state.turns, journal⟩ := by
    intro events
    induction events with
    | nil => exact fun state => ⟨state.journal, rfl⟩
    | cons event later ih => exact fun state => ih (state.befall event)
  obtain ⟨journal, ready⟩ :=
    befallen (state.turns.head?.getD []) { state with turns := state.turns.tail }
  change ∃ journal, meet request state.ready = _
  rw [Contested.ready, ready]
  exact ⟨_, rfl⟩

/-- If related states take reports alike, a program that ends has the same result in both. -/
theorem Program.Ends.run_simulates {σ τ α : Type} {kind : α → Prop} {first : Environment σ}
    {second : Environment τ} {related : σ → τ → Prop}
    (reports : ∀ failure state state', related state state' →
      related (first.report failure state) (second.report failure state'))
    {program : Program α} (ends : program.Ends kind) {state : σ} {state' : τ}
    (start : related state state') :
    (program.run first state).1 = (program.run second state').1 ∧
      related (program.run first state).2 (program.run second state').2 := by
  induction ends generalizing state state' with
  | done => exact ⟨rfl, start⟩
  | report failure _ ih => exact ih (reports failure state state' start)

namespace Rehearsal

/-! ## Interruptions as events -/

/-- What a change is to the store. Tokens and further interruptions do not concern it. -/
def Change.event? : Change → Option Event
  | .addMachineSet machineSet => some (.addMachineSet machineSet)
  | .addMachine machine => some (.addMachine machine)
  | .addNode node => some (.addNode node)
  | .removeMachineSet key => some (.removeMachineSet key)
  | .editMachineSet key spec =>
      some (.editMachineSet key fun machineSet => { machineSet with spec := spec })
  | .editNode name edit => some (.editNode name edit.apply)
  | .failNext operation => some (.failNext operation)
  | .clearUpdates => some .clearUpdates
  | .cancel | .renewToken | .interrupt .. => none

/-- What others do to the store in interruptions, up to one after which the call does not go on. -/
def eventsOf : List Interruption → List Event
  | [] => []
  | interruption :: rest =>
      interruption.changes.filterMap Change.event? ++
        match interruption.ending with
        | .goesOn => eventsOf rest
        | .fails _ | .hangs => []

namespace Stage

/-- What others do to the store before a call. -/
def turn (stage : Stage) (request : Request) : List Event :=
  eventsOf (stage.countdown request.operation).1

/-- A stage after events that befell its store. No failure was reported meanwhile. -/
structure Befallen (events : List Event) (stage after : Stage) : Prop where
  store : after.store = stage.store.run events
  failures : after.failures = stage.failures

variable {stage after : Stage} {events later : List Event}

theorem Befallen.trans {last : Stage} (first : Befallen events stage after)
    (second : Befallen later after last) : Befallen (events ++ later) stage last where
  store := by rw [second.store, first.store, MemoryStore.run_append]
  failures := second.failures.trans first.failures

/-- A change is one event at most. -/
theorem befallen_apply (stage : Stage) (change : Change) :
    Befallen change.event?.toList stage (stage.apply change).2 := by
  cases change with
  | failNext operation =>
      have counted : stage.store.run [.failNext operation] =
          (stage.store.failNext? operation).getD stage.store := rfl
      rw [Stage.apply]
      cases ordered : stage.store.failNext? operation with
      | some store => exact ⟨by rw [Change.event?, Option.toList, counted, ordered]; rfl, rfl⟩
      | none => exact ⟨by rw [Change.event?, Option.toList, counted, ordered]; rfl, rfl⟩
  | _ => exact ⟨rfl, rfl⟩

theorem befallen_applyAll (stage : Stage) (changes : List Change) :
    Befallen (changes.filterMap Change.event?) stage (stage.applyAll changes) := by
  induction changes generalizing stage with
  | nil => exact ⟨rfl, rfl⟩
  | cons change rest ih =>
      have split : (change :: rest).filterMap Change.event? =
          change.event?.toList ++ rest.filterMap Change.event? := by
        cases happens : change.event? <;> simp [happens]
      rw [split]
      exact (stage.befallen_apply change).trans (ih _)

/-- Interruptions do to the store what their events do. -/
theorem befallen_interrupt (stage : Stage) (interruptions : List Interruption) :
    Befallen (eventsOf interruptions) stage (stage.interrupt interruptions).2 := by
  induction interruptions generalizing stage with
  | nil => exact ⟨rfl, rfl⟩
  | cons interruption rest ih =>
      have changed := stage.befallen_applyAll interruption.changes
      rw [interrupt, eventsOf]
      cases interruption.ending with
      | goesOn => exact changed.trans (ih _)
      | fails error => exact changed.trans ⟨rfl, rfl⟩
      | hangs => exact changed.trans ⟨rfl, rfl⟩

/-- After the interruptions before it, a call is answered by the store, fails or never completes. -/
theorem call_cases (stage : Stage) (request : Request) :
    ∃ ready, Befallen (stage.turn request) stage ready ∧
      (stage.call request = (some (ready.store.answer request).1,
          { ready with store := (ready.store.answer request).2 }) ∨
        (∃ error, stage.call request = (some (.error error), ready)) ∨
        stage.call request = (none, ready)) := by
  have befallen := befallen_interrupt (stage.countdown request.operation).2
    (stage.countdown request.operation).1
  refine ⟨_, ⟨befallen.store, befallen.failures⟩, ?_⟩
  rw [call]
  dsimp only
  generalize (stage.countdown request.operation).2.interrupt
    (stage.countdown request.operation).1 = ended
  rcases ended with ⟨_ | error | _, ready⟩
  · exact .inl rfl
  · exact .inr (.inl ⟨error, rfl⟩)
  · exact .inr (.inr rfl)

/-! ## Rehearsed passes -/

/-- A contested store in the state of a rehearsal. -/
structure Follows (earlier : List FailureReport) (stage : Stage) (state : Contested) : Prop where
  store : state.store = stage.store
  failures : stage.failures = earlier ++ state.base.reports

/-- The same, where it is known what becomes of the next calls. -/
structure Foresees (token : Nat) (earlier : List FailureReport) (fates : List Fate)
    (turns : List (List Event)) (stage : Stage) (state : Contested) : Prop
    extends Follows earlier stage state where
  fates : state.base.fates = fates
  turns : state.turns = turns
  cancelled : state.base.cancelled = stage.cancelled.contains token

section Runs

variable {token : Nat} {earlier : List FailureReport} {state : Contested}

theorem Follows.report (follows : Follows earlier stage state) (failure : FailureReport) :
    Follows earlier ((environment token).report failure stage)
      (Contested.environment.report failure state) where
  store := follows.store
  failures := by
    change stage.failures ++ [failure] = earlier ++ (state.base.reports ++ [failure])
    rw [follows.failures, List.append_assoc]

/-- A contested call meets the store as the interruptions before the rehearsed one have left it. -/
theorem Foresees.answer_eq {fate : Fate} {fates : List Fate} {turn : List Event}
    {turns : List (List Event)} {ready : Stage}
    (foresees : Foresees token earlier (fate :: fates) (turn :: turns) stage state)
    (befallen : Befallen turn stage ready) (request : Request) :
    ∃ journal, Contested.environment.answer request state =
      ((Disturbed.answer request
          ⟨ready.store, fate :: fates, state.base.cancelled, state.base.reports⟩).1,
        ⟨(Disturbed.answer request
            ⟨ready.store, fate :: fates, state.base.cancelled, state.base.reports⟩).2,
          turns, journal⟩) := by
  have answered := Contested.answer_eq request state
  rw [foresees.turns] at answered
  rcases state with ⟨⟨store, fates', cancelled, reports⟩, turns', journal⟩
  obtain ⟨⟨rfl, -⟩, rfl, -⟩ := foresees
  rw [befallen.store]
  exact answered

/-- A rehearsed call of a pass that is not cancelled is a contested one with some fate. -/
theorem exists_fate (earlier : List FailureReport)
    (running : stage.cancelled.contains token = false) (request : Request) :
    ∃ fate, ∀ fates turns state,
      Foresees token earlier (fate :: fates) (stage.turn request :: turns) stage state →
        (stage.call request).1 = (Contested.environment.answer request state).1 ∧
        Follows earlier (stage.call request).2 (Contested.environment.answer request state).2 ∧
        ∀ answer, (stage.call request).1 = some (.ok answer) →
          Foresees token earlier fates turns (stage.call request).2
            (Contested.environment.answer request state).2 := by
  obtain ⟨ready, befallen, answered | ⟨error, failed⟩ | hangs⟩ := stage.call_cases request
  · rw [answered]
    cases ended : ready.cancelled.contains token with
    | true =>
        refine ⟨.servedLast, fun fates turns state foresees => ?_⟩
        obtain ⟨journal, meets⟩ := foresees.answer_eq befallen request
        have failures := befallen.failures.trans foresees.failures
        rw [meets]
        exact ⟨rfl, ⟨rfl, failures⟩, fun _ _ => ⟨⟨rfl, failures⟩, rfl, rfl, ended.symm⟩⟩
    | false =>
        refine ⟨.served, fun fates turns state foresees => ?_⟩
        obtain ⟨journal, meets⟩ := foresees.answer_eq befallen request
        have failures := befallen.failures.trans foresees.failures
        have goesOn := (foresees.cancelled.trans running).trans ended.symm
        rw [meets]
        exact ⟨rfl, ⟨rfl, failures⟩, fun _ _ => ⟨⟨rfl, failures⟩, rfl, rfl, goesOn⟩⟩
  · rw [failed]
    refine ⟨.failed error false, fun fates turns state foresees => ?_⟩
    obtain ⟨journal, meets⟩ := foresees.answer_eq befallen request
    rw [meets]
    exact ⟨rfl, ⟨rfl, befallen.failures.trans foresees.failures⟩, nofun⟩
  · rw [hangs]
    refine ⟨.unanswered false, fun fates turns state foresees => ?_⟩
    obtain ⟨journal, meets⟩ := foresees.answer_eq befallen request
    rw [meets]
    exact ⟨rfl, ⟨rfl, befallen.failures.trans foresees.failures⟩, nofun⟩

/-- A rehearsed program that heeds its token goes like a contested one, with some fates of its calls
and some turns of the others. -/
theorem exists_contested {α : Type} {kind : Except ControllerError α → Prop}
    {program : Program (Except ControllerError α)} (heeds : program.Heeds kind) (token : Nat)
    (earlier : List FailureReport) (stage : Stage) :
    ∃ fates turns, ∀ state, Foresees token earlier fates turns stage state →
      (program.run (environment token) stage).1 = (program.run Contested.environment state).1 ∧
        Follows earlier (program.run (environment token) stage).2
          (program.run Contested.environment state).2 := by
  induction heeds generalizing stage with
  | done result => exact ⟨[], [], fun state foresees => ⟨rfl, foresees.toFollows⟩⟩
  | @guarded request next stops fails _ ih =>
      cases ended : stage.cancelled.contains token with
      | true =>
          refine ⟨[], [], fun state foresees => ?_⟩
          have made : ((Program.guarded request).bind next).run (environment token) stage =
              (next (.error .cancelled)).run (environment token) stage :=
            Program.run_guarded_of_cancelled ended
          rw [made, Program.run_guarded_of_cancelled (foresees.cancelled.trans ended), stops]
          exact ⟨rfl, foresees.toFollows⟩
      | false =>
          obtain ⟨fate, meets⟩ := exists_fate earlier ended request
          have made : ((Program.guarded request).bind next).run (environment token) stage =
              (next (Program.outcome (stage.call request).1)).run (environment token)
                (stage.call request).2 := Program.run_guarded_of_running ended
          have contested : ∀ fates turns state,
              Foresees token earlier (fate :: fates) (stage.turn request :: turns) stage state →
              ((Program.guarded request).bind next).run Contested.environment state =
                (next (Program.outcome (stage.call request).1)).run Contested.environment
                  (Contested.environment.answer request state).2 := by
            intro fates turns state foresees
            rw [Program.run_guarded_of_running (foresees.cancelled.trans ended),
              ← (meets fates turns state foresees).1]
          rw [made]
          rcases called : (stage.call request).1 with _ | error | answer
          · refine ⟨[fate], [stage.turn request], fun state foresees => ?_⟩
            rw [contested _ _ state foresees, called, Program.outcome, stops]
            exact ⟨rfl, (meets _ _ state foresees).2.1⟩
          · refine ⟨[fate], [stage.turn request], fun state foresees => ?_⟩
            rw [contested _ _ state foresees, called]
            exact (fails error).run_simulates (fun failure _ _ same => same.report failure)
              (meets _ _ state foresees).2.1
          · obtain ⟨fates, turns, further⟩ := ih answer (stage.call request).2
            refine ⟨fate :: fates, stage.turn request :: turns, fun state foresees => ?_⟩
            rw [contested _ _ state foresees, called]
            exact further _ ((meets _ _ state foresees).2.2 answer called)

end Runs

/-- A rehearsed pass, whatever interrupts or cancels it, is a contested one over the store of the
rehearsal: it has the same result, and leaves the same store and the same reports. -/
theorem pass_contested (stage : Stage) (ns name : String) :
    ∃ fates turns,
      (stage.pass ns name).1 = (stage.store.contestedPass fates turns ns name).1 ∧
      (stage.pass ns name).2.store = (stage.store.contestedPass fates turns ns name).2.store ∧
      (stage.pass ns name).2.failures = stage.failures ++
        (stage.store.contestedPass fates turns ns name).2.base.reports := by
  have heeds := synchronise_heeds ns name
  cases running : stage.cancelled.contains stage.token with
  | false =>
      obtain ⟨fates, turns, same⟩ := exists_contested heeds stage.token stage.failures stage
      obtain ⟨results, left⟩ := same ⟨⟨stage.store, fates, false, []⟩, turns, []⟩
        ⟨⟨rfl, (List.append_nil _).symm⟩, rfl, rfl, running.symm⟩
      exact ⟨fates, turns, results, left.store.symm, left.failures⟩
  | true =>
      -- A pass that is cancelled before it starts does as one whose first call has no reply.
      have none : (synchronise ns name).run (environment stage.token) stage =
          (.error .cancelled, stage) := Program.run_guarded_of_cancelled running
      refine ⟨[.unanswered false], [], ?_⟩
      rw [pass, runPass, none]
      exact ⟨rfl, rfl, (List.append_nil _).symm⟩

/-! ## Rehearsed histories -/

/-- The stage after steps. -/
def performAll (stage : Stage) (steps : List Step) : Stage :=
  steps.foldl (fun stage step => (stage.perform step).2) stage

theorem Befallen.reachable (befallen : Befallen events stage after)
    (reachable : stage.store.Reachable) : after.store.Reachable := by
  rw [befallen.store]
  exact reachable.run events

theorem reachable_call (reachable : stage.store.Reachable) (request : Request) :
    (stage.call request).2.store.Reachable := by
  obtain ⟨ready, befallen, answered | ⟨error, failed⟩ | hangs⟩ := stage.call_cases request
  · rw [answered]
    exact .apply (.call request) (befallen.reachable reachable)
  · rw [failed]
    exact befallen.reachable reachable
  · rw [hangs]
    exact befallen.reachable reachable

theorem reachable_pass (reachable : stage.store.Reachable) (ns name : String) :
    (stage.pass ns name).2.store.Reachable :=
  (synchronise ns name).run_keeps (fun stage : Stage => stage.store.Reachable)
    (fun request _ reachable => reachable_call reachable request)
    (fun _ _ reachable => reachable) reachable

/-- Every step of a rehearsal is one of the store's history. -/
theorem reachable_perform (reachable : stage.store.Reachable) (step : Step) :
    (stage.perform step).2.store.Reachable := by
  cases step with
  | change change => exact (stage.befallen_apply change).reachable reachable
  | call request =>
      have called := reachable_call reachable request
      rw [perform]
      generalize stage.call request = result at called ⊢
      rcases result with ⟨_ | reply, after⟩
      · exact called
      · exact called
  | reconcile ns name => exact reachable_pass reachable ns name
  | trigger machineSet => exact reachable_pass reachable _ _
  | _ => exact reachable

/-- So every store that a rehearsal comes to is one with a history. -/
theorem reachable_performAll (minimum maximum resync : UInt64) (steps : List Step) :
    ((start minimum maximum resync).performAll steps).store.Reachable := by
  have all : ∀ stage : Stage, stage.store.Reachable → (stage.performAll steps).store.Reachable := by
    induction steps with
    | nil => exact fun _ reachable => reachable
    | cons step rest ih => exact fun stage reachable => ih _ (reachable_perform reachable step)
  exact all _ .empty

/-- An interruption that changes an object after a rehearsed pass has read or written it overtakes
the next update of that object: it is not carried out, and the pass ends with its error. -/
theorem pass_overtaken (minimum maximum resync : UInt64) (steps : List Step) (ns name : String) :
    let stage := (start minimum maximum resync).performAll steps
    ∃ fates turns,
      (stage.pass ns name).1 = (stage.store.contestedPass fates turns ns name).1 ∧
      ∀ before request reply older slot item,
        .call before request reply :: older <:+
          (stage.store.contestedPass fates turns ns name).2.journal →
        request.update? = some (slot, item) → HitSince slot older →
        Overtaken fates (stage.pass ns name).1 (stage.pass ns name).2.store before request
          reply := by
  intro stage
  obtain ⟨fates, turns, results, stores, -⟩ := stage.pass_contested ns name
  refine ⟨fates, turns, results, ?_⟩
  intro before request reply older slot item made updates hit
  rw [results, stores]
  exact contestedPass_overtaken (reachable_performAll minimum maximum resync steps) made updates hit

end Stage

end Rehearsal

end NodeSync
