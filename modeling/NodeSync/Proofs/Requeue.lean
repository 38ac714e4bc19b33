/-
Module: NodeSync.Proofs.Requeue
Purpose: When a machine set is looked at again, over whole histories of events. Every event of a
  machine set runs a pass and ends with a decision. The delay after a failed pass depends on the
  failures of the same machine set since its last pass that succeeded, and on nothing else: what
  happens to other machine sets, to the store or to cancelled passes has no part in it.
Main exports: Episode, failuresInRow, Backoffs.Follows, Backoffs.Follows.decided,
  Rehearsal.Stage.episodes, Rehearsal.requeue_follows_failures
-/
import NodeSync.Proofs.Backoff
import NodeSync.Proofs.Pass.Disturbance
import NodeSync.Rehearsal.Stage

namespace NodeSync

set_option autoImplicit false

/-! ## Histories of events -/

/-- An event of a machine set as it was handled: the key of the set, the result of the pass, and
the decision. -/
structure Episode where
  key : String
  result : Except ControllerError Outcome
  decision : Decision

namespace Episode

/-- The pass went through, or found that the machine set is gone. -/
def succeeded (episode : Episode) : Bool :=
  match episode.result with
  | .ok _ => true
  | .error _ => false

/-- The pass failed. One that was cancelled did not. -/
def failed (episode : Episode) : Bool :=
  match episode.result with
  | .ok _ => false
  | .error .cancelled => false
  | .error _ => true

end Episode

/-- The failed passes of a machine set since its last one that succeeded. -/
def failuresInRow (key : String) (past : List Episode) : Nat :=
  ((past.reverse.filter (·.key == key)).takeWhile (!·.succeeded)).countP Episode.failed

section Rows

variable {key : String} {past : List Episode} {episode : Episode}

/-- An event of another machine set changes nothing. -/
theorem failuresInRow_of_ne (other : episode.key ≠ key) :
    failuresInRow key (past ++ [episode]) = failuresInRow key past := by
  simp [failuresInRow, other]

/-- A pass that succeeds ends the row. -/
theorem failuresInRow_of_succeeded (own : episode.key = key) (success : episode.succeeded = true) :
    failuresInRow key (past ++ [episode]) = 0 := by
  simp [failuresInRow, own, success]

/-- A failed pass is one more, a cancelled one is not. -/
theorem failuresInRow_of_not_succeeded (own : episode.key = key)
    (ended : episode.succeeded = false) :
    failuresInRow key (past ++ [episode]) =
      failuresInRow key past + if episode.failed then 1 else 0 := by
  simp [failuresInRow, own, ended, List.countP_cons]

end Rows

/-! ## The failures that are kept -/

namespace Backoffs

section Operations

variable (backoffs : Backoffs) (key other : String)

/-- A success starts over, whether anything was kept of the machine set or not. -/
theorem failures_reset : (backoffs.reset key).failures other =
    if other = key then ⟨(backoffs.failures key).backoff.reset, 0⟩
    else backoffs.failures other := by
  by_cases same : other = key
  · subst same
    cases found : backoffs.states.get? other with
    | none => simp [reset, failures, found, Backoff.reset, Backoff.start]
    | some kept => simp [reset, failures, found]
  · cases found : backoffs.states.get? key with
    | none => simp [reset, found, same]
    | some kept => simp [reset, failures, found, same, SortedMap.get?_insert_of_ne]

theorem bounds_reset : (backoffs.reset key).minimum = backoffs.minimum ∧
    (backoffs.reset key).maximum = backoffs.maximum := by
  cases found : backoffs.states.get? key with
  | none => simp [reset, found]
  | some kept => simp [reset, found]

/-- What is dropped counts as nothing. -/
theorem failures_forget : (backoffs.forget key).failures other =
    if other = key then ⟨Backoff.start backoffs.minimum backoffs.maximum, 0⟩
    else backoffs.failures other := by
  by_cases same : other = key
  · simp [forget, failures, same]
  · simp [forget, failures, same, SortedMap.get?_erase_of_ne]

/-- A failure moves on to the next delay. -/
theorem failures_delay : (backoffs.delay key).2.failures other =
    if other = key then ⟨(backoffs.failures key).backoff.next.2, (backoffs.failures key).count + 1⟩
    else backoffs.failures other := by
  by_cases same : other = key
  · simp [delay, failures, same]
  · simp [delay, failures, same, SortedMap.get?_insert_of_ne]

end Operations

/-- What is kept of every machine set is the number of its failures in a row, and the state of the
delays after so many. -/
structure Follows (minimum maximum : UInt64) (past : List Episode) (backoffs : Backoffs) :
    Prop where
  lowest : backoffs.minimum = minimum
  highest : backoffs.maximum = maximum
  failures : ∀ key, backoffs.failures key =
    ⟨(Backoff.start minimum maximum).after (failuresInRow key past), failuresInRow key past⟩

namespace Follows

variable {minimum maximum : UInt64} {past : List Episode} {backoffs after : Backoffs}
  {episode : Episode}

theorem start (minimum maximum : UInt64) :
    Follows minimum maximum [] (Backoffs.start minimum maximum) := ⟨rfl, rfl, fun _ => rfl⟩

/-- An event concerns its own machine set only. -/
theorem next (follows : Follows minimum maximum past backoffs)
    (bounds : after.minimum = backoffs.minimum ∧ after.maximum = backoffs.maximum)
    (own : after.failures episode.key =
      ⟨(Backoff.start minimum maximum).after (failuresInRow episode.key (past ++ [episode])),
        failuresInRow episode.key (past ++ [episode])⟩)
    (others : ∀ key, key ≠ episode.key → after.failures key = backoffs.failures key) :
    Follows minimum maximum (past ++ [episode]) after where
  lowest := bounds.1.trans follows.lowest
  highest := bounds.2.trans follows.highest
  failures key := by
    by_cases same : key = episode.key
    · rw [same, own]
    · rw [others key same, follows.failures, failuresInRow_of_ne (Ne.symm same)]

/-- After a pass that found its machine set, the row of failures is over. -/
theorem reset (episode : Episode) (follows : Follows minimum maximum past backoffs)
    (success : episode.succeeded = true) :
    Follows minimum maximum (past ++ [episode]) (backoffs.reset episode.key) := by
  refine follows.next (backoffs.bounds_reset _) ?_ fun key other => ?_
  · rw [failures_reset, failuresInRow_of_succeeded rfl success]
    simp [follows.failures, Backoff.reset_after, Backoff.after]
  · simp [failures_reset, other]

/-- So it is once the machine set is gone. -/
theorem reset_forget (episode : Episode) (follows : Follows minimum maximum past backoffs)
    (success : episode.succeeded = true) :
    Follows minimum maximum (past ++ [episode])
      ((backoffs.forget episode.key).reset episode.key) := by
  refine follows.next (bounds_reset _ _) ?_ fun key other => ?_
  · rw [failures_reset, failuresInRow_of_succeeded rfl success]
    simp [failures_forget, follows.lowest, follows.highest, Backoff.reset, Backoff.start,
      Backoff.after]
  · simp [failures_reset, failures_forget, other]

/-- A failure makes the row one longer. -/
theorem delay (episode : Episode) (follows : Follows minimum maximum past backoffs)
    (failure : episode.failed = true) (ended : episode.succeeded = false) :
    Follows minimum maximum (past ++ [episode]) (backoffs.delay episode.key).2 := by
  refine follows.next ⟨rfl, rfl⟩ ?_ fun key other => ?_
  · rw [failures_delay, failuresInRow_of_not_succeeded rfl ended]
    simp [follows.failures, failure, Backoff.after]
  · simp [failures_delay, other]

/-- A cancelled pass changes nothing. -/
theorem pause (follows : Follows minimum maximum past backoffs) (failure : episode.failed = false)
    (ended : episode.succeeded = false) :
    Follows minimum maximum (past ++ [episode]) backoffs := by
  refine follows.next ⟨rfl, rfl⟩ ?_ fun key other => rfl
  rw [follows.failures, failuresInRow_of_not_succeeded rfl ended]
  simp [failure]

end Follows

end Backoffs

/-- The decision that is due after an event, given those before it. -/
structure Episode.Decided (minimum maximum resync : UInt64) (past : List Episode)
    (episode : Episode) : Prop where
  resynced : ∀ outcome, episode.result = .ok outcome → outcome ≠ .gone →
    episode.decision = .requeue resync
  awaited : episode.result = .ok .gone ∨ episode.result = .error .cancelled →
    episode.decision = .awaitChange
  retried : ∀ error, episode.result = .error error → error ≠ .cancelled →
    episode.decision = .requeue
      ((Backoff.start minimum maximum).delayAfter (failuresInRow episode.key past))

/-- Whatever the result of a pass, the decision is the one that is due, and the failures are kept
up to date. -/
theorem Backoffs.Follows.decided {minimum maximum : UInt64} {past : List Episode}
    {backoffs : Backoffs} (follows : Follows minimum maximum past backoffs) (resync : UInt64)
    (key : String) (result : Except ControllerError Outcome) :
    Episode.Decided minimum maximum resync past
        ⟨key, result, (requeueDecision (backoffs.afterPass key result) resync key result).1⟩ ∧
      Follows minimum maximum
        (past ++
          [⟨key, result, (requeueDecision (backoffs.afterPass key result) resync key result).1⟩])
        (requeueDecision (backoffs.afterPass key result) resync key result).2 := by
  cases result with
  | error error =>
      by_cases cancelled : error = .cancelled
      · subst cancelled
        exact ⟨⟨by simp, fun _ => rfl, by simp⟩, follows.pause rfl rfl⟩
      · have delayed : requeueDecision (backoffs.afterPass key (.error error)) resync key
            (.error error) = (.requeue (backoffs.delay key).1.1, (backoffs.delay key).2) := by
          cases error with
          | cancelled => exact absurd rfl cancelled
          | _ => rfl
        have failed : Episode.failed ⟨key, .error error, .requeue (backoffs.delay key).1.1⟩ =
            true := by
          cases error with
          | cancelled => exact absurd rfl cancelled
          | _ => rfl
        rw [delayed]
        refine ⟨⟨by simp, by simp [cancelled], fun _ _ _ => ?_⟩,
          follows.delay ⟨key, _, _⟩ failed rfl⟩
        simp [Backoffs.delay, follows.failures, Backoff.delayAfter]
  | ok outcome =>
      cases outcome with
      | gone => exact ⟨⟨by simp, fun _ => rfl, by simp⟩, follows.reset_forget ⟨key, _, _⟩ rfl⟩
      | synced => exact ⟨⟨fun _ _ _ => rfl, by simp, by simp⟩, follows.reset ⟨key, _, _⟩ rfl⟩
      | degraded warnings =>
          exact ⟨⟨fun _ _ _ => rfl, by simp, by simp⟩, follows.reset ⟨key, _, _⟩ rfl⟩

/-! ## Rehearsed histories -/

namespace Rehearsal

/-- The step reaches for the delays without an event of a machine set. -/
def Step.bypasses : Step → Bool
  | .reconcile .. | .delayAfterFailure _ | .resetBackoff _ => true
  | _ => false

/-- The decision in an answer. -/
def Answer.decision? : Answer → Option Decision
  | .decision due _ _ _ => some due
  | _ => none

namespace Stage

/-- The event that a step is, as it is handled. -/
def episode? (stage : Stage) : Step → Option Episode
  | .trigger machineSet =>
      (stage.perform (.trigger machineSet)).1.decision?.map fun decision =>
        ⟨machineSet.key,
          (stage.pass (machineSet.metadata.ns.getD "") machineSet.metadata.anyName).1, decision⟩
  | _ => none

/-- The events of steps that are taken one after the other. -/
def episodes (stage : Stage) : List Step → List Episode
  | [] => []
  | step :: rest => (stage.episode? step).toList ++ (stage.perform step).2.episodes rest

/-- Two stages with the same delays. -/
structure SameDelays (stage after : Stage) : Prop where
  backoffs : after.backoffs = stage.backoffs
  resync : after.resync = stage.resync

theorem SameDelays.trans {first second third : Stage} (one : first.SameDelays second)
    (two : second.SameDelays third) : first.SameDelays third :=
  ⟨two.backoffs.trans one.backoffs, two.resync.trans one.resync⟩

/-- The changes that others make do not concern the delays. -/
theorem sameDelays_apply (stage : Stage) (change : Change) :
    stage.SameDelays (stage.apply change).2 := by
  cases change with
  | failNext operation =>
      rw [apply]
      cases stage.store.failNext? operation with
      | some store => exact ⟨rfl, rfl⟩
      | none => exact ⟨rfl, rfl⟩
  | _ => exact ⟨rfl, rfl⟩

theorem sameDelays_applyAll (stage : Stage) (changes : List Change) :
    stage.SameDelays (stage.applyAll changes) := by
  induction changes generalizing stage with
  | nil => exact ⟨rfl, rfl⟩
  | cons change rest ih => exact (stage.sameDelays_apply change).trans (ih _)

theorem sameDelays_interrupt (stage : Stage) (interruptions : List Interruption) :
    stage.SameDelays (stage.interrupt interruptions).2 := by
  induction interruptions generalizing stage with
  | nil => exact ⟨rfl, rfl⟩
  | cons interruption rest ih =>
      have changed := stage.sameDelays_applyAll interruption.changes
      rw [interrupt]
      cases interruption.ending with
      | goesOn => exact changed.trans (ih _)
      | fails error => exact changed
      | hangs => exact changed.trans ⟨rfl, rfl⟩

theorem sameDelays_call (stage : Stage) (request : Request) :
    stage.SameDelays (stage.call request).2 := by
  have counted : stage.SameDelays (stage.countdown request.operation).2 := ⟨rfl, rfl⟩
  have interrupted := counted.trans
    (sameDelays_interrupt _ (stage.countdown request.operation).1)
  rw [call]
  dsimp only
  generalize (stage.countdown request.operation).2.interrupt
    (stage.countdown request.operation).1 = ended at interrupted ⊢
  rcases ended with ⟨_ | error | _, after⟩
  · exact interrupted.trans ⟨rfl, rfl⟩
  · exact interrupted
  · exact interrupted

/-- While a pass runs, the delays stay as they are. -/
theorem sameDelays_runPass (stage : Stage) (token : Nat) (ns name : String) :
    stage.SameDelays (runPass (environment token) ns name stage).2 := by
  rw [runPass]
  exact (synchronise ns name).run_keeps stage.SameDelays
    (fun request middle same => same.trans (middle.sameDelays_call request))
    (fun _ _ same => same.trans ⟨rfl, rfl⟩) ⟨rfl, rfl⟩

theorem pass_delays (stage : Stage) (ns name : String) :
    (stage.pass ns name).2.backoffs =
        stage.backoffs.afterPass (ns ++ "/" ++ name) (stage.pass ns name).1 ∧
      (stage.pass ns name).2.resync = stage.resync := by
  have same := stage.sameDelays_runPass stage.token ns name
  exact ⟨by simp [pass, same.backoffs], same.resync⟩

/-- A step that is no event leaves the delays alone. -/
theorem sameDelays_perform {stage : Stage} {step : Step} (usual : step.bypasses = false)
    (still : stage.episode? step = none) : stage.SameDelays (stage.perform step).2 := by
  cases step with
  | trigger machineSet => simp [episode?, perform, Answer.decision?] at still
  | reconcile ns name => cases usual
  | delayAfterFailure key => cases usual
  | resetBackoff key => cases usual
  | change change => exact stage.sameDelays_apply change
  | call request =>
      have called := stage.sameDelays_call request
      rw [perform]
      generalize stage.call request = result at called ⊢
      rcases result with ⟨_ | reply, after⟩
      · exact called
      · exact called
  | _ => exact ⟨rfl, rfl⟩

/-- An event ends with the decision that is due, and the failures are kept up to date. -/
theorem decided_perform {stage : Stage} {step : Step} {episode : Episode}
    (handled : stage.episode? step = some episode) {minimum maximum : UInt64}
    {past : List Episode} (follows : stage.backoffs.Follows minimum maximum past) :
    episode.Decided minimum maximum stage.resync past ∧
      (stage.perform step).2.backoffs.Follows minimum maximum (past ++ [episode]) ∧
      (stage.perform step).2.resync = stage.resync := by
  cases step with
  | trigger machineSet =>
      obtain ⟨backoffs, resync⟩ := stage.pass_delays (machineSet.metadata.ns.getD "")
        machineSet.metadata.anyName
      have decided := follows.decided stage.resync machineSet.key
        (stage.pass (machineSet.metadata.ns.getD "") machineSet.metadata.anyName).1
      simp only [episode?, perform, Answer.decision?, Option.map_some, Option.some.injEq]
        at handled
      rw [backoffs] at handled
      subst handled
      refine ⟨decided.1, ?_, resync⟩
      rw [perform]
      dsimp only
      rw [backoffs]
      exact decided.2
  | _ => cases handled

/-- Every event in a run of steps is decided by the failures in a row before it. -/
theorem decided_of_mem_episodes {stage : Stage} {steps : List Step}
    (usual : ∀ step ∈ steps, step.bypasses = false) {minimum maximum : UInt64}
    {earlier past later : List Episode} {episode : Episode}
    (follows : stage.backoffs.Follows minimum maximum earlier)
    (handled : stage.episodes steps = past ++ episode :: later) :
    episode.Decided minimum maximum stage.resync (earlier ++ past) := by
  induction steps generalizing stage earlier past with
  | nil => simp [episodes] at handled
  | cons step rest ih =>
      obtain ⟨usual, others⟩ := List.forall_mem_cons.mp usual
      rw [episodes] at handled
      cases happens : stage.episode? step with
      | none =>
          have same := sameDelays_perform usual happens
          rw [happens] at handled
          rw [← same.resync]
          exact ih others (same.backoffs ▸ follows) handled
      | some first =>
          obtain ⟨decided, next, resync⟩ := decided_perform happens follows
          rw [happens] at handled
          cases past with
          | nil =>
              obtain ⟨rfl, -⟩ := List.cons.inj handled
              simpa using decided
          | cons head past =>
              obtain ⟨rfl, further⟩ := List.cons.inj handled
              simpa [resync] using ih others next further

end Stage

/-- A machine set with nothing but its name. -/
def bareSet (name : String) : MachineSet :=
  ⟨{ ObjectMeta.empty with name := some name, ns := some "machines" },
    ⟨none, .empty, .empty, .empty⟩, none⟩

/-- Three passes of one machine set fail. Between the first two, another set turns out to be gone
and a pass of the first one is cancelled. -/
def troubled : List Step := [
  .change (.failNext .getMachineSet), .trigger (bareSet "web"),
  .trigger (bareSet "db"),
  .change .cancel, .trigger (bareSet "web"), .change .renewToken,
  .change (.failNext .getMachineSet), .trigger (bareSet "web"),
  .change (.failNext .getMachineSet), .trigger (bareSet "web")]

/-- In every history of events, with anything going on beside them, an event of a machine set is
followed by the resync interval after a pass that succeeded, by nothing after one that found the set
gone or was cancelled, and by a retry after one that failed. The delays of the retries are those of
a fresh backoff, as many later as the machine set has had failures in a row. -/
theorem requeue_follows_failures (minimum maximum resync : UInt64) {steps : List Step}
    (usual : ∀ step ∈ steps, step.bypasses = false) {past later : List Episode}
    {episode : Episode}
    (handled : (Stage.start minimum maximum resync).episodes steps = past ++ episode :: later) :
    episode.Decided minimum maximum resync past :=
  Stage.decided_of_mem_episodes usual (.start minimum maximum) handled

/-- The third failure in a row is followed by the third delay. -/
theorem requeue_follows_failures_troubled : ∃ past episode,
    (Stage.start 5 300 600).episodes troubled = past ++ [episode] ∧
      episode.key = "machines/web" ∧ failuresInRow "machines/web" past = 2 ∧
      episode.Decided 5 300 600 past ∧ episode.decision = .requeue 10 := by
  have handled : (Stage.start 5 300 600).episodes troubled =
      ((Stage.start 5 300 600).episodes troubled).take 4 ++
        [⟨"machines/web", .error (.store (.unavailable "injected failure for GetMachineSet")),
          .requeue 10⟩] := by rfl
  exact ⟨_, _, handled, rfl, by decide, requeue_follows_failures 5 300 600 (by decide) handled,
    rfl⟩

end Rehearsal

end NodeSync
