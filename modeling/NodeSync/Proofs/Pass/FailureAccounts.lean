/-
Module: NodeSync.Proofs.Pass.FailureAccounts
Purpose: What a pass makes of a failed call, whichever it is. The call is the last one, its error is
  the result, and what was stored just before it stays. The failure is reported once, for the object
  that the call was about; failures to read the machine set or to list its machines are not, and in
  those cases nothing was written. What a failure is to be reported as is read off the journal.
Main exports: lastRead?, Charged, endedBy, Attributed, contestedPass_attributed,
  Program.run_of_made, FailureAccounted, failed_call_accounted, failures_accounted
-/
import NodeSync.Proofs.Pass.Contention

namespace NodeSync

set_option autoImplicit false

open Pass (Ensures)

/-! ## What a failed call is reported as -/

/-- The name of the node that the program has read last, or has tried to. -/
def lastRead? : List Happening → Option String
  | .call _ (.getNode name) _ :: _ => some name
  | _ :: older => lastRead? older
  | [] => none

/-- What the failure of a call is reported as, after what has happened before. Reading a node is
blamed on its labels. An update is blamed on what it writes of the copy that the pass had last:
machines go by their own names, nodes by the names under which they were read. The first two calls
of a pass are blamed on nobody. -/
inductive Charged (older : List Happening) (error : StoreError) :
    Request → Option FailureReport → Prop where
  | getMachineSet (ns name : String) : Charged older error (.getMachineSet ns name) none
  | listMachines (ns : String) : Charged older error (.listMachines ns) none
  | getNode (name : String) :
      Charged older error (.getNode name) (some ⟨.label, name, "", error.reason⟩)
  | machineLabels {copy : Machine} {labels : Labels}
      (copied : lastCopy? (.machine copy.place) older = some (.machine copy))
      (differ : copy.nodeLabels ≠ labels) :
      Charged older error (.updateMachine (copy.setNodeLabels labels))
        (some ⟨.label, copy.metadata.anyName, copy.metadata.ns.getD "", error.reason⟩)
  | machineTaints {copy : Machine} {taints : List Taint}
      (copied : lastCopy? (.machine copy.place) older = some (.machine copy))
      (differ : copy.spec.taints ≠ taints) :
      Charged older error (.updateMachine (copy.setTaints taints))
        (some ⟨.taint, copy.metadata.anyName, copy.metadata.ns.getD "", error.reason⟩)
  | nodeLabels {name : String} {copy : Node} {labels : Labels} (read : lastRead? older = some name)
      (copied : lastCopy? (.node name) older = some (.node copy))
      (differ : ¬copy.AgreesWith labels) :
      Charged older error (.updateNode (syncNodeLabels copy labels).1)
        (some ⟨.label, name, "", error.reason⟩)
  | nodeTaints {name : String} {copy : Node} {labels : Labels} {taints : List Taint}
      (read : lastRead? older = some name)
      (copied : lastCopy? (.node name) older = some (.node copy)) (differ : taints ≠ copy.taints) :
      Charged older error (.updateNode ((syncNodeLabels copy labels).1.setTaints taints))
        (some ⟨.taint, name, "", error.reason⟩)

/-- The result of a pass that a failed call ends. A set that is not there is no error. -/
def endedBy : Request → StoreError → Except ControllerError Outcome
  | .getMachineSet .., .notFound _ => .ok .gone
  | _, error => .error (.store error)

/-- No call has failed so far. -/
def Untroubled (journal : List Happening) : Prop :=
  ∀ before request error, .call before request (some (.error error)) ∉ journal

/-- The store is as at the start but for ordered failures. -/
def Idle (start store : MemoryStore) : Prop := ∃ pending, store = start.withFailures pending

/-- The result of a pass fits what happened to its calls, and so does what it has reported. -/
inductive Attributed (start : MemoryStore) (result : Except ControllerError Outcome)
    (state : Contested) : Prop where
  | done (outcome : Outcome) (ok : result = .ok outcome) (untroubled : Untroubled state.journal)
      (reports : state.base.reports = [])
  | cancelled (ended : result = .error .cancelled) (untroubled : Untroubled state.journal)
      (reports : state.base.reports = [])
  | faulty (set : String) (error : SelectorError) (ended : result = .error (.selector set error))
      (untroubled : Untroubled state.journal) (reports : state.base.reports = [])
      (idle : Idle start state.store)
  | failed (before : MemoryStore) (request : Request) (error : StoreError)
      (older : List Happening) (report : Option FailureReport)
      (ended : result = endedBy request error)
      (journal : state.journal = .call before request (some (.error error)) :: older)
      (untroubled : Untroubled older) (charged : Charged older error request report)
      (reports : state.base.reports = report.toList) (idle : report = none → Idle start state.store)

/-- The same of a pass that was stopped. -/
def Stopped (start : MemoryStore) (cause : ControllerError) (state : Contested) : Prop :=
  Attributed start (.error cause) state

section Journal

variable {older : List Happening}

@[simp] theorem lastRead?_getNode (before : MemoryStore) (name : String)
    (reply : Option (Request.getNode name).Reply) :
    lastRead? (.call before (.getNode name) reply :: older) = some name := rfl

@[simp] theorem lastRead?_updateMachine (before : MemoryStore) (machine : Machine)
    (reply : Option (Request.updateMachine machine).Reply) :
    lastRead? (.call before (.updateMachine machine) reply :: older) = lastRead? older := rfl

@[simp] theorem lastRead?_updateNode (before : MemoryStore) (node : Node)
    (reply : Option (Request.updateNode node).Reply) :
    lastRead? (.call before (.updateNode node) reply :: older) = lastRead? older := rfl

theorem lastRead?_ready (state : Contested) :
    lastRead? state.ready.journal = lastRead? state.journal :=
  Contested.ready_preserves (fun after => lastRead? after.journal = lastRead? state.journal)
    (fun _ => rfl) (fun _ _ same => same)

theorem Untroubled.cons {happening : Happening} (untroubled : Untroubled older)
    (succeeds : ∀ before request error, happening ≠ .call before request (some (.error error))) :
    Untroubled (happening :: older) := by
  intro before request error listed
  rcases List.mem_cons.mp listed with same | earlier
  · exact succeeds before request error same.symm
  · exact untroubled before request error earlier

theorem Smooth.untroubled (smooth : Smooth older) : Untroubled older := by
  induction smooth with
  | nil => exact fun _ _ _ listed => by cases listed
  | event _ ih => exact ih.cons fun _ _ _ same => by cases same
  | call _ _ _ ih => exact ih.cons fun _ _ _ same => by cases same

end Journal

/-! ## Calls -/

namespace Charged

variable {older : List Happening} {error : StoreError} {report report' : Option FailureReport}

/-- The kind of a failed update, by whether it leaves the taints of the copy as they are. -/
def kindOf (taints revised : List Taint) : FailureKind :=
  if revised = taints then .label else .taint

theorem of_updateMachine {machine : Machine}
    (charged : Charged older error (.updateMachine machine) report) :
    ∃ copy, lastCopy? (.machine machine.place) older = some (.machine copy) ∧
      report = some ⟨kindOf copy.spec.taints machine.spec.taints, copy.metadata.anyName,
        copy.metadata.ns.getD "", error.reason⟩ := by
  generalize made : Request.updateMachine machine = request at charged
  cases charged with
  | @machineLabels copy labels copied differ =>
      cases made
      have kind : kindOf copy.spec.taints (copy.setNodeLabels labels).spec.taints = .label :=
        if_pos rfl
      exact ⟨copy, copied, by rw [kind]⟩
  | @machineTaints copy taints copied differ =>
      cases made
      have kind : kindOf copy.spec.taints (copy.setTaints taints).spec.taints = .taint :=
        if_neg (Ne.symm differ)
      exact ⟨copy, copied, by rw [kind]⟩
  | _ => cases made

theorem of_updateNode {node : Node} (charged : Charged older error (.updateNode node) report) :
    ∃ name copy, lastRead? older = some name ∧
      lastCopy? (.node name) older = some (.node copy) ∧
      report = some ⟨kindOf copy.taints node.taints, name, "", error.reason⟩ := by
  generalize made : Request.updateNode node = request at charged
  cases charged with
  | nodeLabels read copied differ =>
      cases made
      exact ⟨_, _, read, copied, by rw [kindOf, if_pos (syncNodeLabels_taints _ _)]⟩
  | nodeTaints read copied differ =>
      cases made
      exact ⟨_, _, read, copied, by rw [kindOf, Node.taints_setTaints, if_neg differ]⟩
  | _ => cases made

/-- A failed call is reported in one way only. -/
theorem unique {request : Request} (first : Charged older error request report)
    (second : Charged older error request report') : report = report' := by
  cases request with
  | updateMachine machine =>
      obtain ⟨copy, copied, rfl⟩ := first.of_updateMachine
      obtain ⟨copy', copied', rfl⟩ := second.of_updateMachine
      rw [copied] at copied'
      cases copied'
      rfl
  | updateNode node =>
      obtain ⟨name, copy, read, copied, rfl⟩ := first.of_updateNode
      obtain ⟨name', copy', read', copied', rfl⟩ := second.of_updateNode
      rw [read] at read'
      cases read'
      rw [copied] at copied'
      cases copied'
      rfl
  | _ => cases first <;> cases second <;> rfl

end Charged

section Calls

variable {start : MemoryStore} {state : Contested}

/-- The turn of the others reports nothing. -/
theorem Contested.reports_ready (state : Contested) :
    state.ready.base.reports = state.base.reports :=
  Contested.ready_preserves (fun after => after.base.reports = state.base.reports)
    (fun _ => rfl) (fun _ _ same => same)

/-- Without anybody else nothing happens before a call. -/
theorem Contested.ready_of_turns_nil {state : Contested} (alone : state.turns = []) :
    state.ready = state := by
  rcases state with ⟨base, turns, journal⟩
  cases alone
  rfl

/-- Calls report nothing by themselves. -/
theorem Disturbed.reports_of_answer {request : Request} {state after : Disturbed}
    {reply : Option request.Reply}
    (replied : Disturbed.answer request state = (reply, after)) :
    after.reports = state.reports := by
  rcases state with ⟨store, fates, cancelled, reports⟩
  rcases fates with _ | ⟨fate, rest⟩
  · cases replied
    rfl
  · cases fate with
    | served => cases replied; rfl
    | servedLast => cases replied; rfl
    | failed error reached => cases reached <;> cases replied <;> rfl
    | unanswered reached => cases reached <;> cases replied <;> rfl

theorem Idle.left {request : Request} {before after : Disturbed} (idle : Idle start before.store)
    (reads : request.update? = none) (left : Disturbed.Left request before after) :
    Idle start after.store := by
  have unchanged : (before.store.serve request).2 = before.store := by
    have served := before.store.served request
    generalize before.store.serve request = result at served ⊢
    cases served with
    | updateMachine => cases reads
    | updateNode named => simp [Request.update?, named] at reads
    | _ => rfl
  obtain ⟨pending, idle⟩ := idle
  rcases left with left | ⟨pending', left⟩
  · exact ⟨pending, left.trans (unchanged.trans idle)⟩
  · refine ⟨pending', ?_⟩
    rw [left, idle]
    rfl

/-- A call of a pass that has reported nothing so far. If it fails, and its failure is blamed as
the journal says, the pass is stopped as it should be. -/
theorem ensures_call_attributed (start : MemoryStore) (request : Request)
    (blame : ControllerError → Option FailureReport) (onCourse : OnCourse False state)
    (reports : state.base.reports = []) (blameless : blame .cancelled = none)
    (charged : ∀ error, Charged state.ready.journal error request (blame (.store error)))
    (idle : ∀ error, blame (.store error) = none →
      request.update? = none ∧ Idle start state.ready.store)
    (ends : ∀ error, endedBy request error = .error (.store error)) :
    Ensures Contested.environment (Pass.call request blame) state
      (fun answer after => after.base.reports = [] ∧ after.turns = state.ready.turns ∧
        Disturbed.Left request state.ready.base after.base ∧
        after.journal = .call state.ready.store request (some (.ok answer)) :: state.ready.journal)
      (Stopped start) := by
  have ready := onCourse.ready.smooth.untroubled
  have quiet : ∀ reply after, Contested.environment.answer request state = (reply, after) →
      after.base.reports = [] := by
    intro reply after replied
    rw [Disturbed.reports_of_answer (Contested.answer_cases replied).1, Contested.reports_ready,
      reports]
  apply Ensures.call_reported blameless
  · exact fun _ => .cancelled rfl onCourse.smooth.untroubled reports
  · intro after replied
    refine .cancelled rfl ?_ (quiet none after replied)
    rw [(Contested.answer_cases replied).2]
    exact ready.cons fun _ _ _ same => by cases same
  · intro answer after replied
    obtain ⟨answered, journal⟩ := Contested.answer_cases replied
    have turns : after.turns = state.ready.turns := by
      rw [← (Prod.mk.inj replied).2]
    exact ⟨quiet _ after replied, turns, Disturbed.left_of_answer answered, journal⟩
  · intro error after replied
    obtain ⟨answered, journal⟩ := Contested.answer_cases replied
    have left := Disturbed.left_of_answer answered
    have none := quiet _ after replied
    have failed : ∀ last : Contested, last.journal = after.journal →
        last.base.reports = (blame (.store error)).toList →
        (blame (.store error) = Option.none → Idle start last.store) →
        Stopped start (.store error) last := by
      intro last same reported idle
      exact .failed _ request error _ _ (ends error).symm (same.trans journal) ready (charged error)
        reported idle
    cases blamed : blame (.store error) with
    | none =>
        rw [blamed] at failed
        refine failed after rfl none fun _ => ?_
        exact (idle error blamed).2.left (idle error blamed).1 left
    | some failure =>
        rw [blamed] at failed
        refine failed _ rfl ?_ fun unblamed => by cases unblamed
        change after.base.reports ++ [failure] = [failure]
        rw [none, List.nil_append]

end Calls

/-! ## One machine -/

/-- The failure of an update is always reported, unless it was cancelled. -/
theorem Pass.blameUpdate_eq_none_iff {taints revised : List Taint} {name ns : String}
    {error : ControllerError} :
    Pass.blameUpdate taints revised name ns error = none ↔ error = .cancelled := by
  rw [Pass.blameUpdate]
  split <;> cases error <;> simp [blameLabels, blameTaints, blameOn]

/-- The copies at hand are the ones that the pass had last, nothing was reported so far, and the
names are at hand under which failures are reported. -/
structure Accountable (earlier : Contested) (key : ObjectKey) (nodeName name ns : String)
    (machine : Machine) (node : Node) (state : Contested) : Prop
    extends Minded False earlier key nodeName machine node state where
  reports : state.base.reports = []
  read : lastRead? state.journal = some nodeName
  name : machine.metadata.anyName = name
  ns : machine.metadata.ns.getD "" = ns

section OneMachine

variable {start : MemoryStore} {earlier state : Contested} {key : ObjectKey}
  {nodeName name ns : String} {machineSet : MachineSet} {machine : Machine} {node : Node}

/-- Updating the machine at hand. -/
theorem chargesMachineWrites_accountable :
    Ensures.ChargesMachineWrites Contested.environment machineSet name ns
      (Accountable earlier key nodeName name ns) (Stopped start) := by
  intro machine node revised state blame held write blamed
  have metadata := write.revises.metadata
  have copied : lastCopy? (.machine machine.place) state.ready.journal =
      some (.machine machine) := by
    rw [held.place, lastCopy?_ready, held.machineCopy]
  have charged : ∀ error, Charged state.ready.journal error (.updateMachine revised)
      (blame (.store error)) := by
    intro error
    cases write with
    | labels differ =>
        have asLabels : blame = Pass.blameLabels name ns := blamed.trans (if_pos rfl)
        rw [asLabels, ← held.name, ← held.ns]
        exact .machineLabels copied differ
    | taints labelled differ =>
        have asTaints : blame = Pass.blameTaints name ns :=
          blamed.trans (if_neg (Ne.symm differ))
        rw [asTaints, ← held.name, ← held.ns]
        exact .machineTaints copied differ
  have noted : ∀ error, blame error = none ↔ error = .cancelled :=
    fun _ => blamed ▸ Pass.blameUpdate_eq_none_iff
  have call := ensures_call_attributed start (.updateMachine revised) blame held.toOnCourse
    held.reports ((noted _).mpr rfl) charged
    (fun error unblamed => nomatch (noted _).mp unblamed) (fun _ => rfl)
  apply ((keepsMachineWrites_minded machine node revised state blame held.toMinded write).and
    call).imp
  · intro machine' after reached
    obtain ⟨⟨version, rfl, minded⟩, reports, -, -, journal⟩ := reached
    refine ⟨version, rfl, minded, reports, ?_, ?_, ?_⟩
    · rw [journal, lastRead?_updateMachine, lastRead?_ready, held.read]
    · rw [← held.name, ← metadata]
      rfl
    · rw [← held.ns, ← metadata]
      rfl
  · exact fun _ _ ended => ended.2

/-- Updating the node at hand. -/
theorem chargesNodeWrites_accountable :
    Ensures.ChargesNodeWrites Contested.environment machineSet nodeName
      (Accountable earlier key nodeName name ns) (fun _ => True) (Stopped start) := by
  intro machine node revised state blame held write blamed
  have read : lastRead? state.ready.journal = some nodeName := by
    rw [lastRead?_ready, held.read]
  have copied : lastCopy? (.node nodeName) state.ready.journal = some (.node node) := by
    rw [lastCopy?_ready, held.nodeCopy]
  have charged : ∀ error, Charged state.ready.journal error (.updateNode revised)
      (blame (.store error)) := by
    intro error
    cases write with
    | labels labelled tainted differ =>
        have asLabels : blame = Pass.blameLabels nodeName "" :=
          blamed.trans (if_pos (syncNodeLabels_taints node _))
        rw [asLabels]
        exact .nodeLabels read copied differ
    | taints labelled tainted differ =>
        have changes := desiredTaints_ne differ
        rw [Node.taints_setTaints] at blamed
        have asTaints : blame = Pass.blameTaints nodeName "" := blamed.trans (if_neg changes)
        rw [asTaints]
        exact .nodeTaints read copied changes
  have noted : ∀ error, blame error = none ↔ error = .cancelled :=
    fun _ => blamed ▸ Pass.blameUpdate_eq_none_iff
  have call := ensures_call_attributed start (.updateNode revised) blame held.toOnCourse
    held.reports ((noted _).mpr rfl) charged
    (fun error unblamed => nomatch (noted _).mp unblamed) (fun _ => rfl)
  apply ((keepsNodeWrites_minded machine node revised state blame held.toMinded write).and
    call).imp
  · intro node' after reached
    obtain ⟨⟨version, rfl, minded⟩, reports, -, -, journal⟩ := reached
    refine ⟨version, rfl, ⟨minded, reports, ?_, held.name, held.ns⟩, trivial⟩
    rw [journal, lastRead?_updateNode, read]
  · exact fun _ _ ended => ended.2

/-- Reading the node of a machine. -/
theorem getNode_accountable (onCourse : OnCourse False state) (reports : state.base.reports = [])
    (machineCopy : lastCopy? (.machine machine.place) state.journal = some (.machine machine)) :
    Ensures Contested.environment (Pass.call (.getNode nodeName) (Pass.blameLabels nodeName ""))
      state
      (Accountable state machine.place nodeName machine.metadata.anyName
        (machine.metadata.ns.getD "") machine)
      (Stopped start) := by
  have call := ensures_call_attributed start (.getNode nodeName) (Pass.blameLabels nodeName "")
    onCourse reports rfl (fun _ => .getNode nodeName) (fun _ unblamed => by cases unblamed)
    (fun _ => rfl)
  apply ((getNode_minded onCourse machineCopy _).and call).imp
  · intro (node : Node) after reached
    obtain ⟨minded, reports, -, -, journal⟩ := reached
    refine ⟨minded, reports, ?_, rfl, rfl⟩
    rw [journal, lastRead?_getNode]
  · exact fun _ _ ended => ended.2

end OneMachine

/-! ## Passes -/

section Passes

variable {start : MemoryStore} {state : Contested} {machineSet : MachineSet}

/-- All machines. -/
theorem synchroniseMachines_attributed {machines : List Machine}
    (lined : Lined False machines state) (reports : state.base.reports = []) :
    Ensures Contested.environment (synchroniseMachines machineSet machines) state
      (fun _ after => OnCourse False after ∧ after.base.reports = []) (Stopped start) := by
  apply (Ensures.synchroniseMachines
    (fun left after => Lined False left after ∧ after.base.reports = []) ⟨lined, reports⟩ ?_ ?_).imp
  · exact fun _ _ reached => ⟨reached.2.1.toOnCourse, reached.2.2⟩
  · exact fun _ _ ended => ended
  · exact fun _ _ _ _ held => ⟨held.1.rest, held.2⟩
  · intro machine name rest middle provisioned held
    obtain ⟨lined, reports⟩ := held
    apply (Ensures.synchroniseMachine_charged provisioned
      (getNode_accountable lined.toOnCourse reports (lined.copies machine List.mem_cons_self))
      chargesMachineWrites_accountable chargesNodeWrites_accountable).imp
    · intro warning after reached
      obtain ⟨rfl, machine', node', held, -⟩ := reached
      exact ⟨rfl, lined.next held.toMinded, held.reports⟩
    · exact fun _ _ ended => ended

/-- The machines of a set that was read, while nobody else is at work. -/
theorem synchroniseSet_attributed {ns name : String} (onCourse : OnCourse False state)
    (reports : state.base.reports = []) (alone : state.turns = [])
    (idle : Idle start state.store) :
    Ensures Contested.environment (synchroniseSet machineSet ns name) state
      (fun _ after => OnCourse False after ∧ after.base.reports = []) (Stopped start) := by
  have ready := Contested.ready_of_turns_nil alone
  have call := ensures_call_attributed start (.listMachines ns) Pass.noBlame onCourse reports rfl
    (fun _ => .listMachines ns) (fun _ _ => ⟨rfl, ready.symm ▸ idle⟩) (fun _ => rfl)
  apply Ensures.synchroniseSet
  apply ((onCourse.read Pass.noBlame rfl).and call).imp
  · intro (listed : List Machine) after reached
    obtain ⟨⟨onCourse', served, journal⟩, reports', -, left, -⟩ := reached
    have all : MemoryStore.inNamespace state.ready.store.machines ns = listed :=
      Except.ok.inj served
    subst all
    rw [ready] at left
    constructor
    · exact fun error _ => .faulty _ error rfl onCourse'.smooth.untroubled reports'
        (idle.left rfl left)
    · intro selected selects
      have lined := lined_of_listed onCourse.watched.ready.versioned onCourse' journal selects
      exact synchroniseMachines_attributed lined reports'
  · exact fun _ _ ended => ended.2

/-- A whole pass, while nobody else is at work. -/
theorem synchronise_attributed (ns name : String) (onCourse : OnCourse False state)
    (reports : state.base.reports = []) (alone : state.turns = [])
    (idle : Idle start state.store) :
    Ensures Contested.environment (ExceptT.mk (synchronise ns name)) state
      (fun outcome after => Attributed start (.ok outcome) after) (Stopped start) := by
  have ready := Contested.ready_of_turns_nil alone
  have untroubled := onCourse.smooth.untroubled
  -- What any reply to the first call leaves.
  have first : ∀ reply after,
      Contested.environment.answer (.getMachineSet ns name) state = (reply, after) →
      after.journal = .call state.store (.getMachineSet ns name) reply :: state.journal ∧
        after.base.reports = [] ∧ after.turns = [] ∧ Idle start after.store := by
    intro reply after replied
    obtain ⟨answered, journal⟩ := Contested.answer_cases replied
    rw [ready] at answered journal
    refine ⟨journal, ?_, ?_, idle.left rfl (Disturbed.left_of_answer answered)⟩
    · rw [Disturbed.reports_of_answer answered, reports]
    · rw [← (Prod.mk.inj replied).2]
      change state.ready.turns = []
      rw [ready, alone]
  apply Ensures.synchronise
  · exact fun _ => .cancelled rfl untroubled reports
  · intro after replied
    obtain ⟨journal, reports', -, -⟩ := first none after replied
    refine .cancelled rfl ?_ reports'
    rw [journal]
    exact untroubled.cons fun _ _ _ same => by cases same
  · intro what after replied
    obtain ⟨journal, reports', -, idle'⟩ := first _ after replied
    exact .failed _ _ _ _ none rfl journal untroubled (.getMachineSet ns name) reports'
      fun _ => idle'
  · intro error after replied known
    obtain ⟨journal, reports', -, idle'⟩ := first _ after replied
    refine .failed _ _ error _ none ?_ journal untroubled (.getMachineSet ns name) reports'
      fun _ => idle'
    cases error with
    | notFound what => exact absurd rfl (known what)
    | _ => rfl
  · intro machineSet after replied
    obtain ⟨journal, reports', alone', idle'⟩ := first _ after replied
    obtain ⟨onCourse', -⟩ := onCourse.answered (.of_reads rfl _ _) replied
    apply (synchroniseSet_attributed onCourse' reports' alone' idle').imp
    · exact fun outcome last reached => .done outcome rfl reached.1.smooth.untroubled reached.2
    · exact fun _ _ ended => ended

/-- The result of a pass, what is left of its environment and what it has reported fit. -/
theorem contestedPass_attributed {store : MemoryStore} (reachable : store.Reachable)
    (fates : List Fate) (ns name : String) :
    Attributed store (store.contestedPass fates [] ns name).1
      (store.contestedPass fates [] ns name).2 := by
  have onCourse : OnCourse False ⟨⟨store, fates, false, []⟩, [], []⟩ :=
    ⟨.start reachable fates [], .nil, False.elim⟩
  have idle : Idle store store := ⟨store.pendingFailures, rfl⟩
  rw [MemoryStore.contestedPass]
  rcases runPass_of_ensures (synchronise_attributed ns name onCourse rfl rfl idle) with
    ⟨outcome, after, ran, attributed⟩ | ⟨cause, after, ran, attributed⟩
  · rw [ran]
    exact attributed
  · rw [ran]
    exact attributed

end Passes

/-! ## The same run with another fate of a call -/

namespace Contested

/-- The state with other fates of the calls that are still to come. -/
def withFates (state : Contested) (fates : List Fate) : Contested :=
  { state with base := { state.base with fates := fates } }

/-- Nothing disturbs the calls that are still to come but what the store itself has in store. -/
structure Quiet (state : Contested) : Prop where
  fates : state.base.fates = []
  running : state.base.cancelled = false
  alone : state.turns = []

/-- The state after a call that the store answers. -/
def answered (state : Contested) (request : Request) : Contested :=
  { state with
    base := { state.base with store := (state.store.answer request).2 }
    journal := .call state.store request (some (state.store.answer request).1) :: state.journal }

namespace Quiet

variable {state : Contested}

theorem answered (quiet : Quiet state) (request : Request) : Quiet (state.answered request) :=
  ⟨quiet.fates, quiet.running, quiet.alone⟩

/-- The store answers a call without a listed fate. -/
theorem answer_eq (quiet : Quiet state) (request : Request) :
    environment.answer request state =
      (some (state.store.answer request).1, state.answered request) := by
  rcases state with ⟨⟨store, fates, cancelled, reports⟩, turns, journal⟩
  obtain ⟨rfl, rfl, rfl⟩ := quiet
  rfl

/-- It also answers one that is to be served. -/
theorem answer_served (quiet : Quiet state) (request : Request) (rest : List Fate) :
    environment.answer request (state.withFates (.served :: rest)) =
      (some (state.store.answer request).1, (state.answered request).withFates rest) := by
  rcases state with ⟨⟨store, fates, cancelled, reports⟩, turns, journal⟩
  obtain ⟨rfl, rfl, rfl⟩ := quiet
  rfl

/-- A call that is to fail does not reach the store. -/
theorem answer_failed (quiet : Quiet state) (request : Request) (error : StoreError) :
    environment.answer request (state.withFates [.failed error false]) =
      (some (.error error),
        { state with journal := .call state.store request (some (.error error)) ::
            state.journal }) := by
  rcases state with ⟨⟨store, fates, cancelled, reports⟩, turns, journal⟩
  obtain ⟨rfl, rfl, rfl⟩ := quiet
  rfl

theorem withFates_nil (quiet : Quiet state) : state.withFates [] = state := by
  rcases state with ⟨⟨store, fates, cancelled, reports⟩, turns, journal⟩
  obtain ⟨rfl, rfl, rfl⟩ := quiet
  rfl

end Quiet

end Contested

section Runs

variable {α : Type}

/-- A call is entered in the journal. -/
theorem Contested.suffix_answer (request : Request) (state : Contested) :
    ∃ reply, .call state.ready.store request reply :: state.ready.journal =
        (Contested.environment.answer request state).2.journal ∧
      state.journal <:+ state.ready.journal :=
  ⟨_, (Contested.answer_cases rfl).2.symm, state.suffix_ready⟩

/-- The journal only grows. -/
theorem Program.suffix_run (program : Program α) (state : Contested) :
    state.journal <:+ (program.run Contested.environment state).2.journal := by
  refine program.run_keeps (fun after : Contested => state.journal <:+ after.journal) ?_
    (fun _ _ grown => grown) (List.suffix_refl _)
  intro request middle grown
  obtain ⟨reply, journal, ready⟩ := Contested.suffix_answer request middle
  rw [← journal]
  exact (grown.trans ready).trans (List.suffix_cons _ _)

/-- A program that makes no further call leaves the store as it is. -/
theorem Program.store_of_same_journal (program : Program α) (state : Contested)
    (same : (program.run Contested.environment state).2.journal = state.journal) :
    (program.run Contested.environment state).2.store = state.store := by
  induction program generalizing state with
  | done result => rfl
  | report failure rest ih => exact ih _ same
  | poll next ih => exact ih _ state same
  | call request next ih =>
      obtain ⟨reply, journal, ready⟩ := Contested.suffix_answer request state
      have longer : state.journal.length <
          (Contested.environment.answer request state).2.journal.length := by
        rw [← journal, List.length_cons]
        exact Nat.lt_succ_of_le ready.length_le
      rw [run_call] at same
      have grown := ((next (Contested.environment.answer request state).1).suffix_run
        (Contested.environment.answer request state).2).length_le
      rw [same] at grown
      exact absurd longer (Nat.not_lt_of_le grown)

/-- A call that an undisturbed program makes is also made if the earlier ones are expressly served.
It then meets the same state, whatever is to become of it. -/
theorem Program.run_of_made (program : Program α) {state : Contested} (quiet : state.Quiet)
    {before : MemoryStore} {request : Request} {reply : Option request.Reply}
    {older : List Happening}
    (made : .call before request reply :: older <:+
      (program.run Contested.environment state).2.journal)
    {fates rest : List Fate} {earlier : Nat}
    (count : older.length = state.journal.length + earlier)
    (upTo : fates = List.replicate earlier .served ++ rest ∨ fates = [] ∧ rest = []) :
    ∃ (next : Option request.Reply → Program α) (middle : Contested), middle.Quiet ∧
      middle.store = before ∧ middle.journal = older ∧
      reply = some (before.answer request).1 ∧
      program.run Contested.environment (state.withFates fates) =
        (Program.call request next).run Contested.environment (middle.withFates rest) := by
  induction program generalizing state fates earlier with
  | done result =>
      have shorter := made.length_le
      rw [List.length_cons, count] at shorter
      change _ ≤ state.journal.length at shorter
      omega
  | report failure program ih =>
      have quiet' : (Contested.environment.report failure state).Quiet :=
        ⟨quiet.fates, quiet.running, quiet.alone⟩
      exact ih quiet' made count upTo
  | poll resume ih => exact ih _ quiet made count upTo
  | call request' resume ih =>
      have served : (Program.call request' resume).run Contested.environment state =
          (resume (some (state.store.answer request').1)).run Contested.environment
            (state.answered request') := by
        rw [run_call, quiet.answer_eq request']
      rw [served] at made
      cases earlier with
      | zero =>
          have entered := (resume (some (state.store.answer request').1)).suffix_run
            (state.answered request')
          have same := List.suffix_of_suffix_length_le entered made
            (by simp [Contested.answered, count]) |>.eq_of_length
              (by simp [Contested.answered, count])
          cases same
          refine ⟨resume, state, quiet, rfl, rfl, rfl, ?_⟩
          rcases upTo with rfl | ⟨rfl, rfl⟩ <;> rfl
      | succ earlier =>
          have here : (state.answered request').journal.length + earlier =
              state.journal.length + (earlier + 1) := by
            simp only [Contested.answered, List.length_cons]
            omega
          rcases upTo with rfl | ⟨rfl, rfl⟩
          · obtain ⟨next, middle, found⟩ := ih _ (quiet.answered request') made
              (count.trans here.symm) (.inl rfl)
            refine ⟨next, middle, ?_⟩
            rw [List.replicate_succ, List.cons_append, run_call, quiet.answer_served]
            exact found
          · obtain ⟨next, middle, found⟩ := ih _ (quiet.answered request') made
              (count.trans here.symm) (.inr ⟨rfl, rfl⟩)
            refine ⟨next, middle, ?_⟩
            rw [quiet.withFates_nil, served, ← (quiet.answered request').withFates_nil]
            exact found

end Runs

/-! ## Accounts -/

/-- A failed call of a pass, and what the pass has made of it. -/
structure FailureAccounted (start before : MemoryStore) (request : Request) (error : StoreError)
    (older : List Happening) (ended : Except ControllerError Outcome × Contested) : Prop where
  /-- No call comes after it. -/
  last : ended.2.journal = .call before request (some (.error error)) :: older
  /-- Its error is the result. -/
  result : ended.1 = endedBy request error
  /-- What was stored before it stays. -/
  kept : Idle before ended.2.store
  charged : ∃ report, Charged older error request report
  /-- It is reported for the object that it was about. If it is not to be reported, nothing was
  written before it either. -/
  reported : ∀ report, Charged older error request report →
    ended.2.base.reports = report.toList ∧ (report = none → Idle start ended.2.store)

/-- A call that fails leaves the store as it was but for ordered failures. -/
theorem MemoryStore.idle_of_answer {store : MemoryStore} {request : Request} {error : StoreError}
    (fails : (store.answer request).1 = .error error) : Idle store (store.answer request).2 := by
  rcases Disturbed.carryOut_cases request ⟨store, [], false, []⟩ with
    carried | ⟨-, error', pending, carried⟩
  · obtain ⟨reply, left⟩ := Prod.mk.inj carried
    have left : (store.answer request).2 = (store.serve request).2 := congrArg Disturbed.store left
    have served := store.served request
    rw [left]
    rw [show (store.answer request).1 = (store.serve request).1 from reply] at fails
    generalize store.serve request = result at served fails ⊢
    cases served with
    | refused => exact ⟨store.pendingFailures, rfl⟩
    | _ => cases fails
  · exact ⟨pending, congrArg Disturbed.store (Prod.mk.inj carried).2⟩

/-- A pass in which one call fails, either because it is made to, or in the undisturbed pass
itself. -/
theorem failed_call_accounted {store : MemoryStore} (reachable : store.Reachable)
    {ns name : String} {before : MemoryStore} {request : Request}
    {reply : Option request.Reply} {older : List Happening} {error : StoreError}
    (made : .call before request reply :: older <:+ (store.contestedPass [] [] ns name).2.journal)
    {fates : List Fate}
    (fails : fates = List.replicate older.length .served ++ [.failed error false] ∨
      fates = [] ∧ reply = some (.error error)) :
    FailureAccounted store before request error older (store.contestedPass fates [] ns name) := by
  have quiet : Contested.Quiet ⟨⟨store, [], false, []⟩, [], []⟩ := ⟨rfl, rfl, rfl⟩
  rw [MemoryStore.contestedPass, runPass] at made
  -- The call is answered with the error, and what the pass then does leaves the store alone.
  have failed : ∃ (rest : Program (Except ControllerError Outcome)) (after : Contested),
      after.journal = .call before request (some (.error error)) :: older ∧
      Idle before after.store ∧
      (store.contestedPass fates [] ns name).2 = (rest.run Contested.environment after).2 := by
    rw [MemoryStore.contestedPass, runPass]
    have count : older.length = ([] : List Happening).length + older.length := by simp
    rcases fails with rfl | ⟨rfl, rfl⟩
    · obtain ⟨next, middle, quiet', rfl, rfl, -, ran⟩ :=
        Program.run_of_made _ quiet made count (.inl rfl)
      refine ⟨next (some (.error error)), { middle with
        journal := .call middle.store request (some (.error error)) :: middle.journal }, rfl,
        ⟨middle.store.pendingFailures, rfl⟩, ?_⟩
      rw [Program.run_call, quiet'.answer_failed] at ran
      exact congrArg (·.2) ran
    · obtain ⟨next, middle, quiet', rfl, rfl, replied, ran⟩ :=
        Program.run_of_made _ quiet made count (.inr ⟨rfl, rfl⟩)
      have answered := (Option.some.inj replied).symm
      refine ⟨next (some (middle.store.answer request).1), middle.answered request, ?_,
        MemoryStore.idle_of_answer answered, ?_⟩
      · rw [Contested.answered, answered]
      · rw [quiet.withFates_nil, quiet'.withFates_nil, Program.run_call, quiet'.answer_eq] at ran
        exact congrArg (·.2) ran
  obtain ⟨rest, after, journal, idle, ran⟩ := failed
  have entered := rest.suffix_run after
  rw [← ran, journal] at entered
  have troubled : ∀ journal, .call before request (some (.error error)) :: older <:+ journal →
      ¬Untroubled journal := fun _ entered untroubled =>
    untroubled before request error (entered.subset List.mem_cons_self)
  cases contestedPass_attributed reachable fates ns name with
  | done _ _ untroubled => exact absurd untroubled (troubled _ entered)
  | cancelled _ untroubled => exact absurd untroubled (troubled _ entered)
  | faulty _ _ _ untroubled => exact absurd untroubled (troubled _ entered)
  | failed before' request' error' older' report ended journal' untroubled charged reports idle' =>
      rw [journal'] at entered
      rcases List.suffix_cons_iff.mp entered with same | earlier
      · cases same
        refine ⟨journal', ended, ?_, ⟨report, charged⟩, fun report' charged' => ?_⟩
        · rw [ran] at journal' ⊢
          rw [rest.store_of_same_journal after (journal'.trans journal.symm)]
          exact idle
        · rw [charged'.unique charged]
          exact ⟨reports, idle'⟩
      · exact absurd untroubled (troubled _ earlier)

/-- Every call of a pass may fail, because it is made to or because the store has a failure for it.
Then it is the last one, its error is the result, what was stored just before it stays, and it is
reported once, or not at all if it was to read the machine set or to list its machines. A pass that
goes through, or finds fault with the selector of its set, reports nothing, and in the latter case
it has written nothing. Every error of the store that a pass returns is that of its last call. -/
theorem failures_accounted {store : MemoryStore} (reachable : store.Reachable) (ns name : String) :
    (∀ before request reply older error fates,
      .call before request reply :: older <:+ (store.contestedPass [] [] ns name).2.journal →
      (fates = List.replicate older.length .served ++ [.failed error false] ∨
        fates = [] ∧ reply = some (.error error)) →
      FailureAccounted store before request error older (store.contestedPass fates [] ns name)) ∧
    (∀ outcome, (store.contestedPass [] [] ns name).1 = .ok outcome →
      (store.contestedPass [] [] ns name).2.base.reports = []) ∧
    (∀ set error, (store.contestedPass [] [] ns name).1 = .error (.selector set error) →
      (store.contestedPass [] [] ns name).2.base.reports = [] ∧
        Idle store (store.contestedPass [] [] ns name).2.store) ∧
    ∀ error, (store.contestedPass [] [] ns name).1 = .error (.store error) →
      ∃ before request older, (store.contestedPass [] [] ns name).2.journal =
        .call before request (some (.error error)) :: older := by
  have attributed := contestedPass_attributed reachable [] ns name
  refine ⟨fun before request reply older error fates made fails =>
    failed_call_accounted reachable made fails, ?_, ?_, ?_⟩
  · intro outcome ok
    cases attributed with
    | done _ _ _ reports => exact reports
    | cancelled ended => rw [ok] at ended; cases ended
    | faulty _ _ ended => rw [ok] at ended; cases ended
    | failed _ request error _ report ended _ _ charged reports =>
        -- Only the set that is not there is no error, and that is not reported.
        rw [ok] at ended
        cases charged with
        | getMachineSet => exact reports
        | _ => cases ended
  · intro set error faulty
    cases attributed with
    | done _ ok => rw [faulty] at ok; cases ok
    | cancelled ended => rw [faulty] at ended; cases ended
    | faulty _ _ _ _ reports idle => exact ⟨reports, idle⟩
    | failed _ request error _ _ ended =>
        rw [faulty] at ended
        unfold endedBy at ended
        split at ended <;> cases ended
  · intro error failed
    cases attributed with
    | done _ ok => rw [failed] at ok; cases ok
    | cancelled ended => rw [failed] at ended; cases ended
    | faulty _ _ ended => rw [failed] at ended; cases ended
    | failed before request _ older _ ended journal =>
        rw [failed] at ended
        unfold endedBy at ended
        split at ended
        · cases ended
        · cases ended
          exact ⟨before, request, older, journal⟩

/-- Whether the last entry of a journal is a call, made after so many entries. -/
def endsWithCall (count : Nat) : List Happening → Bool
  | .call _ _ _ :: older => older.length == count
  | _ => false

theorem exists_of_endsWithCall {count : Nat} {journal : List Happening}
    (ends : endsWithCall count journal = true) :
    ∃ before request reply older,
      journal = .call before request reply :: older ∧ older.length = count := by
  unfold endsWithCall at ends
  split at ends
  · exact ⟨_, _, _, _, rfl, eq_of_beq ends⟩
  · cases ends

/-- In the pass over the small cluster, the first update of the node fails. -/
theorem failures_accounted_smallCluster :
    ∃ before request older, older.length = 5 ∧
      FailureAccounted SmallCluster.registered before request (.unavailable "down") older
        (SmallCluster.registered.contestedPass
          (List.replicate older.length .served ++ [.failed (.unavailable "down") false]) []
          "machines" "web") := by
  have test : endsWithCall 5
      ((SmallCluster.registered.contestedPass [] [] "machines" "web").2.journal.drop 1) = true := by
    decide +kernel
  obtain ⟨before, request, reply, older, ends, sixth⟩ := exists_of_endsWithCall test
  have made := List.drop_suffix 1
    (SmallCluster.registered.contestedPass [] [] "machines" "web").2.journal
  rw [ends] at made
  exact ⟨before, request, older, sixth,
    (failures_accounted SmallCluster.reachable "machines" "web").1 before request reply older _ _
      made (.inl rfl)⟩

end NodeSync
