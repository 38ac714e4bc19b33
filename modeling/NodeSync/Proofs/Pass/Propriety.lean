/-
Module: NodeSync.Proofs.Pass.Propriety
Purpose: What the journal of a pass can hold, whatever disturbs the pass and whatever others do
  meanwhile. Each entry has met the store that the older ones had left. A pass reads a node only
  when it is through with the one that it read before, and each of its updates makes good a
  difference of the copies that it had last of the machine that it is at and of its node, and
  replaces that very copy or nothing. What the calls of such a journal keep holds after the pass.
Main exports: Leads, Through, Allowed, Proper, Broken, contestedPass_proper, leads_contestedPass,
  Leads.along, MemoryStore.passUnder_eq_contestedPass
-/
import NodeSync.Proofs.Pass.Contention
import NodeSync.Proofs.Pass.Handling

namespace NodeSync

set_option autoImplicit false

open Pass (Ensures)

/-! ## Reading the journal -/

/-- A call leads from one store to another: it was carried out, or nothing was changed but for
ordered failures. It has an answer only if it was carried out. -/
structure Met (before after : MemoryStore) (request : Request) (reply : Option request.Reply) :
    Prop where
  left : after = (before.serve request).2 ∨ ∃ pending, after = before.withFailures pending
  served : ∀ answer, reply = some (.ok answer) → (before.serve request).1 = .ok answer

/-- A journal leads from one store to another: each entry has met the store that the older ones had
left. -/
inductive Leads (start : MemoryStore) : List Happening → MemoryStore → Prop where
  | nil : Leads start [] start
  | event {before : MemoryStore} {older : List Happening} (event : Event)
      (earlier : Leads start older before) :
      Leads start (.event before event :: older) (before.apply event)
  | call {before after : MemoryStore} {request : Request} {reply : Option request.Reply}
      {older : List Happening} (earlier : Leads start older before)
      (met : Met before after request reply) :
      Leads start (.call before request reply :: older) after

/-- A pass has nothing to write on the node of the machine that it is at, as it has read the
node. -/
def Through (journal : List Happening) (name : String) (node : Node) : Prop :=
  ∃ machineSet machine, Handling journal machineSet machine name ∧
    ¬NodeUpdateDue machineSet machine node

/-- What a pass over the set at a place may call for, after what has happened before. -/
inductive Allowed (setKey : ObjectKey) (before : MemoryStore) (older : List Happening) :
    Request → Prop where
  | getMachineSet (first : setRead? older = none) :
      Allowed setKey before older (.getMachineSet setKey.ns setKey.name)
  | listMachines (ns : String) (first : atHand? older = none) :
      Allowed setKey before older (.listMachines ns)
  | getNode {machineSet : MachineSet} {machine : Machine} {rest : List Machine} {name : String}
      (read : setRead? older = some machineSet) (next : ahead older = machine :: rest)
      (copied : lastCopy? (.machine machine.place) older = some (.machine machine))
      (provisioned : machine.nodeName? = some name)
      (through : ∀ name' node, atHand? older = some (name', node) → Through older name' node) :
      Allowed setKey before older (.getNode name)
  | updateMachine {machineSet : MachineSet} {machine revised : Machine} {name : String}
      {node : Node} (handling : Handling older machineSet machine name)
      (write : MachineWrite machineSet machine node revised)
      (atHand : ∀ name' node', atHand? older = some (name', node') → name' = name ∧ node' = node)
      (updated : ∀ answer, (before.serve (.updateMachine revised)).1 = .ok answer →
        ∃ version, answer = revised.withVersion version) :
      Allowed setKey before older (.updateMachine revised)
  | updateNode {machineSet : MachineSet} {machine : Machine} {name : String}
      {node revised : Node} (handling : Handling older machineSet machine name)
      (write : NodeWrite machineSet machine node revised)
      (atHand : ∀ name' node', atHand? older = some (name', node') → name' = name ∧ node' = node)
      (replaces : ∀ answer, (before.serve (.updateNode revised)).1 = .ok answer →
        revised.metadata.name = some name ∧ before.nodes.get? name = some node) :
      Allowed setKey before older (.updateNode revised)

/-- All calls are such as a pass makes. -/
inductive Proper (setKey : ObjectKey) : List Happening → Prop where
  | nil : Proper setKey []
  | event {older : List Happening} (before : MemoryStore) (event : Event)
      (proper : Proper setKey older) : Proper setKey (.event before event :: older)
  | call {before : MemoryStore} {request : Request} {older : List Happening}
      (reply : Option request.Reply) (proper : Proper setKey older)
      (allowed : Allowed setKey before older request) :
      Proper setKey (.call before request reply :: older)

section Journal

variable {start store : MemoryStore} {setKey : ObjectKey} {journal older : List Happening}

theorem Leads.of_suffix (leads : Leads start journal store) (suffix : older <:+ journal) :
    ∃ middle, Leads start older middle := by
  induction leads with
  | nil =>
      cases List.suffix_nil.mp suffix
      exact ⟨start, .nil⟩
  | event event earlier ih =>
      rcases List.suffix_cons_iff.mp suffix with rfl | suffix
      · exact ⟨_, .event event earlier⟩
      · exact ih suffix
  | call earlier met ih =>
      rcases List.suffix_cons_iff.mp suffix with rfl | suffix
      · exact ⟨_, .call earlier met⟩
      · exact ih suffix

theorem Proper.of_suffix (proper : Proper setKey journal) (suffix : older <:+ journal) :
    Proper setKey older := by
  induction proper with
  | nil =>
      cases List.suffix_nil.mp suffix
      exact .nil
  | event before event proper ih =>
      rcases List.suffix_cons_iff.mp suffix with rfl | suffix
      · exact .event before event proper
      · exact ih suffix
  | call reply proper allowed ih =>
      rcases List.suffix_cons_iff.mp suffix with rfl | suffix
      · exact .call reply proper allowed
      · exact ih suffix

/-- What every call keeps holds after any calls. -/
theorem Leads.along {calls : List Happening} (holds : List Happening → MemoryStore → Prop)
    (leads : Leads start journal store) (proper : Proper setKey journal)
    (whole : journal = calls ++ older) (alone : ∀ before event, .event before event ∉ calls)
    (first : ∀ middle, Leads start older middle → holds older middle)
    (step : ∀ before after request reply earlier, Allowed setKey before earlier request →
      Met before after request reply → holds earlier before →
      holds (.call before request reply :: earlier) after) :
    holds journal store := by
  subst whole
  induction calls generalizing store with
  | nil => exact first store leads
  | cons happening calls ih =>
      cases leads with
      | event event earlier => exact absurd List.mem_cons_self (alone _ event)
      | call earlier met =>
          cases proper with
          | call reply proper allowed =>
              have alone' : ∀ before event, .event before event ∉ calls :=
                fun before event listed => alone before event (List.mem_cons_of_mem _ listed)
              exact step _ _ _ _ _ allowed met (ih alone' earlier proper)

/-- Where nothing but calls comes after some entries, nothing else comes between them and any later
entry. -/
theorem alone_of_suffix {calls fewer : List Happening} (whole : journal = calls ++ older)
    (alone : ∀ before event, .event before event ∉ calls) (suffix : fewer ++ older <:+ journal)
    (before : MemoryStore) (event : Event) : .event before event ∉ fewer := by
  rw [whole] at suffix
  obtain ⟨more, same⟩ := suffix
  rw [← List.append_assoc] at same
  intro listed
  apply alone before event
  rw [← List.append_cancel_right same]
  exact List.mem_append_right more listed

theorem Proper.ready {state : Contested} (proper : Proper setKey state.journal) :
    Proper setKey state.ready.journal :=
  Contested.ready_preserves (fun after => Proper setKey after.journal) (fun _ => proper)
    (fun _ event proper => .event _ event proper)

theorem Through.ready {state : Contested} {name : String} {node : Node}
    (through : Through state.journal name node) : Through state.ready.journal name node := by
  obtain ⟨machineSet, machine, handling, idle⟩ := through
  exact ⟨machineSet, machine, handling.ready, idle⟩

theorem Leads.ready {state : Contested} (leads : Leads start state.journal state.store) :
    Leads start state.ready.journal state.ready.store :=
  Contested.ready_preserves (fun after => Leads start after.journal after.store) (fun _ => leads)
    (fun _ event leads => .event event leads)

/-- A pass with a node at hand is at a machine that has this node. -/
theorem exists_handling {name : String} {node : Node} (leads : Leads start journal store)
    (proper : Proper setKey journal) (atHand : atHand? journal = some (name, node)) :
    ∃ machineSet machine, Handling journal machineSet machine name := by
  induction leads with
  | nil => cases atHand
  | event event earlier ih =>
      cases proper with
      | event before event proper =>
          obtain ⟨machineSet, machine, handling⟩ := ih proper atHand
          exact ⟨machineSet, machine, handling.event event⟩
  | @call _ _ _ reply _ earlier met ih =>
      cases proper with
      | call reply proper allowed =>
          by_cases succeeds : ∃ answer, reply = some (.ok answer)
          · obtain ⟨answer, rfl⟩ := succeeds
            cases allowed with
            | getMachineSet first =>
                obtain ⟨machineSet, machine, handling⟩ := ih proper atHand
                exact nomatch first.symm.trans handling.read
            | listMachines ns first => exact nomatch first.symm.trans atHand
            | getNode read next copied provisioned =>
                cases atHand
                exact ⟨_, _, .getNode read next copied provisioned⟩
            | updateMachine handling write own updated =>
                obtain ⟨rfl, -⟩ := own name node atHand
                obtain ⟨version, rfl⟩ := updated answer (met.served answer rfl)
                exact ⟨_, _, handling.updateMachine write.revises version⟩
            | updateNode => cases atHand
          · have failed : ∀ answer, reply ≠ some (.ok answer) := fun answer same =>
              succeeds ⟨answer, same⟩
            rw [atHand?_of_failed failed] at atHand
            obtain ⟨machineSet, machine, handling⟩ := ih proper atHand
            exact ⟨machineSet, machine, (Handling.failed_iff failed).mpr handling⟩

/-- Whatever a program does, its journal leads to the store that it leaves. -/
theorem Program.leads_run {α : Type} (program : Program α) {state : Contested}
    (leads : Leads start state.journal state.store) :
    Leads start (program.run Contested.environment state).2.journal
      (program.run Contested.environment state).2.store := by
  refine program.run_keeps (fun after : Contested => Leads start after.journal after.store) ?_
    (fun _ _ leads => leads) leads
  intro request middle leads
  rcases replied : Contested.environment.answer request middle with ⟨reply, after⟩
  obtain ⟨answered, journal⟩ := Contested.answer_cases replied
  rw [journal]
  refine .call leads.ready ⟨Disturbed.left_of_answer answered, ?_⟩
  rintro answer rfl
  exact Disturbed.serve_of_answer answered

end Journal

/-! ## One machine -/

/-- A pass that was stopped. One that nobody disturbs, and that had a node at hand, was stopped by
the error of its last call. -/
structure Broken (calm : Prop) (setKey : ObjectKey) (cause : ControllerError) (state : Contested) :
    Prop where
  proper : Proper setKey state.journal
  last : calm → (atHand? state.journal).isSome = true → ∃ before request error older,
    state.journal = .call before request (some (.error error)) :: older ∧
      (before.answer request).1 = .error error ∧ cause = .store error

/-- Without a node at hand, any error may have stopped the pass. -/
theorem Broken.of_none {calm : Prop} {setKey : ObjectKey} {cause : ControllerError}
    {state : Contested} (proper : Proper setKey state.journal)
    (none : atHand? state.journal = none) : Broken calm setKey cause state :=
  ⟨proper, fun _ some => by rw [none] at some; cases some⟩

section Calls

variable {calm : Prop} {setKey : ObjectKey} {state : Contested} {request : Request}

/-- A call that a pass may make. -/
theorem ensures_call_proper (blame : ControllerError → Option FailureReport)
    (onCourse : OnCourse calm state) (proper : Proper setKey state.journal)
    (allowed : Allowed setKey state.ready.store state.ready.journal request) :
    Ensures Contested.environment (Pass.call request blame) state
      (fun answer after =>
        after.journal = .call state.ready.store request (some (.ok answer)) ::
          state.ready.journal ∧
        Proper setKey after.journal)
      (Broken calm setKey) := by
  have called : ∀ reply after, Contested.environment.answer request state = (reply, after) →
      after.journal = .call state.ready.store request reply :: state.ready.journal ∧
        Proper setKey after.journal ∧
        (calm → reply = some (state.ready.store.answer request).1) := by
    intro reply after replied
    obtain ⟨answered, journal⟩ := Contested.answer_cases replied
    refine ⟨journal, ?_, fun quiet => ?_⟩
    · rw [journal]
      exact .call reply proper.ready allowed
    · rw [Disturbed.answer_of_fates_nil request (onCourse.ready.calm quiet).1] at answered
      exact (Prod.mk.inj answered).1.symm
  apply Ensures.call
  · intro ended
    refine ⟨proper, fun quiet => ?_⟩
    exact absurd ((onCourse.calm quiet).2.symm.trans ended) Bool.false_ne_true
  · intro after replied
    obtain ⟨-, proper', answered⟩ := called none after replied
    exact ⟨proper', fun quiet => nomatch answered quiet⟩
  · intro answer after replied
    obtain ⟨journal, proper', -⟩ := called _ after replied
    exact ⟨journal, proper'⟩
  · intro error after replied
    obtain ⟨journal, proper', answered⟩ := called _ after replied
    exact ⟨proper', fun quiet _ =>
      ⟨_, request, error, _, journal, (Option.some.inj (answered quiet)).symm, rfl⟩⟩
  · exact fun _ _ _ broken => ⟨broken.proper, broken.last⟩

end Calls

/-- The pass is at a machine, the copies of the machine and its node at hand are the ones that it
had last, and all its calls so far were proper. -/
structure Engaged (calm : Prop) (setKey : ObjectKey) (machineSet : MachineSet)
    (rest : List Machine) (earlier : Contested) (key : ObjectKey) (name : String)
    (machine : Machine) (node : Node) (state : Contested) : Prop
    extends Minded calm earlier key name machine node state where
  proper : Proper setKey state.journal
  handling : Handling state.journal machineSet machine name
  coming : ahead state.journal = rest
  atHand : ∀ name' node', atHand? state.journal = some (name', node') → name' = name ∧ node' = node

/-- Before the machines that are still to come, the pass is through with the node at hand. -/
structure Advancing (calm : Prop) (setKey : ObjectKey) (machineSet : MachineSet)
    (machines : List Machine) (state : Contested) : Prop extends Lined calm machines state where
  proper : Proper setKey state.journal
  read : setRead? state.journal = some machineSet
  coming : ahead state.journal = machines.filter fun machine => machine.nodeName?.isSome
  through : ∀ name node, atHand? state.journal = some (name, node) → Through state.journal name node

section OneMachine

variable {calm : Prop} {setKey key : ObjectKey} {machineSet : MachineSet} {rest : List Machine}
  {earlier state : Contested} {name : String} {machine : Machine} {node : Node}

/-- Updating the machine at hand. -/
theorem keepsMachineWrites_engaged : Ensures.KeepsMachineWrites Contested.environment machineSet
    (Engaged calm setKey machineSet rest earlier key name) (Broken calm setKey) := by
  intro machine node revised state blame engaged write
  have allowed : Allowed setKey state.ready.store state.ready.journal (.updateMachine revised) := by
    refine .updateMachine engaged.handling.ready write ?_ fun answer served =>
      engaged.toMinded.updated write served
    rw [atHand?_ready]
    exact engaged.atHand
  have call := ensures_call_proper blame engaged.toOnCourse engaged.proper allowed
  apply ((keepsMachineWrites_minded machine node revised state blame engaged.toMinded write).and
    call).imp
  · intro machine' after reached
    obtain ⟨⟨version, rfl, minded⟩, journal, proper⟩ := reached
    refine ⟨version, rfl, minded, proper, ?_, ?_, ?_⟩
    · rw [journal]
      exact engaged.handling.ready.updateMachine write.revises version
    · rw [journal]
      exact (ahead_ready state).trans engaged.coming
    · intro name' node' there
      rw [journal] at there
      exact engaged.atHand name' node' ((atHand?_ready state).symm.trans there)
  · exact fun _ _ ended => ended.2

/-- Updating the node at hand. The pass has none at hand afterwards. -/
theorem chargesNodeWrites_engaged : Ensures.ChargesNodeWrites Contested.environment machineSet name
    (Engaged calm setKey machineSet rest earlier key name)
    (fun after => atHand? after.journal = none) (Broken calm setKey) := by
  intro machine node revised state blame engaged write _
  have allowed : Allowed setKey state.ready.store state.ready.journal (.updateNode revised) := by
    refine .updateNode engaged.handling.ready write ?_ fun answer served =>
      engaged.toMinded.replaces write served
    rw [atHand?_ready]
    exact engaged.atHand
  have call := ensures_call_proper blame engaged.toOnCourse engaged.proper allowed
  apply ((keepsNodeWrites_minded machine node revised state blame engaged.toMinded write).and
    call).imp
  · intro node' after reached
    obtain ⟨⟨version, rfl, minded⟩, journal, proper⟩ := reached
    have none : atHand? after.journal = none := by
      rw [journal]
      rfl
    refine ⟨version, rfl, ⟨minded, proper, ?_, ?_, ?_⟩, none⟩
    · rw [journal]
      exact engaged.handling.ready.updateNode
    · rw [journal]
      exact (ahead_ready state).trans engaged.coming
    · intro name' node' there
      rw [none] at there
      cases there
  · exact fun _ _ ended => ended.2

/-- Reading the node of the next machine. -/
theorem getNode_engaged {machines : List Machine}
    (advancing : Advancing calm setKey machineSet (machine :: machines) state)
    (provisioned : machine.nodeName? = some name) (blame : ControllerError → Option FailureReport) :
    Ensures Contested.environment (Pass.call (.getNode name) blame) state
      (Engaged calm setKey machineSet (machines.filter fun machine => machine.nodeName?.isSome)
        state machine.place name machine) (Broken calm setKey) := by
  have read := (setRead?_ready state).trans advancing.read
  have copied := advancing.copies machine List.mem_cons_self
  have copied' := (lastCopy?_ready state _).trans copied
  have next : ahead state.ready.journal =
      machine :: machines.filter fun machine => machine.nodeName?.isSome := by
    rw [ahead_ready, advancing.coming, List.filter_cons_of_pos (by rw [provisioned]; rfl)]
  have allowed : Allowed setKey state.ready.store state.ready.journal (.getNode name) := by
    refine .getNode read next copied' provisioned fun name' node there => ?_
    rw [atHand?_ready] at there
    exact (advancing.through name' node there).ready
  have call := ensures_call_proper blame advancing.toOnCourse advancing.proper allowed
  apply ((getNode_minded advancing.toOnCourse copied blame).and call).imp
  · intro (node : Node) after reached
    obtain ⟨minded, journal, proper⟩ := reached
    refine ⟨minded, proper, ?_, ?_, ?_⟩
    · rw [journal]
      exact .getNode read next copied' provisioned
    · rw [journal]
      exact congrArg List.tail next
    · intro name' node' there
      rw [journal] at there
      cases there
      exact ⟨rfl, rfl⟩
  · exact fun _ _ ended => ended.2

/-- The pass has gone through with a pair. A node that is still at hand was not written. -/
theorem Engaged.through
    (engaged : Engaged calm setKey machineSet rest earlier key name machine node state)
    (finished : Finished machineSet machine node)
    (noted : node.AgreesWith (expectedLabels machineSet machine node) ∨
      atHand? state.journal = none) (name' : String) (node' : Node)
    (there : atHand? state.journal = some (name', node')) : Through state.journal name' node' := by
  obtain ⟨rfl, rfl⟩ := engaged.atHand name' node' there
  rcases noted with agrees | none
  · exact ⟨machineSet, machine, engaged.handling, finished.not_nodeUpdateDue agrees⟩
  · rw [none] at there
    cases there

end OneMachine

/-! ## Passes -/

section Passes

variable {calm : Prop} {setKey : ObjectKey} {machineSet : MachineSet} {state : Contested}

/-- All machines. -/
theorem synchroniseMachines_proper {machines : List Machine}
    (advancing : Advancing calm setKey machineSet machines state) :
    Ensures Contested.environment (synchroniseMachines machineSet machines) state
      (fun _ after => Advancing calm setKey machineSet [] after) (Broken calm setKey) := by
  apply (Ensures.synchroniseMachines (Advancing calm setKey machineSet) advancing ?_ ?_).imp
  · exact fun _ _ reached => reached.2
  · exact fun _ _ broken => broken
  · intro machine rest middle unprovisioned advancing
    have coming := advancing.coming
    rw [List.filter_cons_of_neg (by rw [unprovisioned]; exact Bool.false_ne_true)] at coming
    exact ⟨advancing.toLined.rest, advancing.proper, advancing.read, coming, advancing.through⟩
  · intro machine name rest middle provisioned advancing
    apply (Ensures.synchroniseMachine_charged provisioned (getNode_engaged advancing provisioned _)
      (keepsMachineWrites_engaged.charges _ _) chargesNodeWrites_engaged).imp
    · intro warning after reached
      obtain ⟨rfl, machine', node', engaged, finished, noted⟩ := reached
      exact ⟨rfl, advancing.toLined.next engaged.toMinded, engaged.proper, engaged.handling.read,
        engaged.coming, engaged.through finished noted⟩
    · exact fun _ _ broken => broken

/-- The machines of a set that was read. -/
theorem synchroniseSet_proper {ns name : String} (onCourse : OnCourse calm state)
    (proper : Proper setKey state.journal) (read : setRead? state.journal = some machineSet)
    (none : atHand? state.journal = none) :
    Ensures Contested.environment (synchroniseSet machineSet ns name) state
      (fun _ after => Advancing calm setKey machineSet [] after) (Broken calm setKey) := by
  have none' := (atHand?_ready state).trans none
  have read' := (setRead?_ready state).trans read
  apply Ensures.synchroniseSet
  apply ((onCourse.read Pass.noBlame rfl).and
    (ensures_call_proper Pass.noBlame onCourse proper (.listMachines ns none'))).imp
  · intro (listed : List Machine) after reached
    obtain ⟨⟨onCourse', served, journal⟩, -, proper'⟩ := reached
    have all : MemoryStore.inNamespace state.ready.store.machines ns = listed :=
      Except.ok.inj served
    subst all
    have noneAfter : atHand? after.journal = Option.none := by
      rw [journal]
      exact none'
    refine ⟨fun _ _ => .of_none proper' noneAfter, fun selected selects => ?_⟩
    have lined := lined_of_listed onCourse.watched.ready.versioned onCourse' journal selects
    apply synchroniseMachines_proper ⟨lined, proper', ?_, ?_, ?_⟩
    · rw [journal]
      exact read'
    · rw [journal]
      exact ahead_listMachines read' selects
    · intro name node there
      rw [noneAfter] at there
      cases there
  · exact fun _ _ ended => ended.2

/-- A whole pass. When it has gone through, it is through with the node at hand. -/
theorem synchronise_proper (ns name : String) (onCourse : OnCourse calm state)
    (proper : Proper ⟨ns, name⟩ state.journal) (first : setRead? state.journal = none)
    (none : atHand? state.journal = none) :
    Ensures Contested.environment (ExceptT.mk (synchronise ns name)) state
      (fun _ after => Proper ⟨ns, name⟩ after.journal ∧ ∀ nodeName node,
        atHand? after.journal = some (nodeName, node) → Through after.journal nodeName node)
      (Broken calm ⟨ns, name⟩) := by
  -- What any reply to the first call leaves.
  have called : ∀ reply after,
      Contested.environment.answer (.getMachineSet ns name) state = (reply, after) →
      after.journal = .call state.ready.store (.getMachineSet ns name) reply ::
        state.ready.journal ∧ Proper ⟨ns, name⟩ after.journal ∧
        atHand? after.journal = Option.none := by
    intro reply after replied
    have journal := (Contested.answer_cases replied).2
    refine ⟨journal, ?_, ?_⟩
    · rw [journal]
      exact .call reply proper.ready (.getMachineSet ((setRead?_ready state).trans first))
    · rw [journal]
      exact (atHand?_ready state).trans none
  have stops : ∀ cause reply after,
      Contested.environment.answer (.getMachineSet ns name) state = (reply, after) →
      Broken calm ⟨ns, name⟩ cause after := by
    intro cause reply after replied
    obtain ⟨-, proper', none'⟩ := called reply after replied
    exact .of_none proper' none'
  apply Ensures.synchronise
  · exact fun _ => .of_none proper none
  · exact fun after replied => stops _ _ after replied
  · intro what after replied
    obtain ⟨journal, proper', none'⟩ := called _ after replied
    refine ⟨proper', fun nodeName node there => ?_⟩
    rw [none'] at there
    cases there
  · exact fun error after replied _ => stops _ _ after replied
  · intro machineSet after replied
    obtain ⟨journal, proper', none'⟩ := called _ after replied
    obtain ⟨onCourse', -⟩ := onCourse.answered (.of_reads rfl _ _) replied
    have read : setRead? after.journal = some machineSet := by
      rw [journal]
      rfl
    apply (synchroniseSet_proper onCourse' proper' read none').imp
    · exact fun _ _ advancing => ⟨advancing.proper, advancing.through⟩
    · exact fun _ _ broken => broken

end Passes

section ContestedPasses

variable (store : MemoryStore) (fates : List Fate) (turns : List (List Event)) (ns name : String)

/-- The journal of a pass leads to the store that it leaves. -/
theorem leads_contestedPass : Leads store (store.contestedPass fates turns ns name).2.journal
    (store.contestedPass fates turns ns name).2.store := by
  rw [MemoryStore.contestedPass, runPass]
  exact (synchronise ns name).leads_run .nil

/-- Copies stay known throughout a pass. -/
theorem watched_contestedPass {store : MemoryStore} (reachable : store.Reachable) :
    Watched (store.contestedPass fates turns ns name).2 := by
  rw [MemoryStore.contestedPass, runPass]
  exact (synchronise ns name).run_keeps Watched (fun request _ watched => watched.answer request)
    (fun _ _ watched => watched.of_eq rfl rfl) (.start reachable fates turns)

/-- All calls of a pass are proper. When it has gone through, it is through with the node at hand.
If it was stopped while it had a node at hand, and nobody has disturbed it, the store has refused
its last call, and the error is its result. -/
theorem contestedPass_proper {store : MemoryStore} (versioned : store.Versioned)
    (stamped : store.Stamped) :
    Proper ⟨ns, name⟩ (store.contestedPass fates turns ns name).2.journal ∧
      (∀ outcome, (store.contestedPass fates turns ns name).1 = .ok outcome → ∀ nodeName node,
        atHand? (store.contestedPass fates turns ns name).2.journal = some (nodeName, node) →
        Through (store.contestedPass fates turns ns name).2.journal nodeName node) ∧
      ∀ cause, (store.contestedPass fates turns ns name).1 = .error cause →
        Broken (fates = []) ⟨ns, name⟩ cause (store.contestedPass fates turns ns name).2 := by
  have onCourse : OnCourse (fates = []) ⟨⟨store, fates, false, []⟩, turns, []⟩ :=
    ⟨.fresh versioned stamped fates turns, .nil, fun none => ⟨none, rfl⟩⟩
  rw [MemoryStore.contestedPass]
  rcases runPass_of_ensures (synchronise_proper ns name onCourse .nil rfl rfl) with
    ⟨outcome, after, ran, proper, through⟩ | ⟨cause, after, ran, broken⟩
  · rw [ran]
    exact ⟨proper, fun _ _ => through, nofun⟩
  · rw [ran]
    refine ⟨broken.proper, nofun, fun cause' same => ?_⟩
    cases same
    exact broken

end ContestedPasses

/-- The same pass with a journal and without one; nobody else is at work. -/
structure Unshared (state : Contested) (state' : Disturbed) : Prop where
  base : state.base = state'
  alone : state.turns = []
  calls : ∀ before event, .event before event ∉ state.journal

theorem Unshared.answer {state : Contested} {state' : Disturbed} (same : Unshared state state')
    (request : Request) :
    (Contested.environment.answer request state).1 =
        (Disturbed.environment.answer request state').1 ∧
      Unshared (Contested.environment.answer request state).2
        (Disturbed.environment.answer request state').2 := by
  rcases state with ⟨base, turns, journal⟩
  obtain ⟨rfl, rfl, calls⟩ := same
  refine ⟨rfl, rfl, rfl, fun before event listed => ?_⟩
  rcases List.mem_cons.mp listed with same | earlier
  · cases same
  · exact calls before event earlier

/-- Without anybody else at work, a pass leaves what it leaves where only the fates of its calls
disturb it, and its journal holds nothing but its calls. -/
theorem MemoryStore.passUnder_eq_contestedPass (store : MemoryStore) (fates : List Fate)
    (ns name : String) :
    (store.passUnder fates ns name).2 = (store.contestedPass fates [] ns name).2.store ∧
      ∀ before event, .event before event ∉
        (store.contestedPass fates [] ns name).2.journal := by
  have start : Unshared ⟨⟨store, fates, false, []⟩, [], []⟩ ⟨store, fates, false, []⟩ :=
    ⟨rfl, rfl, fun _ _ => List.not_mem_nil⟩
  obtain ⟨-, left⟩ := runPass_simulates
    (fun _ _ same => congrArg Disturbed.cancelled same.base)
    (fun request _ _ same => same.answer request)
    (fun failure _ _ same => ⟨congrArg (Disturbed.environment.report failure) same.base,
      same.alone, same.calls⟩) ns name start
  exact ⟨congrArg Disturbed.store left.base.symm, left.calls⟩

end NodeSync
