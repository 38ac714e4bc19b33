/-
Module: NodeSync.Proofs.Pass.Contention
Purpose: Passes on a store that other clients change between their calls. Every update of a pass
  carries the stamp of the copy that it had last, so that it replaces that very copy or nothing. If
  others have changed the object since, the update is a conflict, the pass ends with it, and what
  the others have written stays.
Main exports: UpToDate, OnCourse, Closed, OnCourse.call, runPass_contested, Overtaken,
  contestedPass_overtaken, update_replaces_lastCopy
-/
import NodeSync.Proofs.Pass.Conduct
import NodeSync.Proofs.Pass.ForeignLabels
import NodeSync.Proofs.Pass.Journal
import NodeSync.Proofs.Store.Refusals

namespace NodeSync

set_option autoImplicit false

open Pass (Ensures)

/-! ## Updates against the journal -/

/-- An update replaces the copy that the program had last, or nothing. If the object was changed
since, it is a conflict, and the store refuses it for no other reason. -/
structure UpToDate (before : MemoryStore) (request : Request) (older : List Happening)
    (slot : Slot) : Prop where
  replaces : ∀ answer, (before.serve request).1 = .ok answer →
    ∃ copy, lastCopy? slot older = some copy ∧ before.item? slot = some copy
  conflicts : HitSince slot older →
    ∃ what, before.serve request = (.error (.conflict what), before)
  refuses : (lastCopy? slot older).isSome = true → ∀ error,
    (before.serve request).1 = .error error → ∃ what, error = .conflict what

/-- A call that is no update has no copy to be up to date with. -/
theorem UpToDate.of_reads {request : Request} (reads : request.update? = none)
    (before : MemoryStore) (older : List Happening) (slot : Slot) (item : Item)
    (updates : request.update? = some (slot, item)) : UpToDate before request older slot := by
  rw [reads] at updates
  cases updates

/-- All calls so far have succeeded, and every update was up to date. -/
inductive Smooth : List Happening → Prop where
  | nil : Smooth []
  | event {before : MemoryStore} {event : Event} {older : List Happening} (smooth : Smooth older) :
      Smooth (.event before event :: older)
  | call {before : MemoryStore} {request : Request} {older : List Happening}
      {answer : request.Answer} (smooth : Smooth older)
      (succeeds : (before.serve request).1 = .ok answer)
      (updates : ∀ slot item, request.update? = some (slot, item) →
        UpToDate before request older slot) :
      Smooth (.call before request (some (.ok answer)) :: older)

/-- The last call of a pass, which had no success. In a pass that nobody disturbs, the store itself
has refused it. An error of an update is what stopped the pass. -/
structure Refused (calm : Prop) (cause : Option ControllerError) (state : Contested)
    (before : MemoryStore) (request : Request) (reply : Option request.Reply)
    (older : List Happening) : Prop where
  journal : state.journal = .call before request reply :: older
  smooth : Smooth older
  updates : ∀ slot item, request.update? = some (slot, item) → UpToDate before request older slot
  failed : ∀ answer, reply ≠ some (.ok answer)
  cause : request.update?.isSome = true → ∀ error, reply = some (.error error) →
    cause = some (.store error)
  calm : calm → reply = some (before.answer request).1
  left : state.store = (before.serve request).2 ∨
    ∃ pending, state.store = before.withFailures pending

/-- A pass that has ended: after calls with success only, or with one that had none. -/
def Closed (calm : Prop) (cause : Option ControllerError) (state : Contested) : Prop :=
  Smooth state.journal ∨
    ∃ before request reply older, Refused calm cause state before request reply older

/-- Reports change nothing. -/
theorem Closed.report {calm : Prop} {cause : Option ControllerError} {state : Contested}
    (closed : Closed calm cause state) (failure : FailureReport) :
    Closed calm cause (Contested.environment.report failure state) := by
  rcases closed with smooth | ⟨before, request, reply, older, refused⟩
  · exact .inl smooth
  · exact .inr ⟨before, request, reply, older, refused.1, refused.2, refused.3, refused.4,
      refused.5, refused.6, refused.7⟩

/-- A pass that goes on. -/
structure OnCourse (calm : Prop) (state : Contested) : Prop where
  watched : Watched state
  smooth : Smooth state.journal
  calm : calm → state.base.fates = [] ∧ state.base.cancelled = false

section Calls

variable {calm : Prop} {state : Contested} {request : Request} {slot slot' : Slot}
  {item copy : Item}

/-- What a call does to the state. -/
theorem Contested.answer_cases {reply : Option request.Reply} {after : Contested}
    (replied : Contested.environment.answer request state = (reply, after)) :
    Disturbed.answer request state.ready.base = (reply, after.base) ∧
      after.journal = .call state.ready.store request reply :: state.ready.journal := by
  cases replied
  exact ⟨rfl, rfl⟩

namespace OnCourse

/-- The turn of the others. -/
theorem ready (onCourse : OnCourse calm state) : OnCourse calm state.ready where
  watched := onCourse.watched.ready
  smooth := Contested.ready_preserves (fun after => Smooth after.journal)
    (fun _ => onCourse.smooth) (fun _ _ smooth => .event smooth)
  calm := Contested.ready_preserves
    (fun after => calm → after.base.fates = [] ∧ after.base.cancelled = false)
    (fun _ => onCourse.calm) (fun _ _ quiet => quiet)

/-- A call without success. -/
theorem refused (onCourse : OnCourse calm state) {reply : Option request.Reply} {after : Contested}
    {cause : Option ControllerError}
    (updates : ∀ slot item, request.update? = some (slot, item) →
      UpToDate state.ready.store request state.ready.journal slot)
    (replied : Contested.environment.answer request state = (reply, after))
    (failed : ∀ answer, reply ≠ some (.ok answer))
    (caused : request.update?.isSome = true → ∀ error, reply = some (.error error) →
      cause = some (.store error)) : Closed calm cause after := by
  obtain ⟨answered, journal⟩ := Contested.answer_cases replied
  refine .inr
    ⟨_, request, reply, _, journal, onCourse.ready.smooth, updates, failed, caused, ?_, ?_⟩
  · intro quiet
    rw [Disturbed.answer_of_fates_nil request (onCourse.ready.calm quiet).1] at answered
    exact (Prod.mk.inj answered).1.symm
  · exact Disturbed.left_of_answer answered

/-- A call with success. -/
theorem answered (onCourse : OnCourse calm state) {answer : request.Answer} {after : Contested}
    (updates : ∀ slot item, request.update? = some (slot, item) →
      UpToDate state.ready.store request state.ready.journal slot)
    (replied : Contested.environment.answer request state = (some (.ok answer), after)) :
    OnCourse calm after ∧ (state.ready.store.serve request).1 = .ok answer ∧
      after.journal =
        .call state.ready.store request (some (.ok answer)) :: state.ready.journal := by
  have watched : Watched (Contested.environment.answer request state).2 :=
    onCourse.watched.answer request
  rw [replied] at watched
  obtain ⟨answered, journal⟩ := Contested.answer_cases replied
  have succeeds := Disturbed.serve_of_answer answered
  refine ⟨⟨watched, ?_, fun quiet => ?_⟩, succeeds, journal⟩
  · rw [journal]
    exact .call onCourse.ready.smooth succeeds updates
  · obtain ⟨fates, running⟩ := onCourse.ready.calm quiet
    rw [Disturbed.answer_of_fates_nil request fates] at answered
    rw [← (Prod.mk.inj answered).2]
    exact ⟨fates, running⟩

/-- A call of a pass. If it is an update, it is up to date. -/
theorem call (onCourse : OnCourse calm state) (blame : ControllerError → Option FailureReport)
    (updates : ∀ slot item, request.update? = some (slot, item) →
      UpToDate state.ready.store request state.ready.journal slot) :
    Ensures Contested.environment (Pass.call request blame) state
      (fun answer after => OnCourse calm after ∧
        (state.ready.store.serve request).1 = .ok answer ∧
        after.journal = .call state.ready.store request (some (.ok answer)) :: state.ready.journal)
      (fun cause after => Closed calm (some cause) after) := by
  apply Ensures.call
  · exact fun _ => .inl onCourse.smooth
  · exact fun after replied => onCourse.refused updates replied nofun nofun
  · exact fun answer after replied => onCourse.answered updates replied
  · intro error after replied
    refine onCourse.refused updates replied nofun fun _ error' same => ?_
    rw [Except.error.inj (Option.some.inj same)]
  · exact fun _ failure _ closed => closed.report failure

/-- A call of a pass that is no update. -/
theorem read (onCourse : OnCourse calm state) (blame : ControllerError → Option FailureReport)
    (reads : request.update? = none) :
    Ensures Contested.environment (Pass.call request blame) state
      (fun answer after => OnCourse calm after ∧
        (state.ready.store.serve request).1 = .ok answer ∧
        after.journal = .call state.ready.store request (some (.ok answer)) :: state.ready.journal)
      (fun cause after => Closed calm (some cause) after) :=
  onCourse.call blame (.of_reads reads _ _)

end OnCourse

/-- An update that carries the stamp of the copy that the program had last of an object goes through
only if that copy is stored in the slot of the update. -/
theorem Watched.upToDate (watched : Watched state)
    (copied : lastCopy? slot' state.journal = some copy)
    (updates : request.update? = some (slot, item)) (carries : item.version = copy.version)
    (lasting : ∀ key, slot ≠ .machineSet key) :
    (∀ answer, (state.store.serve request).1 = .ok answer →
      slot' = slot ∧ state.store.item? slot = some copy) ∧
    UpToDate state.store request state.journal slot := by
  have known := watched.known slot' copy copied
  have succeeds : ∀ answer, (state.store.serve request).1 = .ok answer →
      slot' = slot ∧ state.store.item? slot = some copy :=
    fun answer => known.item_of_serve updates carries
  refine ⟨succeeds, fun answer served => ?_, fun hit => ?_, fun seen error refused => ?_⟩
  · obtain ⟨rfl, stored⟩ := succeeds answer served
    exact ⟨copy, copied, stored⟩
  · apply known.serve_conflict updates carries
    · exact watched.present slot lasting hit.isSome_lastCopy?
    · rintro rfl
      exact watched.changed slot' copy copied hit
  · exact MemoryStore.conflict_of_serve updates (watched.present slot lasting seen) refused

end Calls

/-! ## One machine -/

/-- The copies of a machine and its node at hand are the ones that the pass had last. Those of other
machines are as before. -/
structure Minded (calm : Prop) (earlier : Contested) (key : ObjectKey) (name : String)
    (machine : Machine) (node : Node) (state : Contested) : Prop
    extends OnCourse calm state where
  place : machine.place = key
  machineCopy : lastCopy? (.machine key) state.journal = some (.machine machine)
  nodeCopy : lastCopy? (.node name) state.journal = some (.node node)
  others : ∀ other, other ≠ key →
    lastCopy? (.machine other) state.journal = lastCopy? (.machine other) earlier.journal

section OneMachine

variable {calm : Prop} {earlier state : Contested} {key : ObjectKey} {name : String}
  {machineSet : MachineSet} {machine : Machine} {node : Node}

/-- The turn of the others changes no copy at hand. -/
theorem Minded.machineCopied (minded : Minded calm earlier key name machine node state) :
    lastCopy? (.machine key) state.ready.journal = some (.machine machine) := by
  rw [lastCopy?_ready, minded.machineCopy]

theorem Minded.nodeCopied (minded : Minded calm earlier key name machine node state) :
    lastCopy? (.node name) state.ready.journal = some (.node node) := by
  rw [lastCopy?_ready, minded.nodeCopy]

/-- An update of the machine at hand is up to date. One that the store carries out replaces that
very copy. -/
theorem Minded.machineUpToDate {revised : Machine}
    (minded : Minded calm earlier key name machine node state)
    (write : MachineWrite machineSet machine node revised) :
    (∀ answer : Machine, (state.ready.store.serve (.updateMachine revised)).1 = .ok answer →
      state.ready.store.machines.get? machine.place = some machine) ∧
    UpToDate state.ready.store (.updateMachine revised) state.ready.journal
      (.machine revised.place) := by
  have updates : (Request.updateMachine revised).update? =
      some (.machine revised.place, .machine revised) := rfl
  obtain ⟨replaces, upToDate⟩ := minded.watched.ready.upToDate minded.machineCopied updates
    write.revises.version (by simp)
  refine ⟨fun answer served => ?_, upToDate⟩
  obtain ⟨-, stored⟩ := replaces answer served
  obtain ⟨found, there, same⟩ := Option.map_eq_some_iff.mp stored
  cases same
  rw [← write.revises.place]
  exact there

/-- An update of the machine at hand gives back what was to be written. -/
theorem Minded.updated {revised answer : Machine}
    (minded : Minded calm earlier key name machine node state)
    (write : MachineWrite machineSet machine node revised)
    (served : (state.ready.store.serve (.updateMachine revised)).1 = .ok answer) :
    ∃ version, answer = revised.withVersion version := by
  have there := (minded.machineUpToDate write).1 answer served
  rw [MemoryStore.serve_updateMachine there write.revises] at served
  cases served
  exact ⟨_, rfl⟩

/-- Updating the machine at hand. -/
theorem keepsMachineWrites_minded : Ensures.KeepsMachineWrites Contested.environment machineSet
    (Minded calm earlier key name) (fun cause => Closed calm (some cause)) := by
  intro machine node revised state blame minded write
  have place : revised.place = key := write.revises.place.trans minded.place
  apply (minded.toOnCourse.call blame ?_).imp
  · intro answer after reached
    obtain ⟨onCourse, served, journal⟩ := reached
    obtain ⟨version, rfl⟩ := minded.updated write served
    refine ⟨_, rfl, onCourse, place, ?_, ?_, fun other different => ?_⟩
    · rw [journal, lastCopy?, shown?_updateMachine, ← place]
      exact congrArg (Option.or · _) (if_pos rfl)
    · simp [journal, lastCopy?, shown?_updateMachine, lastCopy?_ready, minded.nodeCopy]
    · have elsewhere : Slot.machine other ≠ .machine revised.place := fun same =>
        different ((Slot.machine.inj same).trans place)
      rw [journal, lastCopy?, shown?_updateMachine, ← minded.others other different,
        ← lastCopy?_ready state]
      exact congrArg (Option.or · _) (if_neg elsewhere)
  · exact fun _ _ closed => closed
  · intro slot item same
    cases same
    exact (minded.machineUpToDate write).2

/-- An update of the node at hand that the store carries out replaces that very copy, under the name
that it was read by. A node that was renamed where it is stored has no such update. -/
theorem Minded.replaces {revised answer : Node}
    (minded : Minded calm earlier key name machine node state)
    (write : NodeWrite machineSet machine node revised)
    (served : (state.ready.store.serve (.updateNode revised)).1 = .ok answer) :
    revised.metadata.name = some name ∧ state.ready.store.nodes.get? name = some node := by
  cases named : revised.metadata.name with
  | none =>
      rw [MemoryStore.serve, MemoryStore.replaceNode, named] at served
      cases served
  | some name' =>
      have updates : (Request.updateNode revised).update? = some (.node name', .node revised) := by
        rw [Request.update?, named]
        rfl
      obtain ⟨same, stored⟩ :=
        (minded.watched.ready.upToDate minded.nodeCopied updates write.revises.version
          (by simp)).1 answer served
      cases same
      obtain ⟨found, there, same⟩ := Option.map_eq_some_iff.mp stored
      cases same
      exact ⟨rfl, there⟩

/-- Updating the node at hand. -/
theorem keepsNodeWrites_minded : Ensures.KeepsNodeWrites Contested.environment machineSet
    (Minded calm earlier key name) (fun cause => Closed calm (some cause)) := by
  intro machine node revised state blame minded write
  have revises := write.revises
  have upToDate : ∀ slot item, (Request.updateNode revised).update? = some (slot, item) →
      UpToDate state.ready.store (.updateNode revised) state.ready.journal slot := by
    intro slot item updates
    obtain ⟨name', named, same⟩ := Option.map_eq_some_iff.mp updates
    cases same
    exact (minded.watched.ready.upToDate minded.nodeCopied updates revises.version (by simp)).2
  apply (minded.toOnCourse.call blame upToDate).imp
  · intro answer after reached
    obtain ⟨onCourse, served, journal⟩ := reached
    obtain ⟨named, there⟩ := minded.replaces write served
    rw [MemoryStore.serve_updateNode there (revises.name.symm.trans named) revises] at served
    cases served
    have own : (revised.withVersion (some state.ready.store.freshVersion)).metadata.name =
        some name := named
    refine ⟨_, rfl, onCourse, minded.place, ?_, ?_, fun other different => ?_⟩
    · simp [journal, lastCopy?, shown?_updateNode, own, lastCopy?_ready, minded.machineCopy]
    · rw [journal, lastCopy?, shown?_updateNode, own]
      exact congrArg (Option.or · _) (if_pos rfl)
    · simp [journal, lastCopy?, shown?_updateNode, own, lastCopy?_ready,
        minded.others other different]
  · exact fun _ _ closed => closed

/-- Reading a node. -/
theorem getNode_minded (onCourse : OnCourse calm state)
    (machineCopy : lastCopy? (.machine machine.place) state.journal = some (.machine machine))
    (blame : ControllerError → Option FailureReport) :
    Ensures Contested.environment (Pass.call (.getNode name) blame) state
      (Minded calm state machine.place name machine) (fun cause => Closed calm (some cause)) := by
  apply (onCourse.read blame rfl).imp
  · intro (node : Node) after reached
    obtain ⟨onCourse', -, journal⟩ := reached
    refine ⟨onCourse', rfl, ?_, ?_, fun other _ => ?_⟩
    · simp [journal, lastCopy?, shown?_getNode, lastCopy?_ready, machineCopy]
    · simp [journal, lastCopy?, shown?_getNode]
    · simp [journal, lastCopy?, shown?_getNode, lastCopy?_ready]
  · exact fun _ _ closed => closed

end OneMachine

/-! ## Passes -/

/-- The copies of all machines that are left are the ones that the pass had last. -/
structure Lined (calm : Prop) (machines : List Machine) (state : Contested) : Prop
    extends OnCourse calm state where
  places : (machines.map Machine.place).Nodup
  copies : ∀ machine ∈ machines,
    lastCopy? (.machine machine.place) state.journal = some (.machine machine)

section Passes

variable {calm : Prop} {state : Contested} {machineSet : MachineSet}

theorem Lined.rest {machine : Machine} {rest : List Machine}
    (lined : Lined calm (machine :: rest) state) : Lined calm rest state where
  toOnCourse := lined.toOnCourse
  places := (List.nodup_cons.mp lined.places).2
  copies other listed := lined.copies other (List.mem_cons_of_mem _ listed)

/-- The pass has gone through with the first machine. -/
theorem Lined.next {name : String} {machine machine' : Machine} {node' : Node}
    {rest : List Machine} {after : Contested} (lined : Lined calm (machine :: rest) state)
    (minded : Minded calm state machine.place name machine' node' after) :
    Lined calm rest after where
  toOnCourse := minded.toOnCourse
  places := lined.rest.places
  copies other listed := by
    have elsewhere : other.place ≠ machine.place := fun same =>
      (List.nodup_cons.mp lined.places).1 (same ▸ List.mem_map_of_mem listed)
    rw [minded.others other.place elsewhere]
    exact lined.rest.copies other listed

/-- All machines. -/
theorem synchroniseMachines_contested {machines : List Machine}
    (lined : Lined calm machines state) :
    Ensures Contested.environment (synchroniseMachines machineSet machines) state
      (fun _ after => OnCourse calm after) (fun cause => Closed calm (some cause)) := by
  apply (Ensures.synchroniseMachines (Lined calm) lined ?_ ?_).imp
  · exact fun _ _ reached => reached.2.toOnCourse
  · exact fun _ _ closed => closed
  · exact fun _ _ _ _ lined => lined.rest
  · intro machine name rest middle provisioned lined
    have copied := lined.copies machine List.mem_cons_self
    apply (Ensures.synchroniseMachine provisioned (getNode_minded lined.toOnCourse copied)
      keepsMachineWrites_minded keepsNodeWrites_minded).imp
    · intro warning after reached
      obtain ⟨rfl, machine', node', minded, -⟩ := reached
      exact ⟨rfl, lined.next minded⟩
    · exact fun _ _ closed => closed

/-- Machines that are listed become the copies that the pass had last. -/
theorem lined_of_listed {ns : String} {selected : List Machine} {before after : Contested}
    (versioned : before.store.Versioned) (onCourse : OnCourse calm after)
    (journal : after.journal = .call before.store (.listMachines ns)
      (some (.ok (MemoryStore.inNamespace before.store.machines ns))) :: before.journal)
    (selects : selectMachines machineSet (MemoryStore.inNamespace before.store.machines ns) =
      .ok selected) : Lined calm selected after := by
  have same : before.store.selected machineSet ns = selected := by
    rw [MemoryStore.selected, selects]
  have sublist := MemoryStore.selectMachines_sublist selects
  refine ⟨onCourse, ?_, fun machine listed => ?_⟩
  · rw [← same]
    exact MemoryStore.selected_places_nodup versioned.machines machineSet ns
  · have copied : (MemoryStore.inNamespace before.store.machines ns).find?
        (fun other => Slot.machine machine.place = .machine other.place) = some machine := by
      cases first : (MemoryStore.inNamespace before.store.machines ns).find?
          (fun other => Slot.machine machine.place = .machine other.place) with
      | none =>
          have missing := List.find?_eq_none.mp first machine (sublist.subset listed)
          simp at missing
      | some other =>
          -- Two machines of one place are the one that is stored there.
          have place : machine.place = other.place := by simpa using List.find?_some first
          obtain ⟨key, found, -⟩ :=
            MemoryStore.mem_inNamespace (List.mem_of_find?_eq_some first)
          obtain ⟨key', found', -⟩ := MemoryStore.mem_inNamespace (sublist.subset listed)
          rw [← versioned.machines key other found, ← place,
            versioned.machines key' machine found', found'] at found
          exact found.symm
    rw [journal, lastCopy?, shown?_listMachines, copied]
    rfl

/-- The machines of a set that was read. -/
theorem synchroniseSet_contested {ns name : String} (onCourse : OnCourse calm state) :
    Ensures Contested.environment (synchroniseSet machineSet ns name) state
      (fun _ after => OnCourse calm after) (fun cause => Closed calm (some cause)) := by
  apply Ensures.synchroniseSet
  apply (onCourse.read Pass.noBlame rfl).imp
  · intro (listed : List Machine) after reached
    obtain ⟨onCourse', served, journal⟩ := reached
    have all : MemoryStore.inNamespace state.ready.store.machines ns = listed :=
      Except.ok.inj served
    subst all
    refine ⟨fun _ _ => .inl onCourse'.smooth, fun selected selects => ?_⟩
    exact synchroniseMachines_contested
      (lined_of_listed onCourse.watched.ready.versioned onCourse' journal selects)
  · exact fun _ _ closed => closed

/-- A whole pass. One that finds the set gone has made no update. -/
theorem synchronise_contested (ns name : String) (onCourse : OnCourse calm state) :
    Ensures Contested.environment (ExceptT.mk (synchronise ns name)) state
      (fun outcome after => OnCourse calm after ∨ outcome = .gone ∧ Closed calm none after)
      (fun cause => Closed calm (some cause)) := by
  have reads : ∀ slot item, (Request.getMachineSet ns name).update? = some (slot, item) →
      UpToDate state.ready.store (.getMachineSet ns name) state.ready.journal slot :=
    .of_reads rfl _ _
  have stops : ∀ (cause : Option ControllerError) (reply : Option (Except StoreError MachineSet))
      after, Contested.environment.answer (.getMachineSet ns name) state = (reply, after) →
      (∀ machineSet, reply ≠ some (.ok machineSet)) → Closed calm cause after := by
    intro cause reply after replied failed
    apply onCourse.refused reads replied failed
    intro updates
    exact absurd updates Bool.false_ne_true
  apply Ensures.synchronise
  · exact fun _ => .inl onCourse.smooth
  · exact fun after replied => stops _ none after replied fun _ same => nomatch same
  · intro what after replied
    exact .inr ⟨rfl, stops none _ after replied fun _ same => nomatch same⟩
  · exact fun error after replied _ => stops _ _ after replied fun _ same => nomatch same
  · intro machineSet after replied
    obtain ⟨onCourse', -⟩ := onCourse.answered reads replied
    apply (synchroniseSet_contested onCourse').imp
    · exact fun _ _ onCourse'' => .inl onCourse''
    · exact fun _ _ closed => closed

/-- What is left of a whole pass. An error that stopped it is its result. -/
theorem runPass_contested (ns name : String) (onCourse : OnCourse calm state) :
    ∃ cause, Closed calm cause (runPass Contested.environment ns name state).2 ∧
      ∀ error, cause = some error →
        (runPass Contested.environment ns name state).1 = .error error := by
  rcases runPass_of_ensures (synchronise_contested ns name onCourse) with
    ⟨outcome, after, ran, onCourse' | ⟨-, closed⟩⟩ | ⟨cause, after, ran, closed⟩
  · rw [ran]
    exact ⟨none, .inl onCourse'.smooth, nofun⟩
  · rw [ran]
    exact ⟨none, closed, nofun⟩
  · rw [ran]
    refine ⟨some cause, closed, fun error same => ?_⟩
    rw [Option.some.inj same]

end Passes

/-! ## Updates of a pass -/

/-- A pass whose calls have the given fates, and before whose calls the given events happen: its
result, and what is left of the environment. -/
def MemoryStore.contestedPass (store : MemoryStore) (fates : List Fate) (turns : List (List Event))
    (ns name : String) : Except ControllerError Outcome × Contested :=
  runPass Contested.environment ns name ⟨⟨store, fates, false, []⟩, turns, []⟩

/-- What becomes of an update of an object that others have changed since the pass had it last, and
of the pass. -/
structure Overtaken (fates : List Fate) (result : Except ControllerError Outcome)
    (last before : MemoryStore) (request : Request) (reply : Option request.Reply) : Prop where
  /-- The store has a conflict in store for it, and changes nothing. -/
  conflict : ∃ what, before.serve request = (.error (.conflict what), before)
  failed : ∀ answer, reply ≠ some (.ok answer)
  returned : ∀ error, reply = some (.error error) → result = .error (.store error)
  /-- In a pass that nobody disturbs, only a failure that was ordered comes before the conflict. -/
  unordered : fates = [] → before.pendingFailures request.operation = 0 →
    ∃ what, result = .error (.store (.conflict what))
  ordered : fates = [] → 0 < before.pendingFailures request.operation →
    result = .error (.store (.unavailable ("injected failure for " ++ request.operation.name)))
  kept : ∀ slot, last.item? slot = before.item? slot

section Updates

variable {calm : Prop} {cause : Option ControllerError} {state : Contested}
  {journal older : List Happening} {before : MemoryStore} {request : Request}
  {reply : Option request.Reply} {slot : Slot} {item : Item}

/-- An update in a smooth journal. -/
theorem Smooth.of_suffix (smooth : Smooth journal)
    (made : .call before request reply :: older <:+ journal)
    (updates : request.update? = some (slot, item)) :
    (∃ answer, (before.serve request).1 = .ok answer) ∧ UpToDate before request older slot := by
  induction smooth with
  | nil => cases List.suffix_nil.mp made
  | event _ ih =>
      rcases List.suffix_cons_iff.mp made with same | earlier
      · cases same
      · exact ih earlier
  | call _ succeeds upToDate ih =>
      rcases List.suffix_cons_iff.mp made with same | earlier
      · cases same
        exact ⟨⟨_, succeeds⟩, upToDate slot item updates⟩
      · exact ih earlier

/-- An update of a pass that has ended. One that had no success is the last call. -/
theorem Closed.of_suffix (closed : Closed calm cause state)
    (made : .call before request reply :: older <:+ state.journal)
    (updates : request.update? = some (slot, item)) :
    UpToDate before request older slot ∧ ((∃ answer, (before.serve request).1 = .ok answer) ∨
      Refused calm cause state before request reply older) := by
  rcases closed with smooth | ⟨before', request', reply', older', refused⟩
  · obtain ⟨served, upToDate⟩ := smooth.of_suffix made updates
    exact ⟨upToDate, .inl served⟩
  · rw [refused.journal] at made
    rcases List.suffix_cons_iff.mp made with same | earlier
    · cases same
      exact ⟨refused.updates slot item updates, .inr refused⟩
    · obtain ⟨served, upToDate⟩ := refused.smooth.of_suffix earlier updates
      exact ⟨upToDate, .inl served⟩

/-- An update that was refused leaves every object as it met it. -/
theorem Refused.item?_eq (refused : Refused calm cause state before request reply older)
    {error : StoreError} (unserved : before.serve request = (.error error, before)) (slot : Slot) :
    state.store.item? slot = before.item? slot := by
  rcases refused.left with left | ⟨pending, left⟩
  · rw [left, unserved]
  · rw [left]
    cases slot <;> rfl

end Updates

/-- What becomes of an update that was refused with a conflict, or would have been. -/
theorem Refused.overtaken {fates : List Fate} {cause : Option ControllerError} {state : Contested}
    {before : MemoryStore} {request : Request} {reply : Option request.Reply}
    {older : List Happening} {result : Except ControllerError Outcome} {what : String}
    (refused : Refused (fates = []) cause state before request reply older)
    (updates : request.update?.isSome = true)
    (ended : ∀ error, cause = some error → result = .error error)
    (conflict : before.serve request = (.error (.conflict what), before)) :
    Overtaken fates result state.store before request reply := by
  have returned : ∀ error, reply = some (.error error) → result = .error (.store error) :=
    fun error replied => ended (.store error) (refused.cause updates error replied)
  refine ⟨⟨what, conflict⟩, refused.failed, returned, fun quiet none => ⟨what, ?_⟩,
    fun quiet some => ?_, refused.item?_eq conflict⟩
  · apply returned
    rw [refused.calm quiet, MemoryStore.answer_of_unordered none, conflict]
  · apply returned
    rw [refused.calm quiet, MemoryStore.answer, if_pos some]

section ContestedPasses

variable {store before : MemoryStore} {fates : List Fate} {turns : List (List Event)}
  {ns name : String} {request : Request} {reply : Option request.Reply} {older : List Happening}
  {slot : Slot} {item : Item}

/-- Every update of a pass is up to date, and it goes through or ends the pass. -/
theorem contestedPass_update (reachable : store.Reachable)
    (made : .call before request reply :: older <:+
      (store.contestedPass fates turns ns name).2.journal)
    (updates : request.update? = some (slot, item)) :
    ∃ cause, (∀ error, cause = some error →
        (store.contestedPass fates turns ns name).1 = .error error) ∧
      UpToDate before request older slot ∧ ((∃ answer, (before.serve request).1 = .ok answer) ∨
        Refused (fates = []) cause (store.contestedPass fates turns ns name).2 before request reply
          older) := by
  have start : OnCourse (fates = []) ⟨⟨store, fates, false, []⟩, turns, []⟩ :=
    ⟨.start reachable fates turns, .nil, fun none => ⟨none, rfl⟩⟩
  obtain ⟨cause, closed, ended⟩ := runPass_contested ns name start
  exact ⟨cause, ended, closed.of_suffix made updates⟩

/-- An update of an object that others have changed since the pass had it last. -/
theorem contestedPass_overtaken (reachable : store.Reachable)
    (made : .call before request reply :: older <:+
      (store.contestedPass fates turns ns name).2.journal)
    (updates : request.update? = some (slot, item)) (hit : HitSince slot older) :
    Overtaken fates (store.contestedPass fates turns ns name).1
      (store.contestedPass fates turns ns name).2.store before request reply := by
  obtain ⟨cause, ended, upToDate, made⟩ := contestedPass_update reachable made updates
  obtain ⟨what, conflict⟩ := upToDate.conflicts hit
  rcases made with ⟨answer, served⟩ | refused
  · rw [conflict] at served
    cases served
  · refine refused.overtaken ?_ ended conflict
    rw [updates]
    rfl

end ContestedPasses

/-- A test whether the last call of a journal is an update in a slot that others have changed. -/
def overtakes? (slot : Slot) : List Happening → Bool
  | .call _ request _ :: older => request.update?.map (·.1) == some slot && hitSince? slot older
  | _ => false

theorem exists_of_overtakes? {slot : Slot} {journal : List Happening}
    (test : overtakes? slot journal = true) :
    ∃ before request reply older item, .call before request reply :: older <:+ journal ∧
      request.update? = some (slot, item) ∧ HitSince slot older := by
  cases journal with
  | nil => cases test
  | cons happening older =>
      cases happening with
      | event before event => cases test
      | call before request reply =>
          obtain ⟨there, hit⟩ := (Bool.and_eq_true _ _).mp test
          obtain ⟨⟨slot', item⟩, updates, rfl⟩ := Option.map_eq_some_iff.mp (eq_of_beq there)
          exact ⟨before, request, reply, older, item, List.suffix_refl _, updates,
            hitSince_of_hitSince? hit⟩

namespace SmallCluster

/-- While a pass over the small cluster runs, the node gets another label before the pass writes it
for the first time. -/
def rivals : List (List Event) :=
  [[], [], [], [], [], [.editNode "node-0" fun node => { node with metadata := { node.metadata with
    labels := some (node.labelMap.insert "rack" "r1") } }]]

/-- The small cluster, where the next update of a node is ordered to fail. -/
def jammed : MemoryStore := registered.apply (.failNext .updateNode)

theorem reachable_jammed : jammed.Reachable := .apply _ reachable

end SmallCluster

/-- Every update of a pass, with other clients at work between any two of its calls, replaces the
copy that the pass had last, or nothing. If others have changed the object since, the store has a
conflict for the update; the error that the update ends with ends the pass, and all objects stay as
they are stored. -/
theorem update_replaces_lastCopy {store : MemoryStore} (reachable : store.Reachable)
    {fates : List Fate} {turns : List (List Event)} {ns name : String} {before : MemoryStore}
    {request : Request} {reply : Option request.Reply} {older : List Happening} {slot : Slot}
    {item : Item}
    (made : .call before request reply :: older <:+
      (store.contestedPass fates turns ns name).2.journal)
    (updates : request.update? = some (slot, item)) :
    (∀ answer, reply = some (.ok answer) ∨ (before.serve request).1 = .ok answer →
      ∃ copy, lastCopy? slot older = some copy ∧ before.item? slot = some copy) ∧
    (HitSince slot older → Overtaken fates (store.contestedPass fates turns ns name).1
      (store.contestedPass fates turns ns name).2.store before request reply) := by
  obtain ⟨cause, -, upToDate, ends⟩ := contestedPass_update reachable made updates
  refine ⟨fun answer succeeds => ?_, contestedPass_overtaken reachable made updates⟩
  rcases ends with ⟨answer', served⟩ | refused
  · exact upToDate.replaces answer' served
  · rcases succeeds with replied | served
    · exact absurd replied (refused.failed answer)
    · exact upToDate.replaces answer served

/-- The pass over the small cluster whose node is changed by others meanwhile. -/
theorem update_replaces_lastCopy_smallCluster :
    ∃ before request reply older item,
      .call before request reply :: older <:+
        (SmallCluster.registered.contestedPass [] SmallCluster.rivals "machines" "web").2.journal ∧
      request.update? = some (.node "node-0", item) ∧ HitSince (.node "node-0") older ∧
      (∀ answer, reply = some (.ok answer) ∨ (before.serve request).1 = .ok answer →
        ∃ copy, lastCopy? (.node "node-0") older = some copy ∧
          before.item? (.node "node-0") = some copy) ∧
      Overtaken []
        (SmallCluster.registered.contestedPass [] SmallCluster.rivals "machines" "web").1
        (SmallCluster.registered.contestedPass [] SmallCluster.rivals "machines" "web").2.store
        before request reply := by
  have test : overtakes? (.node "node-0") (SmallCluster.registered.contestedPass []
      SmallCluster.rivals "machines" "web").2.journal = true := by decide +kernel
  obtain ⟨before, request, reply, older, item, made, updates, hit⟩ := exists_of_overtakes? test
  have both := update_replaces_lastCopy SmallCluster.reachable made updates
  exact ⟨before, request, reply, older, item, made, updates, hit, both.1, both.2 hit⟩

/-- An update of an object that others have changed need not end with a conflict: a failure of it
that was ordered comes first. -/
theorem overtaken_update_unavailable :
    SmallCluster.jammed.Reachable ∧ ∃ before request reply older item,
      .call before request reply :: older <:+
        (SmallCluster.jammed.contestedPass [] SmallCluster.rivals "machines" "web").2.journal ∧
      request.update? = some (.node "node-0", item) ∧ HitSince (.node "node-0") older ∧
      ∀ what, (SmallCluster.jammed.contestedPass [] SmallCluster.rivals "machines" "web").1 ≠
        .error (.store (.conflict what)) := by
  have test : overtakes? (.node "node-0") (SmallCluster.jammed.contestedPass []
      SmallCluster.rivals "machines" "web").2.journal = true := by decide +kernel
  have unavailable : (SmallCluster.jammed.contestedPass [] SmallCluster.rivals "machines"
      "web").1 = .error (.store (.unavailable "injected failure for UpdateNode")) := by
    decide +kernel
  obtain ⟨before, request, reply, older, item, made, updates, hit⟩ := exists_of_overtakes? test
  refine
    ⟨SmallCluster.reachable_jammed, before, request, reply, older, item, made, updates, hit, ?_⟩
  rw [unavailable]
  nofun

end NodeSync
