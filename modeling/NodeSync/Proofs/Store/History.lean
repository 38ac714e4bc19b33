/-
Module: NodeSync.Proofs.Store.History
Purpose: The versions of a store over a whole history of single operations. Each operation writes at
  most one object, and that under the next version. So a stored copy stays until an operation writes
  to its slot and is lost for good then, no version is given out twice, an update that carries a
  version goes through exactly while the object has not been written since it had that version, and
  the record lists the updates that went through.
Main exports: Event.isOperation, MemoryStore.run, MemoryStore.touched?, MemoryStore.writes,
  MemoryStore.successes, MemoryStore.Touched, MemoryStore.touched_apply, MemoryStore.VersionsAfter,
  MemoryStore.versions_of_history
-/
import NodeSync.Proofs.Pass.Completion
import NodeSync.Proofs.Store.Stamps

namespace NodeSync

set_option autoImplicit false

/-! ## Histories of single operations -/

/-- One operation on the store that leaves its record of updates to the updates. A pass is a number
of operations. -/
def Event.isOperation : Event → Bool
  | .clearUpdates | .pass .. => false
  | _ => true

/-- The record of a call, if it is an update of an object that has a name. -/
def Request.record? : Request → Option UpdateRecord
  | .updateMachine machine => some (.machine machine.place.name)
  | .updateNode node => node.metadata.name.map .node
  | _ => none

/-- The object that an update gives back. -/
def Request.updated? : (request : Request) → request.Answer → Option Item
  | .updateMachine _, machine => some (.machine machine)
  | .updateNode _, node => some (.node node)
  | .getMachineSet .., _ | .listMachineSets _, _ | .listMachines _, _ | .getNode _, _ => none

/-- An object as an update stores it: with the UID and the status of the one that it replaces, under
another version. -/
def Item.replacing (item stored : Item) (version : String) : Item :=
  match item, stored with
  | .machine given, .machine stored =>
      .machine ((given.replacing stored).withVersion (some version))
  | .node given, .node stored => .node ((given.replacing stored).withVersion (some version))
  | given, _ => given

namespace MemoryStore

/-- The store after a history. -/
def run (store : MemoryStore) (events : List Event) : MemoryStore := events.foldl apply store

/-- The call of an event, if it is one and goes through. -/
def success? (store : MemoryStore) : Event → Option Request
  | .call request => if (store.answer request).1.isOk then some request else none
  | _ => none

/-- A slot, if there is an object in it. -/
def occupied? (store : MemoryStore) (slot : Slot) : Option Slot :=
  (store.item? slot).map fun _ => slot

/-- The slot that an operation writes to or empties. -/
def touched? (store : MemoryStore) : Event → Option Slot
  | .addMachineSet machineSet => some (.machineSet (.ofMeta machineSet.metadata))
  | .addMachine machine => some (.machine machine.place)
  | .addNode node => some (.node (node.metadata.name.getD ""))
  | .removeMachineSet key => store.occupied? (.machineSet key)
  | .editMachineSet key _ => store.occupied? (.machineSet key)
  | .editNode name _ => store.occupied? (.node name)
  | .call request =>
      (store.success? (.call request)).bind fun request => request.update?.map (·.1)
  | .failNext _ | .clearUpdates | .pass .. => none

/-- The slots that the operations of a history write to or empty, in order. -/
def writes (store : MemoryStore) : List Event → List Slot
  | [] => []
  | event :: later => (store.touched? event).toList ++ (store.apply event).writes later

/-- The calls of a history that go through, in order. -/
def successes (store : MemoryStore) : List Event → List Request
  | [] => []
  | event :: later => (store.success? event).toList ++ (store.apply event).successes later

@[simp] theorem run_nil (store : MemoryStore) : store.run [] = store := rfl

@[simp] theorem run_cons (store : MemoryStore) (event : Event) (later : List Event) :
    store.run (event :: later) = (store.apply event).run later := rfl

@[simp] theorem run_append (store : MemoryStore) (earlier later : List Event) :
    store.run (earlier ++ later) = (store.run earlier).run later := List.foldl_append

theorem evolves_run (store : MemoryStore) (events : List Event) :
    Evolves store (store.run events) := by
  induction events generalizing store with
  | nil => exact .refl
  | cons event later ih => exact (evolves_apply store event).trans (ih _)

theorem stamped_run (events : List Event) : (empty.run events).Stamped :=
  (evolves_run empty events).stamped (stamped_of_reachable .empty)

/-! ## One operation -/

/-- What an operation does to the objects, given the slot that it touches: at most that one changes,
and what it has afterwards is new. -/
inductive Touched (store after : MemoryStore) : Option Slot → Prop where
  | nothing (items : ∀ slot, after.item? slot = store.item? slot) : Touched store after none
  | written {slot : Slot} {item : Item} (wrote : Wrote store after slot item) :
      Touched store after (some slot)
  | emptied {slot : Slot} (gone : after.item? slot = none)
      (others : ∀ other, other ≠ slot → after.item? other = store.item? other) :
      Touched store after (some slot)

section Operation

variable {store after : MemoryStore} {slot : Slot} {copy : Item} {touched : Option Slot}

theorem Touched.of_eq (machineSets : after.machineSets = store.machineSets)
    (machines : after.machines = store.machines) (nodes : after.nodes = store.nodes) :
    Touched store after none := by
  refine .nothing fun slot => ?_
  cases slot <;> simp [item?, machineSets, machines, nodes]

theorem Touched.item?_eq (touches : Touched store after touched) (elsewhere : touched ≠ some slot) :
    after.item? slot = store.item? slot := by
  cases touches with
  | nothing items => exact items slot
  | written wrote => exact wrote.others slot fun same => elsewhere (congrArg some same.symm)
  | emptied _ others => exact others slot fun same => elsewhere (congrArg some same.symm)

theorem Touched.item?_ne (touches : Touched store after (some slot))
    (known : store.Known slot copy) : after.item? slot ≠ some copy := by
  cases touches with
  | written wrote =>
      rw [wrote.stored]
      intro same
      cases same
      exact known.version_ne wrote.stamp
  | emptied gone => simp [gone]

/-- Removing a machine set touches its slot, if there is one. -/
theorem touched_removeMachineSet (store : MemoryStore) (key : ObjectKey) :
    Touched store (store.removeMachineSet key) (store.occupied? (.machineSet key)) := by
  have gone : (store.removeMachineSet key).item? (.machineSet key) = none := by
    simp [item?, removeMachineSet]
  have others : ∀ other, other ≠ .machineSet key →
      (store.removeMachineSet key).item? other = store.item? other := by
    intro other different
    cases other with
    | machineSet key' =>
        have elsewhere : key' ≠ key := fun same => different (congrArg Slot.machineSet same)
        simp [item?, removeMachineSet, SortedMap.get?_erase_of_ne _ elsewhere]
    | machine key' => rfl
    | node name => rfl
  rw [occupied?]
  cases there : store.item? (.machineSet key) with
  | some item => exact .emptied gone others
  | none =>
      refine .nothing fun slot => ?_
      by_cases here : slot = .machineSet key
      · rw [here, gone, there]
      · exact others slot here

/-- What comes of a call touches the slot of an update that goes through. -/
theorem touched_answer (store : MemoryStore) (request : Request) :
    Touched store (store.answer request).2 (store.touched? (.call request)) := by
  rw [touched?, success?, answer]
  split
  · exact .of_eq rfl rfl rfl
  · have served := store.served request
    generalize store.serve request = result at served ⊢
    cases served with
    | updateMachine => exact .written (.insertMachine rfl rfl rfl rfl rfl)
    | @updateNode name node stored named =>
        change Touched store _ ((Request.updateNode node).update?.map (·.1))
        rw [Request.update?_updateNode named]
        exact .written (.insertNode rfl rfl rfl rfl rfl)
    | _ => exact .of_eq rfl rfl rfl

/-- Every operation touches the one slot at most. -/
theorem touched_apply (store : MemoryStore) {event : Event} (operation : event.isOperation = true) :
    Touched store (store.apply event) (store.touched? event) := by
  cases event with
  | addMachineSet machineSet => exact .written (.insertMachineSet rfl rfl rfl rfl rfl)
  | addMachine machine => exact .written (.insertMachine rfl rfl rfl rfl rfl)
  | addNode node => exact .written (.insertNode rfl rfl rfl rfl rfl)
  | removeMachineSet key => exact store.touched_removeMachineSet key
  | editMachineSet key edit =>
      rw [apply, editMachineSet, touched?, occupied?, item?]
      cases store.machineSets.get? key with
      | none => exact .of_eq rfl rfl rfl
      | some machineSet => exact .written (.insertMachineSet rfl rfl rfl rfl rfl)
  | editNode name edit =>
      rw [apply, editNode, touched?, occupied?, item?]
      cases store.nodes.get? name with
      | none => exact .of_eq rfl rfl rfl
      | some node => exact .written (.insertNode rfl rfl rfl rfl rfl)
  | failNext ordered =>
      obtain ⟨pending, counted⟩ := store.failNext_eq ordered
      rw [apply, counted]
      exact .of_eq rfl rfl rfl
  | call request => exact store.touched_answer request
  | clearUpdates => cases operation
  | pass fates ns name => cases operation

/-- A call that goes through is recorded if it is an update. -/
theorem updates_answer (store : MemoryStore) (request : Request) :
    (store.answer request).2.updates =
      store.updates ++ (store.success? (.call request)).toList.filterMap Request.record? := by
  rw [success?, answer]
  split
  · simp [takeFailure, Except.isOk, Except.toBool]
  · have served := store.served request
    generalize store.serve request = result at served ⊢
    cases served with
    | updateMachine => rfl
    | updateNode named =>
        simp [Except.isOk, Except.toBool, Request.record?, named, putNode]
    | refused => simp [Except.isOk, Except.toBool]
    | _ => simp [Except.isOk, Except.toBool, Request.record?]

theorem updates_apply (store : MemoryStore) {event : Event} (operation : event.isOperation = true) :
    (store.apply event).updates =
      store.updates ++ (store.success? event).toList.filterMap Request.record? := by
  cases event with
  | call request => exact store.updates_answer request
  | editMachineSet key edit =>
      rw [apply, editMachineSet]
      split <;> simp [success?, bump]
  | editNode name edit =>
      rw [apply, editNode]
      split <;> simp [success?, bump]
  | failNext ordered =>
      obtain ⟨pending, counted⟩ := store.failNext_eq ordered
      rw [apply, counted]
      simp [success?]
  | clearUpdates => cases operation
  | pass fates ns name => cases operation
  | _ => simp [apply, success?, addMachineSet, addMachine, addNode, register, bump,
      removeMachineSet]

end Operation

/-! ## Any number of operations -/

section Run

variable {store : MemoryStore} {events : List Event} {slot : Slot} {copy : Item}

/-- What no operation touches stays. -/
theorem item?_run_of_unwritten (operations : ∀ event ∈ events, event.isOperation = true)
    (unwritten : slot ∉ store.writes events) :
    (store.run events).item? slot = store.item? slot := by
  induction events generalizing store with
  | nil => rfl
  | cons event later ih =>
      obtain ⟨operation, rest⟩ := List.forall_mem_cons.mp operations
      simp only [writes, List.mem_append, Option.mem_toList, not_or] at unwritten
      rw [run_cons, ih rest unwritten.2]
      exact (store.touched_apply operation).item?_eq unwritten.1

/-- A known copy is not in its slot any more once an operation has touched the slot. -/
theorem item?_run_of_written (operations : ∀ event ∈ events, event.isOperation = true)
    (known : store.Known slot copy) (written : slot ∈ store.writes events) :
    (store.run events).item? slot ≠ some copy := by
  induction events generalizing store with
  | nil => cases written
  | cons event later ih =>
      obtain ⟨operation, rest⟩ := List.forall_mem_cons.mp operations
      have known' := (store.evolves_apply event).known known
      rw [run_cons]
      rcases List.mem_append.mp written with now | afterwards
      · have touches := store.touched_apply operation
        rw [Option.mem_toList.mp now] at touches
        exact (evolves_run _ later).item_ne known' (touches.item?_ne known)
      · exact ih rest known' afterwards

/-- The record lists the updates that went through. -/
theorem updates_run (operations : ∀ event ∈ events, event.isOperation = true) :
    (store.run events).updates =
      store.updates ++ (store.successes events).filterMap Request.record? := by
  induction events generalizing store with
  | nil => simp [successes]
  | cons event later ih =>
      obtain ⟨operation, rest⟩ := List.forall_mem_cons.mp operations
      simp [successes, ih rest, store.updates_apply operation]

end Run

/-! ## Updates -/

section Updates

variable {store : MemoryStore} {request : Request} {slot : Slot} {item stored : Item}

/-- An update that carries the version of the stored object goes through. -/
theorem serve_update_of_current (updates : request.update? = some (slot, item))
    (there : store.item? slot = some stored) (current : item.version = stored.version) :
    ∃ answer, (store.serve request).1 = .ok answer := by
  cases request with
  | updateMachine machine =>
      cases updates
      obtain ⟨found, here, rfl⟩ := Option.map_eq_some_iff.mp there
      have place : store.machines.get? (ObjectKey.ofMeta machine.metadata) = some found := here
      have replaced :=
        store.replaceMeta_same_version (Request.updateMachine machine).subject current
      simp only [serve, replaceMachine, place, replaced]
      exact ⟨_, rfl⟩
  | updateNode node =>
      obtain ⟨name, named, same⟩ := Option.map_eq_some_iff.mp updates
      cases same
      obtain ⟨found, here, rfl⟩ := Option.map_eq_some_iff.mp there
      have replaced := store.replaceMeta_same_version (Request.updateNode node).subject current
      simp only [serve, replaceNode, named, here, replaced]
      exact ⟨_, rfl⟩
  | _ => cases updates

theorem answer_ok_iff :
    (∃ answer, (store.answer request).1 = .ok answer) ↔
      store.pendingFailures request.operation = 0 ∧
        ∃ answer, (store.serve request).1 = .ok answer := by
  rcases eq_or_ne (store.pendingFailures request.operation) 0 with none | some
  · simp [answer_of_unordered none, none]
  · simp [answer, UInt32.pos_iff_ne_zero.mpr some, some]

/-- An update that goes through stores the given object with the UID and the status of the stored
one under the next version, and gives back what it stored. -/
theorem wrote_of_answer {answer : request.Answer} {updated : Item}
    (succeeds : (store.answer request).1 = .ok answer)
    (updates : request.updated? answer = some updated) :
    ∃ slot item stored, request.update? = some (slot, item) ∧ store.item? slot = some stored ∧
      updated = item.replacing stored store.freshVersion ∧
      Wrote store (store.answer request).2 slot updated := by
  rw [MemoryStore.answer] at succeeds ⊢
  split at succeeds
  · cases succeeds
  · rename_i unplanned
    rw [if_neg unplanned]
    have served := store.served request
    generalize store.serve request = result at served succeeds ⊢
    cases served with
    | updateMachine found current =>
        cases succeeds
        cases updates
        exact ⟨_, _, .machine _, rfl, by simp [item?, found], rfl,
          .insertMachine rfl rfl rfl rfl rfl⟩
    | updateNode named found current =>
        cases succeeds
        cases updates
        exact ⟨_, _, .node _, Request.update?_updateNode named, by simp [item?, found], rfl,
          .insertNode rfl rfl rfl rfl rfl⟩
    | refused => cases succeeds
    | _ => cases updates

end Updates

/-! ## Versions over a history -/

/-- What holds of the versions after a history of the empty store. -/
structure VersionsAfter (events : List Event) : Prop where
  /-- Every object has a version that was given out. -/
  given : ∀ slot item, (empty.run events).item? slot = some item →
    ∃ number, number ≤ (empty.run events).version ∧ item.version = some (Text.decimal number)
  /-- No two objects share one. -/
  apart : ∀ slot slot' item item', (empty.run events).item? slot = some item →
    (empty.run events).item? slot' = some item' → item.version = item'.version → slot = slot'
  /-- An object with a version that an object once had is that very object, untouched. -/
  once : ∀ earlier later, events = earlier ++ later → ∀ slot slot' item item',
    (empty.run earlier).item? slot = some item → (empty.run events).item? slot' = some item' →
    item.version = item'.version →
    slot' = slot ∧ item' = item ∧ slot ∉ (empty.run earlier).writes later
  /-- An update that carries a version goes through exactly when the object exists, no failure is
  ordered, and nothing was written to the object since it had that version. -/
  update_iff : ∀ request slot item, request.update? = some (slot, item) →
    item.version.isSome = true →
    ((∃ answer, ((empty.run events).answer request).1 = .ok answer) ↔
      ((empty.run events).item? slot).isSome = true ∧
        (empty.run events).pendingFailures request.operation = 0 ∧
        ∃ earlier later, events = earlier ++ later ∧
          (∃ old, (empty.run earlier).item? slot = some old ∧ old.version = item.version) ∧
          slot ∉ (empty.run earlier).writes later)
  /-- An update that goes through stores and gives back the given object with the stored UID and
  status under the next version, which no object has had. -/
  update_ok : ∀ request answer updated, ((empty.run events).answer request).1 = .ok answer →
    request.updated? answer = some updated →
    (∃ slot item stored, request.update? = some (slot, item) ∧
      (empty.run events).item? slot = some stored ∧
      updated = item.replacing stored (empty.run events).freshVersion ∧
      Wrote (empty.run events) ((empty.run events).answer request).2 slot updated) ∧
    ∀ earlier later, events = earlier ++ later → ∀ slot old,
      (empty.run earlier).item? slot = some old → old.version ≠ updated.version
  /-- The record lists the updates that went through, in order. -/
  record : (empty.run events).updates = (empty.successes events).filterMap Request.record?

section History

variable {earlier later events : List Event} {slot slot' : Slot} {item item' : Item}

/-- A copy that was stored at some time is known from then on. -/
theorem known_run (split : events = earlier ++ later)
    (there : (empty.run earlier).item? slot = some item) : (empty.run events).Known slot item := by
  have known := stamped_run earlier slot item there
  rw [split, run_append]
  exact (evolves_run _ later).known known

/-- A copy that was stored at some time is stored still exactly if nothing was written to its slot
since. -/
theorem item?_run_iff (operations : ∀ event ∈ events, event.isOperation = true)
    (split : events = earlier ++ later) (there : (empty.run earlier).item? slot = some item) :
    (empty.run events).item? slot = some item ↔ slot ∉ (empty.run earlier).writes later := by
  subst split
  have rest := (List.forall_mem_append.mp operations).2
  rw [run_append]
  constructor
  · intro still written
    exact item?_run_of_written rest (stamped_run earlier slot item there) written still
  · intro unwritten
    rw [item?_run_of_unwritten rest unwritten, there]

/-- The versions over any history of single operations. -/
theorem versions_of_history (operations : ∀ event ∈ events, event.isOperation = true) :
    VersionsAfter events where
  given slot item there := (stamped_run events slot item there).given
  apart slot slot' item item' there there' same :=
    ((stamped_run events slot' item' there').only slot item there same).1
  once earlier later split slot slot' item item' there there' same := by
    have known := known_run split there
    obtain ⟨rfl, rfl⟩ := known.only slot' item' there' same.symm
    exact ⟨rfl, rfl, (item?_run_iff operations split there).mp there'⟩
  update_iff request slot item updates carried := by
    rw [answer_ok_iff]
    constructor
    · rintro ⟨unplanned, answer, succeeds⟩
      obtain ⟨stored, there, same⟩ := item_of_serve_update updates carried succeeds
      refine ⟨by simp [there], unplanned, events, [], by simp, ⟨stored, there, same⟩, ?_⟩
      simp [writes]
    · rintro ⟨-, unplanned, earlier, later, split, ⟨old, there, same⟩, unwritten⟩
      have still := (item?_run_iff operations split there).mpr unwritten
      exact ⟨unplanned, serve_update_of_current updates still same.symm⟩
  update_ok request answer updated succeeds updates := by
    have wrote := wrote_of_answer succeeds updates
    refine ⟨wrote, fun earlier later split slot old there => ?_⟩
    obtain ⟨_, _, _, -, -, -, written⟩ := wrote
    rw [written.stamp]
    exact (known_run split there).version_ne
  record := updates_run operations

end History

end MemoryStore

namespace SmallCluster

/-- Both updates carry the version that the machine was added with. The node is edited in between,
by a client that writes a version of its own. -/
def storeEvents : List Event :=
  [.addMachineSet machineSet, .addMachine machine, .addNode node,
    .call (.updateMachine (machine.withVersion (some "2"))),
    .editNode "node-0" fun node => node.withVersion (some "1"),
    .call (.updateMachine (machine.withVersion (some "2"))),
    .removeMachineSet ⟨"machines", "web"⟩, .addMachineSet machineSet, .failNext .getNode]

end SmallCluster

/-- The second update is stale, and the edited node has the fifth version. -/
theorem versions_of_history_smallCluster :
    (∀ event ∈ SmallCluster.storeEvents, event.isOperation = true) ∧
      ((MemoryStore.empty.run SmallCluster.storeEvents).nodes.get? "node-0").map
        (·.metadata.resourceVersion) = some (some "5") ∧
      (MemoryStore.empty.run SmallCluster.storeEvents).updates = [.machine "web-0"] ∧
      MemoryStore.VersionsAfter SmallCluster.storeEvents := by
  have operations : ∀ event ∈ SmallCluster.storeEvents, event.isOperation = true := by decide
  exact ⟨operations, by decide, by decide, MemoryStore.versions_of_history operations⟩

end NodeSync
