/-
Module: NodeSync.Proofs.Pass.Visit
Purpose: A pass on a store that is visited once while the pass is at work: the visitor, another
  pass for instance, does all of its work between two calls of the pass, or before the first one, or
  after the last one. Without a visit that changes anything it is an undisturbed pass.
Main exports: Visited, Visited.environment, Visited.ready_preserves, Encounter,
  MemoryStore.passAround, Visited.ensures_served, Visited.ensures_refused,
  Visited.ensures_synchronise, Listed, MemoryStore.passAround_of_ensures,
  MemoryStore.pass_eq_passAround
-/
import NodeSync.Proofs.Pass.Conduct

namespace NodeSync

set_option autoImplicit false

open Pass (Ensures)

/-! ## The environment -/

/-- A store that is visited once between the calls of a program. -/
structure Visited (β : Type) where
  store : MemoryStore
  /-- How many calls are made before the visit. -/
  calls : Nat
  /-- What the visit gave, once it has taken place. -/
  visit : Option β

namespace Visited

variable {β : Type}

/-- The visit takes place. -/
def meet (visitor : MemoryStore → β × MemoryStore) (state : Visited β) : Visited β :=
  { state with
    store := (visitor state.store).2
    visit := some (visitor state.store).1 }

/-- What a call finds: the visit takes place before it if it is due. -/
def ready (visitor : MemoryStore → β × MemoryStore) (state : Visited β) : Visited β :=
  match state.visit, state.calls with
  | some _, _ => state
  | none, 0 => state.meet visitor
  | none, calls + 1 => { state with calls := calls }

/-- What is left when the program has ended: the visit takes place now if it has not before. -/
def close (visitor : MemoryStore → β × MemoryStore) (state : Visited β) : β × MemoryStore :=
  match state.visit with
  | some visit => (visit, state.store)
  | none => visitor state.store

/-- The store answers all calls. -/
def environment (visitor : MemoryStore → β × MemoryStore) : Environment (Visited β) where
  cancelled _ := false
  answer request state :=
    (some ((state.ready visitor).store.answer request).1,
      { state.ready visitor with store := ((state.ready visitor).store.answer request).2 })
  report _ state := state

/-- What holds before a call and is kept up by the visit holds when the call is made. -/
theorem ready_preserves {visitor : MemoryStore → β × MemoryStore} {state : Visited β}
    (holds : MemoryStore → Option β → Prop) (start : holds state.store state.visit)
    (met : state.visit = none → holds (visitor state.store).2 (some (visitor state.store).1)) :
    holds (state.ready visitor).store (state.ready visitor).visit := by
  rcases state with ⟨store, calls, _ | visit⟩
  · cases calls with
    | zero => exact met rfl
    | succ calls => exact start
  · exact start

end Visited

/-- What comes of a pass and of the visit while it was at work. -/
structure Encounter (β : Type) where
  result : Except ControllerError Outcome
  visit : β
  store : MemoryStore

/-- A pass over the machine set at a place with a visit after the given number of its calls. If it
makes fewer, the visit takes place when it has ended. -/
def MemoryStore.passAround {β : Type} (store : MemoryStore)
    (visitor : MemoryStore → β × MemoryStore) (calls : Nat) (ns name : String) : Encounter β where
  result := (runPass (Visited.environment visitor) ns name ⟨store, calls, none⟩).1
  visit := ((runPass (Visited.environment visitor) ns name ⟨store, calls, none⟩).2.close visitor).1
  store := ((runPass (Visited.environment visitor) ns name ⟨store, calls, none⟩).2.close visitor).2

/-! ## Rules -/

namespace Visited

variable {β : Type} {visitor : MemoryStore → β × MemoryStore} {state : Visited β}

/-- A call that no ordered failure precedes is carried out. -/
theorem answer_of_calm (request : Request)
    (calm : ∀ operation, (state.ready visitor).store.pendingFailures operation = 0) :
    (environment visitor).answer request state =
      (some ((state.ready visitor).store.serve request).1,
        { state.ready visitor with store := ((state.ready visitor).store.serve request).2 }) := by
  have served : (state.ready visitor).store.answer request =
      (state.ready visitor).store.serve request := by
    rw [MemoryStore.answer, calm request.operation]
    rfl
  change (some ((state.ready visitor).store.answer request).1, _) = _
  rw [served]

/-- A call of a pass. -/
theorem ensures_call {request : Request} {blame : ControllerError → Option FailureReport}
    {post : request.Answer → Visited β → Prop}
    {stopped : ControllerError → Visited β → Prop}
    (calm : ∀ operation, (state.ready visitor).store.pendingFailures operation = 0)
    (answered : ∀ answer, ((state.ready visitor).store.serve request).1 = .ok answer →
      post answer
        { state.ready visitor with store := ((state.ready visitor).store.serve request).2 })
    (failed : ∀ error, ((state.ready visitor).store.serve request).1 = .error error →
      stopped (.store error)
        { state.ready visitor with store := ((state.ready visitor).store.serve request).2 }) :
    Ensures (environment visitor) (Pass.call request blame) state post stopped := by
  have replied := answer_of_calm request calm
  apply Ensures.call
  · exact fun cancelled => absurd cancelled Bool.false_ne_true
  · intro after silent
    rw [replied] at silent
    cases silent
  · intro answer after same
    rw [replied] at same
    obtain ⟨served, rfl⟩ := Prod.mk.inj same
    exact answered answer (Option.some.inj served)
  · intro error after same
    rw [replied] at same
    obtain ⟨served, rfl⟩ := Prod.mk.inj same
    exact failed error (Option.some.inj served)
  · exact fun _ _ _ ended => ended

section Calls

variable {blame : ControllerError → Option FailureReport}
  {stopped : ControllerError → Visited β → Prop}

/-- A call that the store refuses. -/
theorem ensures_refused {request : Request} {error : StoreError}
    {post : request.Answer → Visited β → Prop}
    (calm : ∀ operation, (state.ready visitor).store.pendingFailures operation = 0)
    (refused : (state.ready visitor).store.serve request =
      (.error error, (state.ready visitor).store))
    (ended : stopped (.store error) (state.ready visitor)) :
    Ensures (environment visitor) (Pass.call request blame) state post stopped := by
  apply ensures_call calm
  · intro answer same
    rw [refused] at same
    cases same
  · intro error' same
    rw [refused] at same ⊢
    cases same
    exact ended

/-- A call that the store serves. -/
theorem ensures_served {request : Request} {answer : request.Answer} {after : MemoryStore}
    {post : request.Answer → Visited β → Prop}
    (calm : ∀ operation, (state.ready visitor).store.pendingFailures operation = 0)
    (served : (state.ready visitor).store.serve request = (.ok answer, after))
    (reached : post answer { state.ready visitor with store := after }) :
    Ensures (environment visitor) (Pass.call request blame) state post stopped := by
  apply ensures_call calm
  · intro answer' same
    rw [served] at same ⊢
    cases same
    exact reached
  · intro error same
    rw [served] at same
    cases same

/-- Listing the machines of a namespace. -/
theorem ensures_listMachines {ns : String} {post : List Machine → Visited β → Prop}
    (calm : ∀ operation, (state.ready visitor).store.pendingFailures operation = 0)
    (listed : post (MemoryStore.inNamespace (state.ready visitor).store.machines ns)
      (state.ready visitor)) :
    Ensures (environment visitor) (Pass.call (.listMachines ns) blame) state post stopped :=
  ensures_served calm rfl listed

/-- Reading a node that is there. -/
theorem ensures_getNode {name : String} {node : Node} {post : Node → Visited β → Prop}
    (calm : ∀ operation, (state.ready visitor).store.pendingFailures operation = 0)
    (there : (state.ready visitor).store.nodes.get? name = some node)
    (read : post node (state.ready visitor)) :
    Ensures (environment visitor) (Pass.call (.getNode name) blame) state post stopped :=
  ensures_served calm (MemoryStore.serve_getNode there) read

/-- Updating a machine of which the stored copy is at hand. -/
theorem ensures_updateMachine {stored revised : Machine} {post : Machine → Visited β → Prop}
    (calm : ∀ operation, (state.ready visitor).store.pendingFailures operation = 0)
    (found : (state.ready visitor).store.machines.get? stored.place = some stored)
    (revises : stored.Revises revised)
    (updated : post (revised.withVersion (some (state.ready visitor).store.freshVersion))
      { state.ready visitor with
        store := (state.ready visitor).store.putMachine stored.place revised }) :
    Ensures (environment visitor) (Pass.call (.updateMachine revised) blame) state post
      stopped :=
  ensures_served calm (MemoryStore.serve_updateMachine found revises) updated

/-- Updating a node of which the stored copy is at hand. -/
theorem ensures_updateNode {name : String} {stored revised : Node} {post : Node → Visited β → Prop}
    (calm : ∀ operation, (state.ready visitor).store.pendingFailures operation = 0)
    (there : (state.ready visitor).store.nodes.get? name = some stored)
    (named : stored.metadata.name = some name) (revises : stored.Revises revised)
    (updated : post (revised.withVersion (some (state.ready visitor).store.freshVersion))
      { state.ready visitor with store := (state.ready visitor).store.putNode name revised }) :
    Ensures (environment visitor) (Pass.call (.updateNode revised) blame) state post stopped :=
  ensures_served calm (MemoryStore.serve_updateNode there named revises) updated

end Calls

/-- A machine set that is there, read and with its machines listed. -/
theorem ensures_synchronise {ns name : String} {machineSet : MachineSet}
    {post : Outcome → Visited β → Prop} {stopped : ControllerError → Visited β → Prop}
    (calm : ∀ operation, (state.ready visitor).store.pendingFailures operation = 0)
    (found : (state.ready visitor).store.machineSets.get? ⟨ns, name⟩ = some machineSet)
    (read : Ensures (environment visitor) (synchroniseSet machineSet ns name)
      (state.ready visitor) post stopped) :
    Ensures (environment visitor) (ExceptT.mk (synchronise ns name)) state post stopped := by
  have replied := answer_of_calm (.getMachineSet ns name) calm
  have served : (state.ready visitor).store.serve (.getMachineSet ns name) =
      (.ok machineSet, (state.ready visitor).store) := by
    rw [MemoryStore.serve, found]
    rfl
  rw [served] at replied
  apply Ensures.synchronise
  · exact fun cancelled => absurd cancelled Bool.false_ne_true
  · intro after silent
    rw [replied] at silent
    cases silent
  · intro what after same
    rw [replied] at same
    cases same
  · intro error after same
    rw [replied] at same
    cases same
  · intro machineSet' after same
    rw [replied] at same
    cases same
    exact read

/-- What holds after the program and is kept up by the visit holds at last. -/
theorem close_preserves (holds : MemoryStore → β → Prop)
    (visited : ∀ visit, state.visit = some visit → holds state.store visit)
    (met : state.visit = none → holds (visitor state.store).2 (visitor state.store).1) :
    holds (state.close visitor).2 (state.close visitor).1 := by
  rcases state with ⟨store, calls, _ | visit⟩
  · exact met rfl
  · exact visited visit rfl

end Visited

/-! ## Whole passes -/

/-- Machines of different places, all of whose pairs are among the given ones. -/
structure Listed (bound : List (ObjectKey × String)) (machines : List Machine) : Prop where
  places : (machines.map Machine.place).Nodup
  bound : ∀ binding ∈ bindings machines, binding ∈ bound

/-- The machines that a set selects, if the same pairs are bound as at the start. -/
theorem Listed.selected {start store : MemoryStore} {machineSet : MachineSet} {ns : String}
    (placed : store.Placed)
    (same : bindings (store.selected machineSet ns) = bindings (start.selected machineSet ns)) :
    Listed (bindings (start.selected machineSet ns)) (store.selected machineSet ns) where
  places := MemoryStore.selected_places_nodup placed.machines machineSet ns
  bound _ member := same ▸ member

theorem Listed.next {bound : List (ObjectKey × String)} {machine : Machine} {rest : List Machine}
    (listed : Listed bound (machine :: rest)) : Listed bound rest where
  places := (List.nodup_cons.mp listed.places).2
  bound binding member := listed.bound binding
    (((List.sublist_cons_self machine rest).filterMap Machine.binding?).subset member)

/-- The pair of the next machine, if it has a node, and its place among those of the others. -/
theorem Listed.pair {bound : List (ObjectKey × String)} {machine : Machine} {rest : List Machine}
    {nodeName : String} (listed : Listed bound (machine :: rest))
    (provisioned : machine.nodeName? = some nodeName) :
    (machine.place, nodeName) ∈ bound ∧ machine.place ∉ rest.map Machine.place :=
  ⟨listed.bound _ (mem_bindings_iff.mpr ⟨machine, List.mem_cons_self, provisioned, rfl⟩),
    (List.nodup_cons.mp listed.places).1⟩

namespace MemoryStore

/-- What a whole pass ensures holds of its result and of what it leaves. -/
theorem passAround_of_ensures {β : Type} {visitor : MemoryStore → β × MemoryStore}
    {store : MemoryStore} {calls : Nat} {ns name : String} {post : Outcome → Visited β → Prop}
    {stopped : ControllerError → Visited β → Prop}
    (ensured : Ensures (Visited.environment visitor) (ExceptT.mk (synchronise ns name))
      ⟨store, calls, none⟩ post stopped) :
    (∃ outcome state, post outcome state ∧ store.passAround visitor calls ns name =
      ⟨.ok outcome, (state.close visitor).1, (state.close visitor).2⟩) ∨
    ∃ cause state, stopped cause state ∧ store.passAround visitor calls ns name =
      ⟨.error cause, (state.close visitor).1, (state.close visitor).2⟩ := by
  rw [passAround]
  rcases runPass_of_ensures ensured with ⟨outcome, state, ran, holds⟩ | ⟨cause, state, ran, holds⟩
  · rw [ran]
    exact .inl ⟨outcome, state, holds, rfl⟩
  · rw [ran]
    exact .inr ⟨cause, state, holds, rfl⟩

/-- A store that is visited by nobody, and one whose calls nothing disturbs. -/
structure Unvisited (state : Visited Unit) (state' : Disturbed) : Prop where
  store : state.store = state'.store
  fates : state'.fates = []
  running : state'.cancelled = false

/-- Both answer alike. -/
theorem Unvisited.answer {state : Visited Unit} {state' : Disturbed} (same : Unvisited state state')
    (request : Request) :
    ((Visited.environment fun store => ((), store)).answer request state).1 =
        (Disturbed.environment.answer request state').1 ∧
      Unvisited ((Visited.environment fun store => ((), store)).answer request state).2
        (Disturbed.environment.answer request state').2 := by
  have ready : (state.ready fun store => ((), store)).store = state'.store :=
    Visited.ready_preserves (fun store _ => store = state'.store) same.store fun _ => same.store
  rcases state' with ⟨store, fates, cancelled, reports⟩
  obtain ⟨-, rfl, rfl⟩ := same
  refine ⟨?_, ?_, rfl, rfl⟩
  · exact congrArg (fun store => some (store.answer request).1) ready
  · exact congrArg (fun store => (store.answer request).2) ready

/-- Without a visit that changes anything a pass is an undisturbed one. -/
theorem pass_eq_passAround (store : MemoryStore) (ns name : String) :
    store.pass ns name =
      ((store.passAround (fun store => ((), store)) 0 ns name).result,
        (store.passAround (fun store => ((), store)) 0 ns name).store) := by
  have start : Unvisited ⟨store, 0, none⟩ ⟨store, [], false, []⟩ := ⟨rfl, rfl, rfl⟩
  obtain ⟨results, left⟩ := runPass_simulates (fun _ _ same => same.running.symm)
    (fun request _ _ same => same.answer request)
    (fun _ _ _ same => ⟨same.store, same.fates, same.running⟩) ns name start
  have closed : ∀ state : Visited Unit,
      (state.close fun store => ((), store)).2 = state.store := by
    intro state
    cases visit : state.visit <;> simp [Visited.close, visit]
  rw [passAround, closed, results, left.store]
  rfl

end MemoryStore

end NodeSync
