/-
Module: NodeSync.Proofs.Pass.Replicas
Purpose: Two passes over one machine set, one of which does all of its work between two calls of the
  other. Before the visit the pass takes its pairs along their courses, wherever that leaves them
  for the visitor. After it every pair is settled: copies from before are outdated, but they expect
  the labels that are there now, so that the pass has nothing to write, or its update is a conflict.
Main exports: Underway, Arrived, Queued, Outdated, Phase, Underway.visit,
  keepsMachineWrites_replica, keepsNodeWrites_replica, passAround_replica, replica_passes_agree
-/
import NodeSync.Proofs.Pass.ForeignLabels
import NodeSync.Proofs.Pass.Recovery
import NodeSync.Proofs.Pass.Repetition
import NodeSync.Proofs.Pass.Visit
import NodeSync.Proofs.Store.Stamps

namespace NodeSync

set_option autoImplicit false

open Pass (Ensures)

/-! ## Before and after the visit -/

/-- A machine set that is there and in order, with machines whose nodes exist and differ. -/
structure Orderly (machineSet : MachineSet) (ns name : String) (store : MemoryStore) : Prop where
  placed : store.Placed
  found : store.machineSets.get? ⟨ns, name⟩ = some machineSet
  valid : machineSet.Valid
  filled : ∀ key, machineSet.templateNodeLabels.contains key = true → key ≠ ""
  distinct : ((store.selected machineSet ns).filterMap Machine.nodeName?).Nodup
  present : ∀ nodeName ∈ (store.selected machineSet ns).filterMap Machine.nodeName?,
    store.nodes.contains nodeName = true

section Stores

variable (machineSet : MachineSet) (ns : String) (start store : MemoryStore)

/-- A pass has taken the pairs some way along their courses. -/
structure Underway : Prop where
  reachable : store.Reachable
  calm : ∀ operation, store.pendingFailures operation = 0
  moved : Moved (SameCourse machineSet) (bindings (start.selected machineSet ns)) start store

/-- A pass has gone through: every pair is settled. -/
structure Arrived : Prop where
  reachable : store.Reachable
  calm : ∀ operation, store.pendingFailures operation = 0
  completed : Completed machineSet (bindings (start.selected machineSet ns)) start store

/-- The stored machine and its node are in step, and copies expect the labels that are there. -/
def Expects (machine : Machine) (node : Node) (key : ObjectKey) (nodeName : String) : Prop :=
  ∃ machine' node', store.machines.get? key = some machine' ∧
    store.nodes.get? nodeName = some node' ∧ InStep machineSet machine' node' ∧
    expectedLabels machineSet machine node = machine'.nodeLabels

/-- Machines that are still to come, as they are stored. -/
structure Queued (machines : List Machine) : Prop extends Underway machineSet ns start store where
  stored : ∀ machine ∈ machines, store.machines.get? machine.place = some machine

/-- Machines that are still to come, some of which were changed since they were listed. -/
structure Outdated (machines : List Machine) : Prop extends Arrived machineSet ns start store where
  known : ∀ machine ∈ machines, store.Known (.machine machine.place) (.machine machine)
  expects : ∀ machine ∈ machines, ∀ nodeName, machine.nodeName? = some nodeName →
    ∀ node, store.nodes.get? nodeName = some node →
      Expects machineSet store machine node machine.place nodeName

/-- The copies of a machine and its node at hand, as they are stored. -/
structure Fresh (rest : List Machine) (key : ObjectKey) (nodeName : String) (machine : Machine)
    (node : Node) : Prop extends Queued machineSet ns start store rest where
  place : machine.place = key
  named : node.metadata.name = some nodeName
  machineAt : store.machines.get? key = some machine
  nodeAt : store.nodes.get? nodeName = some node

/-- The copies of a machine and its node at hand, either of which may have been changed since it was
read. -/
structure Stale (rest : List Machine) (key : ObjectKey) (nodeName : String) (machine : Machine)
    (node : Node) : Prop extends Outdated machineSet ns start store rest where
  place : machine.place = key
  named : node.metadata.name = some nodeName
  machineKnown : store.Known (.machine key) (.machine machine)
  nodeKnown : store.Known (.node nodeName) (.node node)
  expectsPair : Expects machineSet store machine node key nodeName

end Stores

/-- One condition until the visit and another one after it, which went through. -/
def Phase (outcome : Outcome) (before after : MemoryStore → Prop) (store : MemoryStore)
    (visit : Option (Except ControllerError Outcome)) : Prop :=
  visit = none ∧ before store ∨ visit = some (.ok outcome) ∧ after store

section Replica

variable {machineSet : MachineSet} {ns name : String} {start store : MemoryStore}

theorem MemoryStore.Reachable.serve (reachable : store.Reachable)
    (calm : ∀ operation, store.pendingFailures operation = 0) (request : Request) :
    (store.serve request).2.Reachable := by
  have answered : store.apply (.call request) = (store.serve request).2 := by
    rw [MemoryStore.apply, MemoryStore.answer, calm request.operation]
    rfl
  exact answered ▸ MemoryStore.Reachable.apply (.call request) reachable

/-- The places of the pairs of a set differ. -/
theorem Orderly.places (orderly : Orderly machineSet ns name start) :
    ((bindings (start.selected machineSet ns)).map (·.1)).Nodup :=
  (bindings_places_sublist _).nodup
    (MemoryStore.selected_places_nodup orderly.placed.machines machineSet ns)

/-- So do the names of their nodes. -/
theorem Orderly.names (orderly : Orderly machineSet ns name start) :
    ((bindings (start.selected machineSet ns)).map (·.2)).Nodup := by
  rw [bindings_names]
  exact orderly.distinct

/-- The outcome of a pass that goes through. -/
def replicaOutcome (machineSet : MachineSet) (ns : String) (start : MemoryStore) : Outcome :=
  passOutcome (templateWarnings machineSet (start.selected machineSet ns))

namespace Underway

theorem placed (underway : Underway machineSet ns start store)
    (orderly : Orderly machineSet ns name start) : store.Placed :=
  underway.moved.placed orderly.placed

/-- A machine set is in order as long as its pairs are on their courses. -/
theorem orderly (underway : Underway machineSet ns start store)
    (orderly : Orderly machineSet ns name start) : Orderly machineSet ns name store where
  placed := underway.placed orderly
  found := by rw [underway.moved.machineSets, orderly.found]
  valid := orderly.valid
  filled := orderly.filled
  distinct := by
    rw [← bindings_names, underway.moved.bindings_selected, bindings_names]
    exact orderly.distinct
  present nodeName listed := by
    rw [← bindings_names, underway.moved.bindings_selected, bindings_names] at listed
    rw [underway.moved.contains_node]
    exact orderly.present nodeName listed

/-- A call that takes one pair further. -/
theorem serve (underway : Underway machineSet ns start store) {request : Request}
    (moved : Moved (SameCourse machineSet) (bindings (start.selected machineSet ns)) store
      (store.serve request).2) : Underway machineSet ns start (store.serve request).2 where
  reachable := underway.reachable.serve underway.calm request
  calm operation := by
    rw [MemoryStore.serve_pendingFailures]
    exact underway.calm operation
  moved := underway.moved.trans moved fun _ _ _ _ _ _ => SameCourse.trans

/-- The visit: a whole pass that nothing disturbs goes through. -/
theorem visit (underway : Underway machineSet ns start store)
    (orderly : Orderly machineSet ns name start) :
    ∃ after, store.pass ns name = (.ok (replicaOutcome machineSet ns start), after) ∧
      Arrived machineSet ns start after ∧
      Completed machineSet (bindings (start.selected machineSet ns)) store after := by
  have now := underway.orderly orderly
  obtain ⟨outcome, after, passed⟩ := pass_of_present now.placed now.found now.valid now.distinct
    now.present underway.calm
  obtain ⟨rfl, -, completed⟩ :=
    completed_of_pass now.placed now.found now.distinct underway.calm passed
  have left : (store.pass ns name).2 = after := congrArg (·.2) passed
  have reachable : after.Reachable := left ▸ .apply (.pass [] ns name) underway.reachable
  have calm := MemoryStore.calm_pass underway.calm ns name
  rw [underway.moved.bindings_selected] at completed
  rw [templateWarnings_congr machineSet (underway.moved.selected_unmanaged machineSet ns)] at passed
  rw [left] at calm
  exact ⟨after, passed, ⟨reachable, calm, Completed.of_moved underway.moved completed⟩, completed⟩

end Underway

section Next

variable {machine : Machine} {rest : List Machine}

theorem Queued.next (queued : Queued machineSet ns start store (machine :: rest)) :
    Queued machineSet ns start store rest where
  toUnderway := queued.toUnderway
  stored other member := queued.stored other (List.mem_cons_of_mem _ member)

theorem Outdated.next (outdated : Outdated machineSet ns start store (machine :: rest)) :
    Outdated machineSet ns start store rest where
  toArrived := outdated.toArrived
  known other member := outdated.known other (List.mem_cons_of_mem _ member)
  expects other member := outdated.expects other (List.mem_cons_of_mem _ member)

end Next

/-! ## The visit -/

/-- What the visit makes of a pair: the copies from before expect the labels that are there now,
also if the node is read again. -/
theorem Completed.expects {key : ObjectKey} {nodeName : String} {machine : Machine} {node : Node}
    {bound : List (ObjectKey × String)} {after : MemoryStore}
    (completed : Completed machineSet bound store after)
    (filled : ∀ key, machineSet.templateNodeLabels.contains key = true → key ≠ "")
    (pair : (key, nodeName) ∈ bound) (machineAt : store.machines.get? key = some machine)
    (nodeAt : store.nodes.get? nodeName = some node) :
    Expects machineSet after machine node key nodeName ∧
      ∀ node', after.nodes.get? nodeName = some node' →
        Expects machineSet after machine node' key nodeName := by
  obtain ⟨machine', node', found', there', settled⟩ :=
    completed.moved.pairs key nodeName pair machine node machineAt nodeAt
  have inStep : InStep machineSet machine' node' :=
    (inStep_settled filled).of_content settled.ofMachine settled.ofNode
  have labels : machine'.nodeLabels = expectedLabels machineSet machine node :=
    congrArg Machine.nodeLabels settled.ofMachine
  refine ⟨⟨machine', node', found', there', inStep, labels.symm⟩, fun read there => ?_⟩
  rw [there'] at there
  cases there
  refine ⟨machine', node', found', there', inStep, ?_⟩
  calc expectedLabels machineSet machine node'
      = expectedLabels machineSet machine node'.content := rfl
    _ = expectedLabels machineSet machine (settledNode machineSet machine node) := by
        rw [settled.ofNode]
        rfl
    _ = machine'.nodeLabels := by rw [expectedLabels_settledNode filled, labels]

/-- The visit, with machines still to come. -/
theorem Queued.visit {machines : List Machine} (queued : Queued machineSet ns start store machines)
    (orderly : Orderly machineSet ns name start)
    (listed : Listed (bindings (start.selected machineSet ns)) machines) :
    ∃ after, store.pass ns name = (.ok (replicaOutcome machineSet ns start), after) ∧
      Outdated machineSet ns start after machines := by
  obtain ⟨after, passed, arrived, completed⟩ := queued.toUnderway.visit orderly
  have evolves : MemoryStore.Evolves store (store.pass ns name).2 :=
    MemoryStore.evolves_passUnder store [] ns name
  rw [passed] at evolves
  refine ⟨after, passed, arrived, fun machine member => ?_, ?_⟩
  · exact evolves.known (queued.reachable.known_machine (queued.stored machine member))
  · intro machine member nodeName provisioned node' there'
    have pair := listed.bound _ (mem_bindings_iff.mpr ⟨machine, member, provisioned, rfl⟩)
    obtain ⟨node, there⟩ := SortedMap.contains_iff_exists.mp
      (completed.present nodeName (List.mem_map_of_mem (f := (·.2)) pair))
    have stored := queued.stored machine member
    exact (completed.expects orderly.filled pair stored there).2 node' there'

/-- The visit, with copies at hand. -/
theorem Fresh.visit {rest : List Machine} {key : ObjectKey} {nodeName : String} {machine : Machine}
    {node : Node} (fresh : Fresh machineSet ns start store rest key nodeName machine node)
    (orderly : Orderly machineSet ns name start)
    (listed : Listed (bindings (start.selected machineSet ns)) rest)
    (pair : (key, nodeName) ∈ bindings (start.selected machineSet ns)) :
    ∃ after, store.pass ns name = (.ok (replicaOutcome machineSet ns start), after) ∧
      Stale machineSet ns start after rest key nodeName machine node := by
  obtain ⟨after, passed, -, completed⟩ := fresh.toUnderway.visit orderly
  obtain ⟨after', passed', outdated⟩ := fresh.toQueued.visit orderly listed
  rw [passed] at passed'
  cases passed'
  have evolves : MemoryStore.Evolves store (store.pass ns name).2 :=
    MemoryStore.evolves_passUnder store [] ns name
  rw [passed] at evolves
  refine ⟨after, passed, outdated, fresh.place, fresh.named, ?_, ?_, ?_⟩
  · exact evolves.known (fresh.reachable.known_machine fresh.machineAt)
  · exact evolves.known (fresh.reachable.known_node fresh.nodeAt)
  · exact (completed.expects orderly.filled pair fresh.machineAt fresh.nodeAt).1

theorem Phase.mono {outcome : Outcome} {before before' after after' : MemoryStore → Prop}
    {visit : Option (Except ControllerError Outcome)}
    (phase : Phase outcome before after store visit)
    (first : before store → before' store) (last : after store → after' store) :
    Phase outcome before' after' store visit :=
  phase.imp (And.imp_right first) (And.imp_right last)

/-- The visit takes place between two calls. -/
theorem Phase.ready {outcome : Outcome} {before after : MemoryStore → Prop}
    {state : Visited (Except ControllerError Outcome)}
    (phase : Phase outcome before after state.store state.visit)
    (visit : ∀ store, before store →
      ∃ left, store.pass ns name = (.ok outcome, left) ∧ after left) :
    Phase outcome before after (state.ready (·.pass ns name)).store
      (state.ready (·.pass ns name)).visit := by
  apply Visited.ready_preserves (Phase outcome before after) phase
  intro pending
  rcases phase with ⟨-, holds⟩ | ⟨visited, -⟩
  · obtain ⟨left, passed, done⟩ := visit state.store holds
    rw [passed]
    exact .inr ⟨rfl, done⟩
  · rw [pending] at visited
    cases visited

/-! ## Writes of the pass -/

section Writes

variable {rest : List Machine} {key : ObjectKey} {nodeName : String}
  {machine revisedMachine : Machine} {node revisedNode : Node}

/-- A copy that is stored is updated. -/
theorem Fresh.putMachine (fresh : Fresh machineSet ns start store rest key nodeName machine node)
    (orderly : Orderly machineSet ns name start)
    (pair : (key, nodeName) ∈ bindings (start.selected machineSet ns))
    (new : key ∉ rest.map Machine.place)
    (write : MachineWrite machineSet machine node revisedMachine) :
    Fresh machineSet ns start (store.putMachine key revisedMachine) rest key nodeName
      (revisedMachine.withVersion (some store.freshVersion)) node := by
  obtain rfl := fresh.place
  have reached := (Reached.refl fresh.machineAt fresh.nodeAt).putMachine write.unmanaged
  have course : SameCourse machineSet machine node
      (revisedMachine.withVersion (some store.freshVersion)) node :=
    write.sameCourse.trans (SameCourse.of_content rfl rfl)
  have moved := (reached.moved fresh.machineAt fresh.nodeAt course).widen pair orderly.places
    orderly.names fun _ _ => SameCourse.refl
  have served := MemoryStore.serve_updateMachine fresh.machineAt write.revises
  have left : (store.serve (.updateMachine revisedMachine)).2 =
      store.putMachine machine.place revisedMachine := by rw [served]
  rw [← left] at moved
  have place : revisedMachine.place = machine.place := write.revises.place
  refine ⟨⟨left ▸ fresh.toUnderway.serve moved, fun other member => ?_⟩, place, fresh.named,
    reached.machineAt, reached.nodeAt⟩
  · have elsewhere : other.place ≠ machine.place := fun same =>
      new (same ▸ List.mem_map_of_mem member)
    rw [reached.otherMachines other.place elsewhere, fresh.stored other member]

/-- So is one of a node. -/
theorem Fresh.putNode (fresh : Fresh machineSet ns start store rest key nodeName machine node)
    (orderly : Orderly machineSet ns name start)
    (pair : (key, nodeName) ∈ bindings (start.selected machineSet ns))
    (write : NodeWrite machineSet machine node revisedNode) :
    Fresh machineSet ns start (store.putNode nodeName revisedNode) rest key nodeName machine
      (revisedNode.withVersion (some store.freshVersion)) := by
  have reached := (Reached.refl fresh.machineAt fresh.nodeAt).putNode write.revises.name
  have course : SameCourse machineSet machine node machine
      (revisedNode.withVersion (some store.freshVersion)) :=
    write.sameCourse.trans (SameCourse.of_content rfl rfl)
  have moved := (reached.moved fresh.machineAt fresh.nodeAt course).widen pair orderly.places
    orderly.names fun _ _ => SameCourse.refl
  have served := MemoryStore.serve_updateNode fresh.nodeAt fresh.named write.revises
  have left : (store.serve (.updateNode revisedNode)).2 = store.putNode nodeName revisedNode := by
    rw [served]
  rw [← left] at moved
  refine ⟨⟨left ▸ fresh.toUnderway.serve moved, fresh.stored⟩, fresh.place, ?_, reached.machineAt,
    reached.nodeAt⟩
  exact write.revises.name.trans fresh.named

/-- An update of an outdated machine is a conflict; one of a machine that the visit has left alone
would change nothing, and is not made. -/
theorem Stale.machine_conflict
    (stale : Stale machineSet ns start store rest key nodeName machine node)
    (write : MachineWrite machineSet machine node revisedMachine) :
    ∃ what, store.serve (.updateMachine revisedMachine) = (.error (.conflict what), store) := by
  obtain ⟨machine', node', found, -, inStep, expected⟩ := stale.expectsPair
  have place : revisedMachine.place = key := write.revises.place.trans stale.place
  have updates : (Request.updateMachine revisedMachine).update? =
      some (.machine key, .machine revisedMachine) := by rw [← place]; rfl
  apply stale.machineKnown.serve_conflict updates
  · exact write.revises.version
  · simp [MemoryStore.item?, found]
  · intro _ stored
    have same : machine' = machine := by simpa [MemoryStore.item?, found] using stored
    subst same
    cases write with
    | labels differ => exact differ expected.symm
    | taints _ differ => exact differ inStep.machineTaints

/-- So is an update of an outdated node. -/
theorem Stale.node_conflict
    (stale : Stale machineSet ns start store rest key nodeName machine node)
    (write : NodeWrite machineSet machine node revisedNode) :
    ∃ what, store.serve (.updateNode revisedNode) = (.error (.conflict what), store) := by
  obtain ⟨machine', node', -, there, inStep, expected⟩ := stale.expectsPair
  have updates : (Request.updateNode revisedNode).update? =
      some (.node nodeName, .node revisedNode) := by
    simp [Request.update?, write.revises.name, stale.named]
  apply stale.nodeKnown.serve_conflict updates
  · exact write.revises.version
  · simp [MemoryStore.item?, there]
  · intro _ stored
    have same : node' = node := by simpa [MemoryStore.item?, there] using stored
    subst same
    cases write with
    | labels _ _ differ =>
        rw [expected, inStep.machineLabels] at differ
        exact differ inStep.nodeLabels
    | taints _ _ differ =>
        rw [inStep.nodeTaints] at differ
        cases differ

end Writes

/-! ## The pass around the visit -/

/-- The environment of the pass: another pass over the same set visits the store. -/
abbrev replicaEnvironment (ns name : String) :
    Environment (Visited (Except ControllerError Outcome)) :=
  Visited.environment (·.pass ns name)

/-- The pass was stopped by a conflict, after the visit. -/
def Conflicted (machineSet : MachineSet) (ns : String) (start : MemoryStore)
    (cause : ControllerError) (state : Visited (Except ControllerError Outcome)) : Prop :=
  (∃ what, cause = (.store (.conflict what))) ∧
    state.visit = some (.ok (replicaOutcome machineSet ns start)) ∧
    Arrived machineSet ns start state.store

/-- No machines are at hand, before or after the visit. -/
def AtSet (machineSet : MachineSet) (ns : String) (start : MemoryStore)
    (state : Visited (Except ControllerError Outcome)) : Prop :=
  Phase (replicaOutcome machineSet ns start) (Underway machineSet ns start)
    (Arrived machineSet ns start) state.store state.visit

/-- The copies of a machine and its node at hand, before or after the visit. -/
def AtPair (machineSet : MachineSet) (ns : String) (start : MemoryStore) (rest : List Machine)
    (key : ObjectKey) (nodeName : String) (machine : Machine) (node : Node)
    (state : Visited (Except ControllerError Outcome)) : Prop :=
  Phase (replicaOutcome machineSet ns start)
    (fun store => Fresh machineSet ns start store rest key nodeName machine node)
    (fun store => Stale machineSet ns start store rest key nodeName machine node)
    state.store state.visit

/-- The machines that are still to come, before or after the visit. -/
def AtMachines (machineSet : MachineSet) (ns : String) (start : MemoryStore)
    (machines : List Machine) (state : Visited (Except ControllerError Outcome)) : Prop :=
  Phase (replicaOutcome machineSet ns start)
    (fun store => Queued machineSet ns start store machines)
    (fun store => Outdated machineSet ns start store machines) state.store state.visit

section Pass

variable {rest machines : List Machine} {key : ObjectKey} {nodeName : String}
  {state : Visited (Except ControllerError Outcome)}

/-- Updating the machine at hand. -/
theorem keepsMachineWrites_replica (orderly : Orderly machineSet ns name start)
    (listed : Listed (bindings (start.selected machineSet ns)) rest)
    (pair : (key, nodeName) ∈ bindings (start.selected machineSet ns))
    (new : key ∉ rest.map Machine.place) :
    Ensures.KeepsMachineWrites (replicaEnvironment ns name) machineSet
      (AtPair machineSet ns start rest key nodeName) (Conflicted machineSet ns start) := by
  intro machine node revised state blame atPair write
  rcases atPair.ready fun _ fresh => fresh.visit orderly listed pair with
    ⟨pending, fresh⟩ | ⟨visited, stale⟩
  · have updated := fresh.putMachine orderly pair new write
    obtain rfl := fresh.place
    exact Visited.ensures_updateMachine fresh.calm fresh.machineAt write.revises
      ⟨_, rfl, .inl ⟨pending, updated⟩⟩
  · obtain ⟨what, refused⟩ := stale.machine_conflict write
    exact Visited.ensures_refused stale.calm refused ⟨⟨what, rfl⟩, visited, stale.toArrived⟩

/-- Updating the node at hand. -/
theorem keepsNodeWrites_replica (orderly : Orderly machineSet ns name start)
    (listed : Listed (bindings (start.selected machineSet ns)) rest)
    (pair : (key, nodeName) ∈ bindings (start.selected machineSet ns)) :
    Ensures.KeepsNodeWrites (replicaEnvironment ns name) machineSet
      (AtPair machineSet ns start rest key nodeName) (Conflicted machineSet ns start) := by
  intro machine node revised state blame atPair write
  rcases atPair.ready fun _ fresh => fresh.visit orderly listed pair with
    ⟨pending, fresh⟩ | ⟨visited, stale⟩
  · exact Visited.ensures_updateNode fresh.calm fresh.nodeAt fresh.named write.revises
      ⟨_, rfl, .inl ⟨pending, fresh.putNode orderly pair write⟩⟩
  · obtain ⟨what, refused⟩ := stale.node_conflict write
    exact Visited.ensures_refused stale.calm refused ⟨⟨what, rfl⟩, visited, stale.toArrived⟩

/-- Reading the node of the next machine. -/
theorem getNode_replica {machine : Machine} (orderly : Orderly machineSet ns name start)
    (listed : Listed (bindings (start.selected machineSet ns)) (machine :: rest))
    (provisioned : machine.nodeName? = some nodeName)
    (atMachines : AtMachines machineSet ns start (machine :: rest) state)
    (blame : ControllerError → Option FailureReport) :
    Ensures (replicaEnvironment ns name) (Pass.call (.getNode nodeName) blame) state
      (AtPair machineSet ns start rest machine.place nodeName machine)
      (Conflicted machineSet ns start) := by
  have pair := (listed.pair provisioned).1
  have filled := Machine.nodeName?_ne_empty provisioned
  rcases atMachines.ready fun _ queued => queued.visit orderly listed with
    ⟨pending, queued⟩ | ⟨visited, outdated⟩
  · obtain ⟨node, there⟩ := SortedMap.contains_iff_exists.mp
      ((queued.toUnderway.orderly orderly).present nodeName (by
        rw [← bindings_names, queued.moved.bindings_selected]
        exact List.mem_map_of_mem (f := (·.2)) pair))
    have named := (queued.toUnderway.placed orderly).nodeName there filled
    exact Visited.ensures_getNode queued.calm there
      (.inl ⟨pending, queued.next, rfl, named, queued.stored machine List.mem_cons_self, there⟩)
  · have present := outdated.completed.present nodeName (List.mem_map_of_mem (f := (·.2)) pair)
    rw [← outdated.completed.moved.contains_node] at present
    obtain ⟨node, there⟩ := SortedMap.contains_iff_exists.mp present
    have named := (outdated.completed.moved.placed orderly.placed).nodeName there filled
    have known := outdated.reachable.known_node there
    exact Visited.ensures_getNode outdated.calm there
      (.inr ⟨visited, outdated.next, rfl, named, outdated.known machine List.mem_cons_self, known,
        outdated.expects machine List.mem_cons_self nodeName provisioned node there⟩)

/-- All machines that are still to come. -/
theorem synchroniseMachines_replica (orderly : Orderly machineSet ns name start)
    (listed : Listed (bindings (start.selected machineSet ns)) machines)
    (atMachines : AtMachines machineSet ns start machines state) :
    Ensures (replicaEnvironment ns name) (synchroniseMachines machineSet machines) state
      (fun warnings after => warnings = templateWarnings machineSet machines ∧
        AtMachines machineSet ns start [] after) (Conflicted machineSet ns start) := by
  apply (Ensures.synchroniseMachines (fun machines state =>
    Listed (bindings (start.selected machineSet ns)) machines ∧
      AtMachines machineSet ns start machines state)
    ⟨listed, atMachines⟩ ?_ ?_).imp
  · exact fun _ _ reached => ⟨reached.1, reached.2.2⟩
  · exact fun _ _ ended => ended
  · intro machine rest state _ reached
    exact ⟨reached.1.next, reached.2.mono Queued.next Outdated.next⟩
  · intro machine nodeName rest state provisioned reached
    obtain ⟨listed, atMachines⟩ := reached
    obtain ⟨pair, new⟩ := listed.pair provisioned
    apply (Ensures.synchroniseMachine provisioned
      (getNode_replica orderly listed provisioned atMachines)
      (keepsMachineWrites_replica orderly listed.next pair new)
      (keepsNodeWrites_replica orderly listed.next pair)).imp
    · intro warning after reached
      obtain ⟨rfl, _, _, atPair, -⟩ := reached
      exact ⟨rfl, listed.next, atPair.mono Fresh.toQueued Stale.toOutdated⟩
    · exact fun _ _ ended => ended

namespace AtSet

/-- The visit takes place between two calls. -/
theorem ready (atSet : AtSet machineSet ns start state)
    (orderly : Orderly machineSet ns name start) :
    AtSet machineSet ns start (state.ready (·.pass ns name)) := by
  apply Phase.ready atSet
  intro store underway
  obtain ⟨after, passed, arrived, -⟩ := underway.visit orderly
  exact ⟨after, passed, arrived⟩

theorem calm (atSet : AtSet machineSet ns start state) (operation : Operation) :
    state.store.pendingFailures operation = 0 := by
  rcases atSet with ⟨-, underway⟩ | ⟨-, arrived⟩
  · exact underway.calm operation
  · exact arrived.calm operation

/-- No pair has left its course. -/
theorem course (atSet : AtSet machineSet ns start state) :
    Moved (SameCourse machineSet) (bindings (start.selected machineSet ns)) start state.store := by
  rcases atSet with ⟨-, underway⟩ | ⟨-, arrived⟩
  · exact underway.moved
  · exact arrived.completed.moved.mono fun _ _ _ _ => Settled.sameCourse

/-- The machines of the set are listed as they are stored. -/
theorem list (atSet : AtSet machineSet ns start state)
    (orderly : Orderly machineSet ns name start) :
    Listed (bindings (start.selected machineSet ns)) (state.store.selected machineSet ns) ∧
      AtMachines machineSet ns start (state.store.selected machineSet ns) state := by
  have placed := atSet.course.placed orderly.placed
  have stored : ∀ machine ∈ state.store.selected machineSet ns,
      state.store.machines.get? machine.place = some machine :=
    fun _ => MemoryStore.get?_of_mem_selected placed.machines
  refine ⟨.selected placed (atSet.course.bindings_selected machineSet ns), ?_⟩
  · apply atSet.mono
    · exact fun underway => ⟨underway, stored⟩
    · intro arrived
      refine ⟨arrived, fun machine member => ?_, ?_⟩
      · exact arrived.reachable.known_machine (stored machine member)
      · intro machine member nodeName provisioned node there
        obtain ⟨node', there', inStep⟩ := inStep_of_completed orderly.placed arrived.completed
          orderly.filled machine member nodeName provisioned
        rw [there] at there'
        cases there'
        exact ⟨machine, node, stored machine member, there, inStep, inStep.machineLabels.symm⟩

end AtSet

/-- A pass that has read the set. -/
theorem synchroniseSet_replica (orderly : Orderly machineSet ns name start)
    (atSet : AtSet machineSet ns start state) :
    Ensures (replicaEnvironment ns name) (synchroniseSet machineSet ns name) state
      (fun outcome after => outcome = replicaOutcome machineSet ns start ∧
        AtMachines machineSet ns start [] after) (Conflicted machineSet ns start) := by
  have ready := atSet.ready orderly
  obtain ⟨listed, atMachines⟩ := ready.list orderly
  have warnings := templateWarnings_congr machineSet (ready.course.selected_unmanaged machineSet ns)
  have selects : selectMachines machineSet
      (MemoryStore.inNamespace (state.ready (·.pass ns name)).store.machines ns) =
        .ok ((state.ready (·.pass ns name)).store.selected machineSet ns) := by
    rcases selectMachines_eq machineSet (state.ready (·.pass ns name)).store ns with
      ⟨-, selects⟩ | ⟨fault, -⟩
    · exact selects
    · exact absurd orderly.valid fault
  apply Ensures.synchroniseSet
  refine Visited.ensures_listMachines ready.calm ⟨fun error fails => ?_, fun selected same => ?_⟩
  · rw [selects] at fails
    cases fails
  · rw [selects] at same
    cases same
    apply (synchroniseMachines_replica orderly listed atMachines).imp
    · intro found after reached
      obtain ⟨rfl, reached⟩ := reached
      exact ⟨congrArg passOutcome warnings, reached⟩
    · exact fun _ _ ended => ended

/-- A whole pass, until it has ended. -/
theorem synchronise_replica (orderly : Orderly machineSet ns name start)
    (atSet : AtSet machineSet ns start state) :
    Ensures (replicaEnvironment ns name) (ExceptT.mk (synchronise ns name)) state
      (fun outcome after => outcome = replicaOutcome machineSet ns start ∧
        AtMachines machineSet ns start [] after) (Conflicted machineSet ns start) := by
  have ready := atSet.ready orderly
  have found : (state.ready (·.pass ns name)).store.machineSets.get? ⟨ns, name⟩ =
      some machineSet := by
    rw [ready.course.machineSets, orderly.found]
  exact Visited.ensures_synchronise ready.calm found (synchroniseSet_replica orderly ready)

end Pass

/-- What comes of both passes. The visitor gives its outcome, and the pass around it the same one or
a conflict; every pair is settled. -/
theorem passAround_replica (orderly : Orderly machineSet ns name start)
    (reachable : start.Reachable) (calm : ∀ operation, start.pendingFailures operation = 0)
    (calls : Nat) :
    (start.passAround (·.pass ns name) calls ns name).visit =
        .ok (replicaOutcome machineSet ns start) ∧
      ((start.passAround (·.pass ns name) calls ns name).result =
          .ok (replicaOutcome machineSet ns start) ∨
        ∃ what, (start.passAround (·.pass ns name) calls ns name).result =
          .error (.store (.conflict what))) ∧
      Completed machineSet (bindings (start.selected machineSet ns)) start
        (start.passAround (·.pass ns name) calls ns name).store := by
  have underway : Underway machineSet ns start start :=
    ⟨reachable, calm, Moved.refl fun _ _ => SameCourse.refl⟩
  have ensured : Ensures (replicaEnvironment ns name) (ExceptT.mk (synchronise ns name))
      ⟨start, calls, none⟩ _ _ := synchronise_replica orderly (.inl ⟨rfl, underway⟩)
  rcases MemoryStore.passAround_of_ensures ensured with
    ⟨outcome, state, ⟨rfl, phase⟩, ran⟩ | ⟨cause, state, ⟨⟨what, rfl⟩, visited, arrived⟩, ran⟩
  · rw [ran]
    rcases phase with ⟨pending, queued⟩ | ⟨visited, outdated⟩
    · obtain ⟨after, passed, arrived, -⟩ := queued.toUnderway.visit orderly
      rw [Visited.close, pending, passed]
      exact ⟨rfl, .inl rfl, arrived.completed⟩
    · rw [Visited.close, visited]
      exact ⟨rfl, .inl rfl, outdated.completed⟩
  · rw [ran, Visited.close, visited]
    exact ⟨rfl, .inr ⟨what, rfl⟩, arrived.completed⟩

end Replica

/-! ## A cluster whose objects were added one after the other -/

namespace SmallCluster

/-- The set as it is stored. -/
def registeredSet : MachineSet := (MemoryStore.empty.addMachineSet machineSet).1

theorem placed_registered : registered.Placed :=
  MemoryStore.placed_of_all (by decide +kernel) (by decide +kernel) (by decide +kernel)

theorem names_registered :
    (registered.selected registeredSet "machines").filterMap Machine.nodeName? = ["node-0"] := by
  decide +kernel

/-- The set with a template whose machines would not be selected. -/
def misfitSet : MachineSet :=
  { machineSet with spec := { machineSet.spec with template := { machineSet.spec.template with
      metadata := { machineSet.spec.template.metadata with
        labels := SortedMap.ofList [("app", "db")] } } } }

/-- That set as it is stored. -/
def registeredMisfit : MachineSet := (MemoryStore.empty.addMachineSet misfitSet).1

/-- The small cluster with that set. -/
def misfits : MemoryStore :=
  ((MemoryStore.empty.apply (.addMachineSet misfitSet)).apply (.addMachine machine)).apply
    (.addNode node)

end SmallCluster

/-! ## One pass or two -/

/-- While a pass over a machine set is at work, another one over the same set does all of its work
between two of its calls, or before or after it. The visitor goes through, and so does the pass
around it, unless an update of it is a conflict. In either case the machines and nodes are in the
end what a single pass leaves, apart from their versions. -/
theorem replica_passes_agree {store : MemoryStore} {ns name : String} {machineSet : MachineSet}
    (reachable : store.Reachable) (placed : store.Placed)
    (calm : ∀ operation, store.pendingFailures operation = 0)
    (found : store.machineSets.get? ⟨ns, name⟩ = some machineSet) (valid : machineSet.Valid)
    (filled : ∀ key, machineSet.templateNodeLabels.contains key = true → key ≠ "")
    (distinct : ((store.selected machineSet ns).filterMap Machine.nodeName?).Nodup)
    (present : ∀ nodeName ∈ (store.selected machineSet ns).filterMap Machine.nodeName?,
      store.nodes.contains nodeName = true) :
    ∃ outcome after, store.pass ns name = (.ok outcome, after) ∧ ∀ calls,
      (store.passAround (·.pass ns name) calls ns name).visit = .ok outcome ∧
      ((store.passAround (·.pass ns name) calls ns name).result = .ok outcome ∨
        ∃ what, (store.passAround (·.pass ns name) calls ns name).result =
          .error (.store (.conflict what))) ∧
      (store.passAround (·.pass ns name) calls ns name).store.contents = after.contents := by
  have orderly : Orderly machineSet ns name store :=
    ⟨placed, found, valid, filled, distinct, present⟩
  have underway : Underway machineSet ns store store :=
    ⟨reachable, calm, Moved.refl fun _ _ => SameCourse.refl⟩
  obtain ⟨after, passed, arrived, -⟩ := underway.visit orderly
  refine ⟨replicaOutcome machineSet ns store, after, passed, fun calls => ?_⟩
  obtain ⟨visit, result, completed⟩ := passAround_replica orderly reachable calm calls
  refine ⟨visit, result, ?_⟩
  have stored : ∀ key nodeName, (key, nodeName) ∈ bindings (store.selected machineSet ns) →
      ∃ machine, store.machines.get? key = some machine := by
    intro key nodeName pair
    obtain ⟨machine, listed, -, rfl⟩ := mem_bindings_iff.mp pair
    exact ⟨machine, MemoryStore.get?_of_mem_selected placed.machines listed⟩
  obtain ⟨machines, nodes⟩ := Completed.contents_eq stored completed arrived.completed
  exact Contents.ext (funext machines) (funext nodes)

/-- Two passes over the small cluster. -/
theorem replica_passes_agree_smallCluster :
    ∃ outcome after, SmallCluster.registered.pass "machines" "web" = (.ok outcome, after) ∧
      ∀ calls,
        (SmallCluster.registered.passAround (·.pass "machines" "web") calls "machines"
          "web").visit = .ok outcome ∧
        ((SmallCluster.registered.passAround (·.pass "machines" "web") calls "machines"
            "web").result = .ok outcome ∨
          ∃ what, (SmallCluster.registered.passAround (·.pass "machines" "web") calls "machines"
            "web").result = .error (.store (.conflict what))) ∧
        (SmallCluster.registered.passAround (·.pass "machines" "web") calls "machines"
          "web").store.contents = after.contents := by
  have found : SmallCluster.registered.machineSets.get? ⟨"machines", "web"⟩ =
      some SmallCluster.registeredSet := SortedMap.get?_insert_self _ _ _
  refine replica_passes_agree SmallCluster.reachable SmallCluster.placed_registered (fun _ => rfl)
    found ⟨_, rfl⟩ SmallCluster.filled ?_ ?_
  · rw [SmallCluster.names_registered]
    decide
  · intro nodeName listed
    rw [SmallCluster.names_registered] at listed
    cases List.mem_singleton.mp listed
    decide +kernel

/-- A set whose template does not meet its selector selects no machine: it is an error of both
passes. -/
theorem replica_passes_fail_misfit :
    SmallCluster.misfits.Reachable ∧ SmallCluster.misfits.Placed ∧
      (∀ operation, SmallCluster.misfits.pendingFailures operation = 0) ∧
      SmallCluster.misfits.machineSets.get? ⟨"machines", "web"⟩ =
        some SmallCluster.registeredMisfit ∧
      (∀ key, SmallCluster.registeredMisfit.templateNodeLabels.contains key = true → key ≠ "") ∧
      SmallCluster.misfits.selected SmallCluster.registeredMisfit "machines" = [] ∧
      (SmallCluster.misfits.passAround (·.pass "machines" "web") 1 "machines" "web").visit =
        .error (.selector "machines/web" .templateMismatch) ∧
      (SmallCluster.misfits.passAround (·.pass "machines" "web") 1 "machines" "web").result =
        .error (.selector "machines/web" .templateMismatch) := by
  refine ⟨.apply _ (.apply _ (.apply _ .empty)), ?_, fun _ => rfl, SortedMap.get?_insert_self _ _ _,
    SmallCluster.filled, rfl, ?_, ?_⟩
  · exact MemoryStore.placed_of_all (by decide +kernel) (by decide +kernel) (by decide +kernel)
  · rfl
  · rfl

end NodeSync
