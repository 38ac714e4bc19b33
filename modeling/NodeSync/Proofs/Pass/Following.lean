/-
Module: NodeSync.Proofs.Pass.Following
Purpose: One machine and its node, followed through passes over the set of the machine, whatever
  disturbs them. If no other machine of the set has the node, then what the writes of a pass keep of
  the two holds after every pass, and a pass that went through has gone through with the two.
Main exports: Followed, KeptByWrites, synchroniseMachine_followed, synchroniseMachines_followed,
  followed_passUnder
-/
import NodeSync.Proofs.Pass.Conduct
import NodeSync.Proofs.Store.Versions

namespace NodeSync

set_option autoImplicit false

open Pass (Ensures Secures)

/-! ## The machine and its node in a store -/

/-- The machine at a place and the node under a name stay as given. Of all machines, only what
passes write has changed since the start. -/
structure Followed (start : MemoryStore) (place : ObjectKey) (nodeName : String)
    (pair : Machine → Node → Prop) (store : MemoryStore) : Prop where
  versioned : store.Versioned
  unmanaged : ∀ key, (store.machines.get? key).map Machine.unmanaged =
    (start.machines.get? key).map Machine.unmanaged
  pairs : ∃ machine node, store.machines.get? place = some machine ∧
    store.nodes.get? nodeName = some node ∧ pair machine node

/-- The same, where a pass has a machine and a node at hand, and has changed no other machine. -/
structure AtHand (start : MemoryStore) (place : ObjectKey) (nodeName : String)
    (pair : Machine → Node → Prop) (before : MemoryStore) (key : ObjectKey) (name : String)
    (machine : Machine) (node : Node) (store : MemoryStore) : Prop
    extends Followed start place nodeName pair store where
  machineAt : store.machines.get? key = some machine
  nodeAt : store.nodes.get? name = some node
  others : ∀ other, other ≠ key → store.machines.get? other = before.machines.get? other

/-- The writes of a pass keep what holds of a machine and its node. -/
structure KeptByWrites (machineSet : MachineSet) (pair : Machine → Node → Prop) : Prop where
  machine : ∀ {machine node revised} version, pair machine node →
    MachineWrite machineSet machine node revised → pair (revised.withVersion version) node
  node : ∀ {machine node revised} version, pair machine node →
    NodeWrite machineSet machine node revised → pair machine (revised.withVersion version)

section Store

variable {start before store : MemoryStore} {place key : ObjectKey} {nodeName name : String}
  {pair pair' : Machine → Node → Prop} {machineSet : MachineSet} {machine revised : Machine}
  {node revisedNode : Node}

namespace Followed

theorem mono (followed : Followed start place nodeName pair store)
    (more : ∀ machine node, pair machine node → pair' machine node) :
    Followed start place nodeName pair' store := by
  obtain ⟨machine, node, found, there, holds⟩ := followed.pairs
  exact ⟨followed.versioned, followed.unmanaged, machine, node, found, there, more _ _ holds⟩

/-- Nothing that happens to machine sets, and no ordered failure, concerns the machine. -/
theorem of_eq (followed : Followed start place nodeName pair before)
    (machines : store.machines = before.machines) (nodes : store.nodes = before.nodes)
    (version : before.version ≤ store.version) : Followed start place nodeName pair store := by
  refine ⟨followed.versioned.of_nodes_eq nodes version ?_, ?_, ?_⟩
  · rw [machines]
    exact followed.versioned.machines
  · rw [machines]
    exact followed.unmanaged
  · rw [machines, nodes]
    exact followed.pairs

theorem withFailures (followed : Followed start place nodeName pair store)
    (pending : Operation → UInt32) :
    Followed start place nodeName pair (store.withFailures pending) :=
  followed.of_eq rfl rfl (Nat.le_refl _)

end Followed

namespace AtHand

/-- The machine at hand is the one at the place exactly if the node at hand is the one under the
name; then what is known of the two holds of those at hand. -/
theorem pair_of_eq (held : AtHand start place nodeName pair before key name machine node store)
    (samePlace : key = place) (sameName : name = nodeName) : pair machine node := by
  obtain ⟨machine', node', found, there, holds⟩ := held.pairs
  rw [← samePlace, held.machineAt] at found
  rw [← sameName, held.nodeAt] at there
  cases found
  cases there
  exact holds

/-- The machine at hand is updated. -/
theorem putMachine (held : AtHand start place nodeName pair before key name machine node store)
    (bound : key = place ↔ name = nodeName) (kept : key = place → KeptByWrites machineSet pair)
    (write : MachineWrite machineSet machine node revised) :
    AtHand start place nodeName pair before key name
      (revised.withVersion (some store.freshVersion)) node (store.putMachine key revised) := by
  have own : machine.place = key := held.versioned.machines key machine held.machineAt
  have place' : revised.place = key := write.revises.place.trans own
  have stored : (store.putMachine key revised).machines.get? key =
      some (revised.withVersion (some store.freshVersion)) := SortedMap.get?_insert_self _ _ _
  have elsewhere : ∀ other, other ≠ key →
      (store.putMachine key revised).machines.get? other = store.machines.get? other :=
    fun other different => SortedMap.get?_insert_of_ne _ different _
  refine ⟨⟨?_, fun other => ?_, ?_⟩, stored, held.nodeAt, fun other different => ?_⟩
  · exact held.versioned.of_insertMachine rfl place' rfl (Nat.le_succ _)
  · by_cases here : other = key
    · rw [here, stored, ← held.unmanaged, held.machineAt]
      exact congrArg some write.unmanaged
    · rw [elsewhere other here, held.unmanaged]
  · by_cases here : key = place
    · have holds := held.pair_of_eq here (bound.mp here)
      rw [← here, ← bound.mp here]
      exact ⟨_, node, stored, held.nodeAt, (kept here).machine _ holds write⟩
    · obtain ⟨machine', node', found, there, holds⟩ := held.pairs
      exact ⟨machine', node', (elsewhere place (Ne.symm here)).trans found, there, holds⟩
  · rw [elsewhere other different, held.others other different]

/-- The node at hand is updated. -/
theorem putNode (held : AtHand start place nodeName pair before key name machine node store)
    (bound : key = place ↔ name = nodeName) (kept : key = place → KeptByWrites machineSet pair)
    (write : NodeWrite machineSet machine node revisedNode) :
    AtHand start place nodeName pair before key name machine
      (revisedNode.withVersion (some store.freshVersion)) (store.putNode name revisedNode) := by
  have stored : (store.putNode name revisedNode).nodes.get? name =
      some (revisedNode.withVersion (some store.freshVersion)) := SortedMap.get?_insert_self _ _ _
  refine ⟨⟨?_, held.unmanaged, ?_⟩, held.machineAt, stored, held.others⟩
  · exact held.versioned.of_insert rfl rfl rfl rfl
  · by_cases here : name = nodeName
    · have holds := held.pair_of_eq (bound.mpr here) here
      rw [← here, ← bound.mpr here]
      exact ⟨machine, _, held.machineAt, stored, (kept (bound.mpr here)).node _ holds write⟩
    · obtain ⟨machine', node', found, there, holds⟩ := held.pairs
      refine ⟨machine', node', found, ?_, holds⟩
      exact (SortedMap.get?_insert_of_ne _ (Ne.symm here) _).trans there

/-- What is known of the pair at hand beyond what is kept of it. -/
theorem followed_and (held : AtHand start place nodeName pair before key name machine node store)
    (bound : key = place ↔ name = nodeName) (more : key = place → pair' machine node) :
    Followed start place nodeName
      (fun machine node => pair machine node ∧ (key = place → pair' machine node)) store := by
  refine ⟨held.versioned, held.unmanaged, ?_⟩
  by_cases here : key = place
  · have holds := held.pair_of_eq here (bound.mp here)
    exact ⟨machine, node, here ▸ held.machineAt, bound.mp here ▸ held.nodeAt, holds, more⟩
  · obtain ⟨machine', node', found, there, holds⟩ := held.pairs
    exact ⟨machine', node', found, there, holds, fun same => absurd same here⟩

end AtHand

/-! ## Passes -/

/-- An update of the machine at hand. -/
theorem keepsMachineWrites_atHand (bound : key = place ↔ name = nodeName)
    (kept : key = place → KeptByWrites machineSet pair) :
    Ensures.KeepsMachineWrites Disturbed.environment machineSet
      (fun machine node state =>
        AtHand start place nodeName pair before key name machine node state.store)
      (fun _ after => Followed start place nodeName pair after.store) := by
  intro machine node revised state blame held write
  have own : machine.place = key := held.versioned.machines key machine held.machineAt
  have updated := held.putMachine bound kept write
  have secured : Secures False (Pass.call (.updateMachine revised) blame) state.store
      (fun machine' after => ∃ version, machine' = revised.withVersion version ∧
        AtHand start place nodeName pair before key name machine' node after)
      (fun _ after => Followed start place nodeName pair after) := by
    subst own
    apply Secures.updateMachine held.machineAt write.revises
    · exact fun _ _ pending => held.toFollowed.withFailures pending
    · exact fun _ _ => updated.toFollowed
    · exact ⟨_, rfl, updated⟩
  exact secured.ensures

/-- An update of the node at hand. If it was renamed where it is stored, the update fails. -/
theorem keepsNodeWrites_atHand (bound : key = place ↔ name = nodeName)
    (kept : key = place → KeptByWrites machineSet pair) :
    Ensures.KeepsNodeWrites Disturbed.environment machineSet
      (fun machine node state =>
        AtHand start place nodeName pair before key name machine node state.store)
      (fun _ after => Followed start place nodeName pair after.store) := by
  intro machine node revised state blame held write
  have updated := held.putNode bound kept write
  have secured : Secures False (Pass.call (.updateNode revised) blame) state.store
      (fun node' after => ∃ version, node' = revised.withVersion version ∧
        AtHand start place nodeName pair before key name machine node' after)
      (fun _ after => Followed start place nodeName pair after) := by
    rcases MemoryStore.serve_updateNode_cases held.versioned held.nodeAt write.revises with
      served | ⟨error, served⟩
    · apply Secures.call
      · exact fun _ _ pending => held.toFollowed.withFailures pending
      · rw [served]
        exact fun _ _ => updated.toFollowed
      · intro answer answered
        rw [served] at answered ⊢
        cases answered
        exact ⟨_, rfl, updated⟩
      · intro error failed
        rw [served] at failed
        cases failed
    · apply Secures.call
      · exact fun _ _ pending => held.toFollowed.withFailures pending
      · rw [served]
        exact fun _ _ => held.toFollowed
      · intro answer answered
        rw [served] at answered
        cases answered
      · intro _ _
        rw [served]
        exact held.toFollowed
  exact secured.ensures

/-- One machine. If it is the one at the place, the pass has gone through with it and its node. -/
theorem synchroniseMachine_followed (provisioned : machine.nodeName? = some name)
    (followed : Followed start place nodeName pair store)
    (found : store.machines.get? machine.place = some machine)
    (bound : machine.place = place ↔ name = nodeName)
    (kept : machine.place = place → KeptByWrites machineSet pair) :
    Secures False (synchroniseMachine machineSet machine) store
      (fun warning after => warning = templateWarning? machineSet machine ∧
        Followed start place nodeName (fun machine' node' => pair machine' node' ∧
          (machine.place = place → Finished machineSet machine' node')) after ∧
        ∀ other, other ≠ machine.place →
          after.machines.get? other = store.machines.get? other)
      (fun _ after => Followed start place nodeName pair after) := by
  rintro state rfl -
  have read : ∀ blame, Ensures Disturbed.environment (Pass.call (.getNode name) blame) state
      (fun node after => AtHand start place nodeName pair state.store machine.place name machine
        node after.store)
      (fun _ after => Followed start place nodeName pair after.store) := by
    intro blame
    have secured : Secures False (Pass.call (.getNode name) blame) state.store
        (fun node after => AtHand start place nodeName pair state.store machine.place name machine
          node after)
        (fun _ after => Followed start place nodeName pair after) := by
      apply Secures.getNode
      · exact fun _ _ pending => followed.withFailures pending
      · exact fun _ _ => followed
      · exact fun node there => ⟨followed, found, there, fun _ _ => rfl⟩
    exact secured.ensures
  apply (Ensures.synchroniseMachine provisioned read (keepsMachineWrites_atHand bound kept)
    (keepsNodeWrites_atHand bound kept)).imp
  · intro warning after reached
    obtain ⟨rfl, machine', node', held, finished⟩ := reached
    exact ⟨False.elim, rfl, held.followed_and bound fun _ => finished, held.others⟩
  · exact fun _ _ ended => ended

/-- Before the given machines have their turn, each of them is stored as it was listed. Once the one
at the place is no longer among them, the pass has gone through with it. -/
structure Waiting (machineSet : MachineSet) (start : MemoryStore) (place : ObjectKey)
    (nodeName : String) (pair : Machine → Node → Prop) (machines : List Machine)
    (store : MemoryStore) : Prop where
  stored : ∀ machine ∈ machines, store.machines.get? machine.place = some machine
  places : (machines.map Machine.place).Nodup
  bound : ∀ machine ∈ machines, machine.place = place ↔ machine.nodeName? = some nodeName
  followed : Followed start place nodeName (fun machine node => pair machine node ∧
    (place ∉ machines.map Machine.place → Finished machineSet machine node)) store

namespace Waiting

variable {rest : List Machine}

/-- A machine without a node is not the one at the place. -/
theorem skip (waiting : Waiting machineSet start place nodeName pair (machine :: rest) store)
    (none : machine.nodeName? = Option.none) :
    Waiting machineSet start place nodeName pair rest store where
  stored other listed := waiting.stored other (List.mem_cons_of_mem _ listed)
  places := (List.nodup_cons.mp waiting.places).2
  bound other listed := waiting.bound other (List.mem_cons_of_mem _ listed)
  followed := by
    refine waiting.followed.mono fun _ _ known => ⟨known.1, fun done => known.2 ?_⟩
    have elsewhere : machine.place ≠ place := by
      intro here
      rw [(waiting.bound machine List.mem_cons_self).mp here] at none
      cases none
    rw [List.map_cons, List.mem_cons, not_or]
    exact ⟨Ne.symm elsewhere, done⟩

/-- The first machine has its turn. If it is the one at the place, all that is needed of it and its
node is kept by the writes; if it is not, nothing happens to the two. -/
theorem each (waiting : Waiting machineSet start place nodeName pair (machine :: rest) store)
    (kept : KeptByWrites machineSet pair) (provisioned : machine.nodeName? = some name) :
    Secures False (synchroniseMachine machineSet machine) store
      (fun warning after => warning = templateWarning? machineSet machine ∧
        Waiting machineSet start place nodeName pair rest after)
      (fun _ after => Followed start place nodeName pair after) := by
  obtain ⟨newPlace, placesRest⟩ := List.nodup_cons.mp waiting.places
  have found := waiting.stored machine List.mem_cons_self
  have bound : machine.place = place ↔ name = nodeName := by
    rw [waiting.bound machine List.mem_cons_self, provisioned, Option.some.injEq]
  have restOf : ∀ after, (∀ other, other ≠ machine.place →
      after.machines.get? other = store.machines.get? other) →
      Followed start place nodeName (fun machine node => pair machine node ∧
        (place ∉ rest.map Machine.place → Finished machineSet machine node)) after →
      Waiting machineSet start place nodeName pair rest after := by
    intro after others followed
    refine ⟨fun other listed => ?_, placesRest, fun other listed => ?_, followed⟩
    · rw [others other.place fun same => newPlace (same ▸ List.mem_map_of_mem listed)]
      exact waiting.stored other (List.mem_cons_of_mem _ listed)
    · exact waiting.bound other (List.mem_cons_of_mem _ listed)
  by_cases here : machine.place = place
  · have followed := waiting.followed.mono fun _ _ known => known.1
    apply (synchroniseMachine_followed provisioned followed found bound fun _ => kept).imp
    · intro warning after reached
      obtain ⟨rfl, followed, others⟩ := reached
      refine ⟨rfl, restOf after others (followed.mono fun _ _ known => ⟨known.1, fun _ => ?_⟩)⟩
      exact known.2 here
    · exact fun _ _ ended => ended
  · apply (synchroniseMachine_followed provisioned waiting.followed found bound
      fun same => absurd same here).imp
    · intro warning after reached
      obtain ⟨rfl, followed, others⟩ := reached
      refine ⟨rfl, restOf after others (followed.mono fun _ _ known => ⟨known.1.1, fun done => ?_⟩)⟩
      apply known.1.2
      rw [List.map_cons, List.mem_cons, not_or]
      exact ⟨Ne.symm here, done⟩
    · exact fun _ _ ended => ended.mono fun _ _ known => known.1

end Waiting

/-- All machines, with the one at the place among them. -/
theorem synchroniseMachines_followed {machines : List Machine}
    (waiting : Waiting machineSet start place nodeName pair machines store)
    (kept : KeptByWrites machineSet pair) :
    Secures False (synchroniseMachines machineSet machines) store
      (fun _ after => Followed start place nodeName
        (fun machine node => pair machine node ∧ Finished machineSet machine node) after)
      (fun _ after => Followed start place nodeName pair after) := by
  intro state same _
  have begin : Waiting machineSet start place nodeName pair machines state.store := same ▸ waiting
  apply (Ensures.synchroniseMachines
    (fun left after => Waiting machineSet start place nodeName pair left after.store)
    begin ?_ ?_).imp
  · intro warnings after reached
    refine ⟨False.elim, reached.2.followed.mono fun _ _ known => ⟨known.1, known.2 ?_⟩⟩
    exact List.not_mem_nil
  · exact fun _ _ ended => ended
  · exact fun machine rest middle none waiting => waiting.skip none
  · intro machine name rest middle provisioned waiting
    exact (waiting.each kept provisioned).ensures

/-- A pass over a stored machine set that selects the machine at the place, whatever disturbs it. If
it went through, it went through with the machine and its node. -/
theorem followed_passUnder {ns setName : String} (kept : KeptByWrites machineSet pair)
    (found : store.machineSets.get? ⟨ns, setName⟩ = some machineSet)
    (listed : place ∈ (store.selected machineSet ns).map Machine.place)
    (bound : ∀ machine ∈ store.selected machineSet ns,
      machine.place = place ↔ machine.nodeName? = some nodeName)
    (followed : Followed start place nodeName pair store) (fates : List Fate) :
    Followed start place nodeName pair (store.passUnder fates ns setName).2 ∧
      ∀ outcome, (store.passUnder fates ns setName).1 = .ok outcome → outcome ≠ .gone →
        Followed start place nodeName
          (fun machine node => pair machine node ∧ Finished machineSet machine node)
          (store.passUnder fates ns setName).2 := by
  have secured : Secures False (ExceptT.mk (synchronise ns setName)) store
      (fun outcome after => Followed start place nodeName pair after ∧ (outcome ≠ .gone →
        Followed start place nodeName
          (fun machine node => pair machine node ∧ Finished machineSet machine node) after))
      (fun _ after => Followed start place nodeName pair after) := by
    apply Secures.wholePass
    · exact fun _ _ pending => followed.withFailures pending
    · exact fun _ pending => ⟨followed.withFailures pending, fun notGone => absurd rfl notGone⟩
    · intro stored found'
      rw [found] at found'
      cases found'
      apply Secures.setRead
      · exact fun _ _ pending => followed.withFailures pending
      · exact fun _ _ => followed
      · intro _
        have waiting : Waiting machineSet start place nodeName pair
            (store.selected machineSet ns) store := by
          refine ⟨?_, ?_, bound, followed.mono fun _ _ known => ⟨known, ?_⟩⟩
          · exact fun machine => MemoryStore.get?_of_mem_selected followed.versioned.machines
          · exact MemoryStore.selected_places_nodup followed.versioned.machines machineSet ns
          · exact fun outside => absurd listed outside
        apply (synchroniseMachines_followed waiting kept).imp
        · intro warnings after settled
          exact ⟨settled.mono fun _ _ known => known.1, fun _ => settled⟩
        · exact fun _ _ ended => ended
  rcases MemoryStore.passUnder_of_secures fates False.elim secured with
    ⟨outcome, after, passed, reached⟩ | ⟨cause, after, passed, ended⟩
  · rw [passed]
    refine ⟨reached.1, fun outcome' same notGone => reached.2 ?_⟩
    cases same
    exact notGone
  · rw [passed]
    exact ⟨ended, fun outcome impossible => nomatch impossible⟩

end Store

end NodeSync
