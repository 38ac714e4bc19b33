/-
Module: NodeSync.Proofs.Store.Versions
Purpose: The histories of a store, and the versions of its nodes. Every version is given out once.
  So no two stored nodes have the same one, and an update of a node that was renamed where it is
  stored cannot reach the node whose name it has: it is a conflict.
Main exports: Event, MemoryStore.apply, MemoryStore.Reachable, MemoryStore.Versioned,
  MemoryStore.Versioned.apply, MemoryStore.versioned_of_reachable,
  MemoryStore.serve_updateNode_cases
-/
import NodeSync.Proofs.Pass.Disturbance
import NodeSync.Proofs.Store.Writes
import NodeSync.Proofs.Text.Numeral

namespace NodeSync

set_option autoImplicit false

/-! ## Histories -/

/-- What happens to a store: objects are added and removed, other clients edit objects and make
calls, failures are ordered, records are cleared, and passes run, whatever disturbs them. -/
inductive Event where
  | addMachineSet (machineSet : MachineSet)
  | addMachine (machine : Machine)
  | addNode (node : Node)
  | removeMachineSet (key : ObjectKey)
  | editMachineSet (key : ObjectKey) (edit : MachineSet → MachineSet)
  | editNode (name : String) (edit : Node → Node)
  | failNext (operation : Operation)
  | clearUpdates
  | call (request : Request)
  | pass (fates : List Fate) (ns name : String)

namespace MemoryStore

/-- The store after an event. -/
def apply (store : MemoryStore) : Event → MemoryStore
  | .addMachineSet machineSet => (store.addMachineSet machineSet).2
  | .addMachine machine => (store.addMachine machine).2
  | .addNode node => (store.addNode node).2
  | .removeMachineSet key => store.removeMachineSet key
  | .editMachineSet key edit => store.editMachineSet key edit
  | .editNode name edit => store.editNode name edit
  | .failNext operation => store.failNext operation
  | .clearUpdates => store.clearUpdates
  | .call request => (store.answer request).2
  | .pass fates ns name => (store.passUnder fates ns name).2

/-- The stores that come about from the empty one. -/
inductive Reachable : MemoryStore → Prop where
  | empty : Reachable empty
  | apply {store : MemoryStore} (event : Event) (reachable : Reachable store) :
      Reachable (store.apply event)

/-- Editing a machine set concerns neither the machines nor the nodes. -/
theorem editMachineSet_other (store : MemoryStore) (key : ObjectKey)
    (edit : MachineSet → MachineSet) :
    (store.editMachineSet key edit).nodes = store.nodes ∧
      (store.editMachineSet key edit).machines = store.machines ∧
      (store.editMachineSet key edit).version = store.version + 1 := by
  rw [editMachineSet]
  split
  · exact ⟨rfl, rfl, rfl⟩
  · exact ⟨rfl, rfl, rfl⟩

/-! ## Versions -/

/-- The versions of nodes were given out, to one node each, and machines are stored at their own
places. -/
structure Versioned (store : MemoryStore) : Prop where
  given : ∀ name node, store.nodes.get? name = some node →
    ∃ number, number ≤ store.version ∧
      node.metadata.resourceVersion = some (Text.decimal number)
  distinct : ∀ name name' node node', store.nodes.get? name = some node →
    store.nodes.get? name' = some node' →
    node.metadata.resourceVersion = node'.metadata.resourceVersion → name = name'
  machines : ∀ key machine, store.machines.get? key = some machine → machine.place = key

namespace Versioned

variable {store after : MemoryStore}

/-- No stored node has the version that is given out next. -/
theorem fresh (versioned : store.Versioned) {name : String} {node : Node}
    (found : store.nodes.get? name = some node) :
    node.metadata.resourceVersion ≠ some store.freshVersion := by
  intro same
  obtain ⟨number, old, version⟩ := versioned.given name node found
  rw [version] at same
  have next := Text.decimal_injective (Option.some.inj same)
  omega

/-- A change that does not concern the nodes. -/
theorem of_nodes_eq (versioned : store.Versioned) (nodes : after.nodes = store.nodes)
    (version : store.version ≤ after.version)
    (machines : ∀ key machine, after.machines.get? key = some machine → machine.place = key) :
    after.Versioned where
  given name node found := by
    rw [nodes] at found
    obtain ⟨number, old, same⟩ := versioned.given name node found
    exact ⟨number, Nat.le_trans old version, same⟩
  distinct name name' node node' found found' := by
    rw [nodes] at found found'
    exact versioned.distinct name name' node node' found found'
  machines := machines

/-- A node is stored under the next version. -/
theorem of_insert (versioned : store.Versioned) {name : String} {node : Node}
    (version : node.metadata.resourceVersion = some store.freshVersion)
    (nodes : after.nodes = store.nodes.insert name node)
    (counted : after.version = store.version + 1) (machines : after.machines = store.machines) :
    after.Versioned where
  given other found there := by
    rw [counted]
    by_cases here : other = name
    · rw [nodes, here, SortedMap.get?_insert_self] at there
      cases there
      exact ⟨store.version + 1, Nat.le_refl _, version⟩
    · rw [nodes, SortedMap.get?_insert_of_ne _ here] at there
      obtain ⟨number, old, same⟩ := versioned.given other found there
      exact ⟨number, Nat.le_succ_of_le old, same⟩
  distinct first second node₁ node₂ there₁ there₂ same := by
    rw [nodes] at there₁ there₂
    by_cases here₁ : first = name <;> by_cases here₂ : second = name
    · rw [here₁, here₂]
    · rw [here₁, SortedMap.get?_insert_self] at there₁
      rw [SortedMap.get?_insert_of_ne _ here₂] at there₂
      cases there₁
      exact absurd (same.symm.trans version) (versioned.fresh there₂)
    · rw [here₂, SortedMap.get?_insert_self] at there₂
      rw [SortedMap.get?_insert_of_ne _ here₁] at there₁
      cases there₂
      exact absurd (same.trans version) (versioned.fresh there₁)
    · rw [SortedMap.get?_insert_of_ne _ here₁] at there₁
      rw [SortedMap.get?_insert_of_ne _ here₂] at there₂
      exact versioned.distinct first second node₁ node₂ there₁ there₂ same
  machines := by
    rw [machines]
    exact versioned.machines

/-- A machine is stored at its place. -/
theorem of_insertMachine (versioned : store.Versioned) {key : ObjectKey} {machine : Machine}
    (machines : after.machines = store.machines.insert key machine) (own : machine.place = key)
    (nodes : after.nodes = store.nodes) (version : store.version ≤ after.version) :
    after.Versioned := by
  refine versioned.of_nodes_eq nodes version fun other found there => ?_
  rw [machines] at there
  by_cases here : other = key
  · rw [here, SortedMap.get?_insert_self] at there
    cases there
    exact own.trans here.symm
  · rw [SortedMap.get?_insert_of_ne _ here] at there
    exact versioned.machines other found there

/-- Carrying out a call. -/
theorem serve (versioned : store.Versioned) (request : Request) :
    (store.serve request).2.Versioned := by
  have served := store.served request
  generalize store.serve request = result at served ⊢
  cases served with
  | updateMachine => exact versioned.of_insertMachine rfl rfl rfl (Nat.le_succ _)
  | updateNode => exact versioned.of_insert rfl rfl rfl rfl
  | _ => exact versioned

theorem answer (versioned : store.Versioned) (request : Request) :
    (store.answer request).2.Versioned := by
  rw [MemoryStore.answer]
  split
  · exact versioned.of_nodes_eq rfl (Nat.le_refl _) versioned.machines
  · exact versioned.serve request

/-- A pass, whatever disturbs it. -/
theorem passUnder (versioned : store.Versioned) (fates : List Fate) (ns name : String) :
    (store.passUnder fates ns name).2.Versioned :=
  passUnder_preserves
    (fun _ _ versioned => versioned.of_nodes_eq rfl (Nat.le_refl _) versioned.machines)
    (fun _ request versioned => versioned.serve request) versioned fates ns name

/-- Every event keeps the versions apart. -/
theorem apply (versioned : store.Versioned) (event : Event) : (store.apply event).Versioned := by
  cases event with
  | addMachineSet machineSet =>
      exact versioned.of_nodes_eq rfl (Nat.le_succ _) versioned.machines
  | addMachine machine =>
      exact versioned.of_insertMachine rfl rfl rfl (Nat.le_succ _)
  | addNode node => exact versioned.of_insert rfl rfl rfl rfl
  | removeMachineSet key =>
      exact versioned.of_nodes_eq rfl (Nat.le_refl _) versioned.machines
  | editMachineSet key edit =>
      obtain ⟨nodes, machines, version⟩ := store.editMachineSet_other key edit
      refine versioned.of_nodes_eq nodes (Nat.le_of_lt (Nat.lt_of_succ_le ?_)) ?_
      · exact Nat.le_of_eq version.symm
      · intro place machine there
        rw [MemoryStore.apply, machines] at there
        exact versioned.machines place machine there
  | editNode name edit =>
      rw [MemoryStore.apply, editNode]
      split
      · exact versioned.of_nodes_eq rfl (Nat.le_succ _) versioned.machines
      · exact versioned.of_insert rfl rfl rfl rfl
  | failNext operation =>
      obtain ⟨pending, counted⟩ := store.failNext_eq operation
      rw [MemoryStore.apply, counted]
      exact versioned.of_nodes_eq rfl (Nat.le_refl _) versioned.machines
  | clearUpdates => exact versioned.of_nodes_eq rfl (Nat.le_refl _) versioned.machines
  | call request => exact versioned.answer request
  | pass fates ns name => exact versioned.passUnder fates ns name

end Versioned

theorem versioned_empty : empty.Versioned where
  given _ _ there := nomatch there
  distinct _ _ _ _ there := nomatch there
  machines _ _ there := nomatch there

/-- In every store that comes about the versions are kept apart. -/
theorem versioned_of_reachable {store : MemoryStore} (reachable : store.Reachable) :
    store.Versioned := by
  induction reachable with
  | empty => exact versioned_empty
  | apply event _ ih => exact ih.apply event

/-! ## Renamed nodes -/

/-- A revision of a stored node is stored, unless the node was renamed where it is stored: then the
update fails. -/
theorem serve_updateNode_cases {store : MemoryStore} (versioned : store.Versioned) {name : String}
    {stored node : Node} (found : store.nodes.get? name = some stored)
    (revises : stored.Revises node) :
    store.serve (.updateNode node) =
        (.ok (node.withVersion (some store.freshVersion)), store.putNode name node) ∨
      ∃ error, store.serve (.updateNode node) = (.error error, store) := by
  cases named : stored.metadata.name with
  | none =>
      right
      refine ⟨.invalidObject "Node missing metadata.name", ?_⟩
      change store.replaceNode node = _
      rw [replaceNode, revises.name, named]
      rfl
  | some other =>
      by_cases same : other = name
      · subst same
        exact .inl (serve_updateNode found named revises)
      · right
        cases there : store.nodes.get? other with
        | none =>
            refine ⟨.notFound (Request.updateNode node).subject, ?_⟩
            change store.replaceNode node = _
            rw [replaceNode, revises.name, named]
            dsimp only
            rw [there]
            rfl
        | some holder =>
            obtain ⟨number, -, version⟩ := versioned.given name stored found
            have carried : node.metadata.resourceVersion.isSome = true ∧
                node.metadata.resourceVersion ≠ holder.metadata.resourceVersion := by
              rw [revises.version]
              refine ⟨by rw [version]; rfl, fun equal => same ?_⟩
              exact (versioned.distinct name other stored holder found there equal).symm
            refine ⟨.conflict ((Request.updateNode node).subject ++
              ": the object has been modified; please apply your changes " ++
              "to the latest version and try again"), ?_⟩
            change store.replaceNode node = _
            rw [replaceNode, revises.name, named]
            dsimp only
            rw [there]
            dsimp only
            rw [replaceMeta, if_pos carried]
            rfl

end MemoryStore

end NodeSync
