/-
Module: NodeSync.Proofs.Store.Stamps
Purpose: The versions of all objects of a store as stamps, each of which is given out once. A copy
  of an object is known if the store has given out its stamp to nothing else. Whatever happens to
  the store, a known copy stays known, and an update that carries its stamp goes through only while
  that very copy is stored: after any write to its place the update is a conflict.
Main exports: Slot, Item, MemoryStore.item?, MemoryStore.Known, MemoryStore.Stamped,
  MemoryStore.Changed, MemoryStore.Wrote, MemoryStore.Evolves, MemoryStore.evolves_apply,
  MemoryStore.Evolves.known, MemoryStore.stamped_of_reachable, Request.update?,
  MemoryStore.serve_update_of_stale
-/
import Mathlib.Logic.Relation
import NodeSync.Proofs.Store.Versions

namespace NodeSync

set_option autoImplicit false

/-! ## Places and objects of all kinds -/

/-- Where an object is stored. -/
inductive Slot where
  | machineSet (key : ObjectKey)
  | machine (key : ObjectKey)
  | node (name : String)
deriving Repr, Inhabited, DecidableEq

/-- An object of any kind. -/
inductive Item where
  | machineSet (machineSet : MachineSet)
  | machine (machine : Machine)
  | node (node : Node)
deriving Inhabited

/-- The stamp of an object. -/
def Item.version : Item → Option String
  | .machineSet stored => stored.metadata.resourceVersion
  | .machine stored => stored.metadata.resourceVersion
  | .node stored => stored.metadata.resourceVersion

namespace MemoryStore

/-- The object in a slot. -/
def item? (store : MemoryStore) : Slot → Option Item
  | .machineSet key => (store.machineSets.get? key).map .machineSet
  | .machine key => (store.machines.get? key).map .machine
  | .node name => (store.nodes.get? name).map .node

/-- A copy whose stamp was given out to it and to nothing else that is stored. -/
structure Known (store : MemoryStore) (slot : Slot) (copy : Item) : Prop where
  given : ∃ number, number ≤ store.version ∧ copy.version = some (Text.decimal number)
  only : ∀ slot' item, store.item? slot' = some item → item.version = copy.version →
    slot' = slot ∧ item = copy

/-- Every stored object has a stamp of its own. -/
def Stamped (store : MemoryStore) : Prop :=
  ∀ slot item, store.item? slot = some item → store.Known slot item

/-! ## Steps -/

/-- What a step does to the stored objects: it leaves them, or it writes one of them under the next
stamp, or it removes a machine set. -/
inductive Changed (store after : MemoryStore) : Prop where
  | still (items : ∀ slot, after.item? slot = store.item? slot)
      (version : store.version ≤ after.version)
  | written (slot : Slot) (item : Item) (stored : after.item? slot = some item)
      (stamp : item.version = some store.freshVersion)
      (others : ∀ other, other ≠ slot → after.item? other = store.item? other)
      (version : after.version = store.version + 1)
  | removed (key : ObjectKey) (gone : after.item? (.machineSet key) = none)
      (others : ∀ other, other ≠ .machineSet key → after.item? other = store.item? other)
      (version : store.version ≤ after.version)

/-- One object is written, under the next stamp. -/
structure Wrote (store after : MemoryStore) (slot : Slot) (item : Item) : Prop where
  stored : after.item? slot = some item
  stamp : item.version = some store.freshVersion
  others : ∀ other, other ≠ slot → after.item? other = store.item? other
  version : after.version = store.version + 1

/-- A store comes from an earlier one by any number of steps. -/
abbrev Evolves : MemoryStore → MemoryStore → Prop := Relation.ReflTransGen Changed

section Steps

variable {store after : MemoryStore} {slot : Slot} {copy : Item}

/-- A known copy has another stamp than the one that is given out next. -/
theorem Known.version_ne (known : store.Known slot copy) :
    copy.version ≠ some store.freshVersion := by
  intro same
  obtain ⟨number, old, version⟩ := known.given
  rw [version] at same
  have next := Text.decimal_injective (Option.some.inj same)
  omega

/-- A known copy stays known. -/
theorem Changed.known (changed : Changed store after) (known : store.Known slot copy) :
    after.Known slot copy := by
  obtain ⟨number, old, version⟩ := known.given
  cases changed with
  | still items counted =>
      refine ⟨⟨number, Nat.le_trans old counted, version⟩, ?_⟩
      intro slot' item there
      rw [items] at there
      exact known.only slot' item there
  | written written item stored stamp others counted =>
      refine ⟨⟨number, by omega, version⟩, ?_⟩
      intro slot' item' there same
      by_cases here : slot' = written
      · rw [here, stored] at there
        cases there
        exact absurd (same.symm.trans stamp) known.version_ne
      · rw [others slot' here] at there
        exact known.only slot' item' there same
  | removed key gone others counted =>
      refine ⟨⟨number, Nat.le_trans old counted, version⟩, ?_⟩
      intro slot' item there same
      by_cases here : slot' = .machineSet key
      · rw [here, gone] at there
        cases there
      · rw [others slot' here] at there
        exact known.only slot' item there same

/-- A step that changes what is in the slot of a known copy puts something else there. -/
theorem Changed.item_ne (changed : Changed store after) (known : store.Known slot copy)
    (hit : after.item? slot ≠ store.item? slot) : after.item? slot ≠ some copy := by
  cases changed with
  | still items => exact absurd (items slot) hit
  | written written item stored stamp others =>
      by_cases here : slot = written
      · rw [here, stored]
        intro same
        cases same
        exact known.version_ne stamp
      · exact absurd (others slot here) hit
  | removed key gone others =>
      by_cases here : slot = .machineSet key
      · rw [here, gone]
        exact nofun
      · exact absurd (others slot here) hit

/-- Machines and nodes are not removed. -/
theorem Changed.isSome (changed : Changed store after) (lasting : ∀ key, slot ≠ .machineSet key)
    (there : (store.item? slot).isSome = true) : (after.item? slot).isSome = true := by
  cases changed with
  | still items => rw [items, there]
  | written written item stored _ others =>
      by_cases here : slot = written
      · rw [here, stored]
        rfl
      · rw [others slot here, there]
  | removed key _ others => rw [others slot (lasting key), there]

/-- Every stored object keeps a stamp of its own. -/
theorem Changed.stamped (changed : Changed store after) (stamped : store.Stamped) :
    after.Stamped := by
  intro slot item there
  by_cases hit : after.item? slot = store.item? slot
  · exact changed.known (stamped slot item (hit ▸ there))
  · cases changed with
    | still items => exact absurd (items slot) hit
    | removed key gone others =>
        by_cases here : slot = .machineSet key
        · rw [here, gone] at there
          cases there
        · exact absurd (others slot here) hit
    | written written item' stored stamp others counted =>
        by_cases here : slot = written
        · rw [here, stored] at there
          cases there
          refine ⟨⟨store.version + 1, by omega, stamp⟩, ?_⟩
          intro slot' other there' same
          by_cases here' : slot' = written
          · rw [here', stored] at there'
            cases there'
            exact ⟨here'.trans here.symm, rfl⟩
          · rw [others slot' here'] at there'
            exact absurd (same.trans stamp) (stamped slot' other there').version_ne
        · exact absurd (others slot here) hit

namespace Evolves

theorem known (evolves : Evolves store after) (known : store.Known slot copy) :
    after.Known slot copy := by
  induction evolves with
  | refl => exact known
  | tail _ changed ih => exact changed.known ih

theorem stamped (evolves : Evolves store after) (stamped : store.Stamped) : after.Stamped := by
  induction evolves with
  | refl => exact stamped
  | tail _ changed ih => exact changed.stamped ih

theorem isSome (evolves : Evolves store after) (lasting : ∀ key, slot ≠ .machineSet key)
    (there : (store.item? slot).isSome = true) : (after.item? slot).isSome = true := by
  induction evolves with
  | refl => exact there
  | tail _ changed ih => exact changed.isSome lasting ih

/-- Once something else is in the slot of a known copy, the copy does not come back. -/
theorem item_ne (evolves : Evolves store after) (known : store.Known slot copy)
    (other : store.item? slot ≠ some copy) : after.item? slot ≠ some copy := by
  induction evolves with
  | refl => exact other
  | @tail middle last before changed ih =>
      by_cases hit : last.item? slot = middle.item? slot
      · rw [hit]
        exact ih
      · exact changed.item_ne (Evolves.known before known) hit

/-- Whatever changes what is in the slot of a known copy puts something else there. -/
theorem item_ne_of_hit (evolves : Evolves store after) (known : store.Known slot copy)
    (hit : after.item? slot ≠ store.item? slot) : after.item? slot ≠ some copy := by
  by_cases stored : store.item? slot = some copy
  · rw [← stored]
    exact hit
  · exact evolves.item_ne known stored

end Evolves

end Steps

/-! ## Calls and events are steps -/

section Kinds

variable {store after : MemoryStore}

theorem Wrote.changed {slot : Slot} {item : Item} (wrote : Wrote store after slot item) :
    Changed store after :=
  .written slot item wrote.stored wrote.stamp wrote.others wrote.version

theorem Wrote.insertMachineSet {key : ObjectKey} {machineSet : MachineSet}
    (machineSets : after.machineSets = store.machineSets.insert key machineSet)
    (stamp : machineSet.metadata.resourceVersion = some store.freshVersion)
    (machines : after.machines = store.machines) (nodes : after.nodes = store.nodes)
    (version : after.version = store.version + 1) :
    Wrote store after (.machineSet key) (.machineSet machineSet) where
  stored := by simp [item?, machineSets]
  stamp := stamp
  others other different := by
    cases other with
    | machineSet key' =>
        have elsewhere : key' ≠ key := fun same => different (congrArg Slot.machineSet same)
        simp [item?, machineSets, SortedMap.get?_insert_of_ne _ elsewhere]
    | machine key' => simp [item?, machines]
    | node name => simp [item?, nodes]
  version := version

theorem Wrote.insertMachine {key : ObjectKey} {machine : Machine}
    (machines : after.machines = store.machines.insert key machine)
    (stamp : machine.metadata.resourceVersion = some store.freshVersion)
    (machineSets : after.machineSets = store.machineSets) (nodes : after.nodes = store.nodes)
    (version : after.version = store.version + 1) :
    Wrote store after (.machine key) (.machine machine) where
  stored := by simp [item?, machines]
  stamp := stamp
  others other different := by
    cases other with
    | machineSet key' => simp [item?, machineSets]
    | machine key' =>
        have elsewhere : key' ≠ key := fun same => different (congrArg Slot.machine same)
        simp [item?, machines, SortedMap.get?_insert_of_ne _ elsewhere]
    | node name => simp [item?, nodes]
  version := version

theorem Wrote.insertNode {name : String} {node : Node}
    (nodes : after.nodes = store.nodes.insert name node)
    (stamp : node.metadata.resourceVersion = some store.freshVersion)
    (machineSets : after.machineSets = store.machineSets)
    (machines : after.machines = store.machines)
    (version : after.version = store.version + 1) :
    Wrote store after (.node name) (.node node) where
  stored := by simp [item?, nodes]
  stamp := stamp
  others other different := by
    cases other with
    | machineSet key => simp [item?, machineSets]
    | machine key => simp [item?, machines]
    | node name' =>
        have elsewhere : name' ≠ name := fun same => different (congrArg Slot.node same)
        simp [item?, nodes, SortedMap.get?_insert_of_ne _ elsewhere]
  version := version

/-- Nothing stored changes. -/
theorem Changed.of_eq (machineSets : after.machineSets = store.machineSets)
    (machines : after.machines = store.machines) (nodes : after.nodes = store.nodes)
    (version : store.version ≤ after.version) : Changed store after := by
  refine .still (fun slot => ?_) version
  cases slot with
  | machineSet key => rw [item?, item?, machineSets]
  | machine key => rw [item?, item?, machines]
  | node name => rw [item?, item?, nodes]

end Kinds

section Events

variable {store : MemoryStore}

theorem changed_serve (store : MemoryStore) (request : Request) :
    Changed store (store.serve request).2 := by
  have served := store.served request
  generalize store.serve request = result at served ⊢
  cases served with
  | updateMachine => exact Wrote.changed (.insertMachine rfl rfl rfl rfl rfl)
  | updateNode => exact Wrote.changed (.insertNode rfl rfl rfl rfl rfl)
  | _ => exact .of_eq rfl rfl rfl (Nat.le_refl _)

theorem changed_withFailures (store : MemoryStore) (pending : Operation → UInt32) :
    Changed store (store.withFailures pending) := .of_eq rfl rfl rfl (Nat.le_refl _)

theorem changed_answer (store : MemoryStore) (request : Request) :
    Changed store (store.answer request).2 := by
  rw [answer]
  split
  · exact changed_withFailures store _
  · exact changed_serve store request

/-- A pass is a number of steps, whatever disturbs it. -/
theorem evolves_passUnder (store : MemoryStore) (fates : List Fate) (ns name : String) :
    Evolves store (store.passUnder fates ns name).2 :=
  passUnder_preserves
    (fun middle pending evolves => evolves.tail (changed_withFailures middle pending))
    (fun middle request evolves => evolves.tail (changed_serve middle request)) .refl fates ns name

/-- Every event is a number of steps. -/
theorem evolves_apply (store : MemoryStore) (event : Event) :
    Evolves store (store.apply event) := by
  cases event with
  | addMachineSet machineSet =>
      exact .single (Wrote.changed (.insertMachineSet rfl rfl rfl rfl rfl))
  | addMachine machine => exact .single (Wrote.changed (.insertMachine rfl rfl rfl rfl rfl))
  | addNode node => exact .single (Wrote.changed (.insertNode rfl rfl rfl rfl rfl))
  | removeMachineSet key =>
      refine .single (.removed key ?_ (fun other different => ?_) (Nat.le_refl _))
      · change ((store.machineSets.erase key).get? key).map _ = none
        rw [SortedMap.get?_erase_self]
        rfl
      · cases other with
        | machineSet key' =>
            have elsewhere : key' ≠ key := fun same => different (congrArg Slot.machineSet same)
            change ((store.machineSets.erase key).get? key').map _ = _
            rw [SortedMap.get?_erase_of_ne _ elsewhere]
            rfl
        | _ => rfl
  | editMachineSet key edit =>
      rw [apply, editMachineSet]
      split
      · exact .single (.of_eq rfl rfl rfl (Nat.le_succ _))
      · exact .single (Wrote.changed (.insertMachineSet rfl rfl rfl rfl rfl))
  | editNode name edit =>
      rw [apply, editNode]
      split
      · exact .single (.of_eq rfl rfl rfl (Nat.le_succ _))
      · exact .single (Wrote.changed (.insertNode rfl rfl rfl rfl rfl))
  | failNext operation =>
      obtain ⟨pending, counted⟩ := store.failNext_eq operation
      rw [apply, counted]
      exact .single (.of_eq rfl rfl rfl (Nat.le_refl _))
  | clearUpdates => exact .single (.of_eq rfl rfl rfl (Nat.le_refl _))
  | call request => exact .single (changed_answer store request)
  | pass fates ns name => exact evolves_passUnder store fates ns name

/-- In every store that comes about each object has a stamp of its own. -/
theorem stamped_of_reachable (reachable : store.Reachable) : store.Stamped := by
  induction reachable with
  | empty =>
      intro slot item there
      cases slot <;> cases there
  | apply event _ ih => exact (evolves_apply _ event).stamped ih

/-- A stored machine is known. -/
theorem Reachable.known_machine (reachable : store.Reachable) {key : ObjectKey} {machine : Machine}
    (found : store.machines.get? key = some machine) :
    store.Known (.machine key) (.machine machine) := by
  apply stamped_of_reachable reachable
  simp [item?, found]

/-- So is a stored node. -/
theorem Reachable.known_node (reachable : store.Reachable) {name : String} {node : Node}
    (there : store.nodes.get? name = some node) : store.Known (.node name) (.node node) := by
  apply stamped_of_reachable reachable
  simp [item?, there]

end Events

end MemoryStore

/-! ## Updates -/

/-- What a call is to put where, if it is an update of an object that has a name. -/
def Request.update? : Request → Option (Slot × Item)
  | .updateMachine machine => some (.machine machine.place, .machine machine)
  | .updateNode node => node.metadata.name.map fun name => (.node name, .node node)
  | _ => none

theorem Request.update?_updateNode {node : Node} {name : String}
    (named : node.metadata.name = some name) :
    (Request.updateNode node).update? = some (.node name, .node node) := by
  simp [Request.update?, named]

namespace MemoryStore

section Updates

variable {store : MemoryStore} {request : Request} {slot slot' : Slot} {item copy : Item}

theorem replaceMeta_of_stale (store : MemoryStore) (subject : String) {stored incoming : ObjectMeta}
    (carried : incoming.resourceVersion.isSome = true)
    (stale : incoming.resourceVersion ≠ stored.resourceVersion) :
    ∃ what, store.replaceMeta subject stored incoming = .error (.conflict what) := by
  rw [replaceMeta, if_pos ⟨carried, stale⟩]
  exact ⟨_, rfl⟩

/-- An update that carries another stamp than the stored object has is a conflict. -/
theorem serve_update_of_stale {stored : Item} (updates : request.update? = some (slot, item))
    (there : store.item? slot = some stored) (carried : item.version.isSome = true)
    (stale : item.version ≠ stored.version) :
    ∃ what, store.serve request = (.error (.conflict what), store) := by
  cases request with
  | updateMachine machine =>
      cases updates
      obtain ⟨found, here, rfl⟩ := Option.map_eq_some_iff.mp there
      obtain ⟨what, refused⟩ := store.replaceMeta_of_stale
        (Request.updateMachine machine).subject carried stale
      have place : store.machines.get? (ObjectKey.ofMeta machine.metadata) = some found := here
      refine ⟨what, ?_⟩
      rw [serve, replaceMachine]
      dsimp only
      rw [place]
      dsimp only
      rw [refused]
      rfl
  | updateNode node =>
      obtain ⟨name, named, same⟩ := Option.map_eq_some_iff.mp updates
      cases same
      obtain ⟨found, here, rfl⟩ := Option.map_eq_some_iff.mp there
      obtain ⟨what, refused⟩ := store.replaceMeta_of_stale
        (Request.updateNode node).subject carried stale
      refine ⟨what, ?_⟩
      rw [serve, replaceNode, named]
      dsimp only
      rw [here]
      dsimp only
      rw [refused]
      rfl
  | _ => cases updates

/-- An update that goes through and carries a stamp replaces an object with that stamp. -/
theorem item_of_serve_update {answer : request.Answer}
    (updates : request.update? = some (slot, item)) (carried : item.version.isSome = true)
    (succeeds : (store.serve request).1 = .ok answer) :
    ∃ stored, store.item? slot = some stored ∧ stored.version = item.version := by
  have served := store.served request
  generalize store.serve request = result at served succeeds
  cases served with
  | @updateMachine machine stored found current =>
      cases updates
      refine ⟨.machine stored, ?_, (current carried).symm⟩
      rw [item?, found]
      rfl
  | @updateNode name node stored named found current =>
      rw [Request.update?, named] at updates
      cases updates
      refine ⟨.node stored, ?_, (current carried).symm⟩
      rw [item?, found]
      rfl
  | refused => cases succeeds
  | _ => cases updates

theorem Known.isSome_version (known : store.Known slot copy) : copy.version.isSome = true := by
  obtain ⟨number, -, version⟩ := known.given
  rw [version]
  rfl

/-- An update that carries the stamp of a known copy goes through only if that copy is stored. -/
theorem Known.item_of_serve {answer : request.Answer} (known : store.Known slot' copy)
    (updates : request.update? = some (slot, item)) (carries : item.version = copy.version)
    (succeeds : (store.serve request).1 = .ok answer) :
    slot' = slot ∧ store.item? slot = some copy := by
  have carried : item.version.isSome = true := by
    rw [carries]
    exact known.isSome_version
  obtain ⟨stored, there, same⟩ := item_of_serve_update updates carried succeeds
  obtain ⟨rfl, rfl⟩ := known.only slot stored there (same.trans carries)
  exact ⟨rfl, there⟩

/-- An update that carries the stamp of a known copy is a conflict if that copy is not what is
stored in the slot of the update. -/
theorem Known.serve_conflict (known : store.Known slot' copy)
    (updates : request.update? = some (slot, item)) (carries : item.version = copy.version)
    (there : (store.item? slot).isSome = true)
    (other : slot' = slot → store.item? slot ≠ some copy) :
    ∃ what, store.serve request = (.error (.conflict what), store) := by
  obtain ⟨stored, found⟩ := Option.isSome_iff_exists.mp there
  refine serve_update_of_stale updates found ?_ ?_
  · rw [carries]
    exact known.isSome_version
  · intro same
    obtain ⟨rfl, rfl⟩ := known.only slot stored found (same.symm.trans carries)
    exact other rfl found

end Updates

end MemoryStore

end NodeSync
