/-
Module: NodeSync.Proofs.Store.Refusals
Purpose: The errors of the store's own. A call that is carried out fails for one of three reasons,
  each of which is said of the store and of what the call names, and it fails whenever one of them
  is given. A refused call leaves the store as it is.
Main exports: Request.slot?, MemoryStore.Refusal, MemoryStore.serve_eq_error_iff,
  MemoryStore.conflict_of_serve, MemoryStore.serve_of_error
-/
import NodeSync.Proofs.Store.Stamps

namespace NodeSync

set_option autoImplicit false

/-- The slot of the one object that a call asks for or replaces, if it names one. -/
def Request.slot? : Request → Option Slot
  | .getMachineSet ns name => some (.machineSet ⟨ns, name⟩)
  | .listMachineSets _ | .listMachines _ => none
  | .updateMachine machine => some (.machine machine.place)
  | .getNode name => some (.node name)
  | .updateNode node => node.metadata.name.map .node

namespace MemoryStore

/-- The errors of the store's own: there is no such object, the object has another version than the
update carries, or the update is of a node without a name. -/
inductive Refusal (store : MemoryStore) : Request → StoreError → Prop where
  | missing {request : Request} {slot : Slot} (named : request.slot? = some slot)
      (absent : store.item? slot = none) : Refusal store request (.notFound request.subject)
  | stale {request : Request} {slot : Slot} {item stored : Item}
      (updates : request.update? = some (slot, item)) (there : store.item? slot = some stored)
      (carried : item.version.isSome = true) (differs : item.version ≠ stored.version) :
      Refusal store request (.conflict (request.subject ++
        ": the object has been modified; please apply your changes " ++
        "to the latest version and try again"))
  | nameless {node : Node} (unnamed : node.metadata.name = none) :
      Refusal store (.updateNode node) (.invalidObject "Node missing metadata.name")

section Refusals

variable {store : MemoryStore} {request : Request} {error : StoreError}

theorem found_eq_error_iff {α : Type} {subject : String} {object : Option α} :
    found subject object = .error error ↔ object = none ∧ error = .notFound subject := by
  cases object with
  | none => simp [found, eq_comm]
  | some object => simp [found]

/-- Only a version that is given and is not the stored one is refused. -/
theorem replaceMeta_eq_error_iff {subject : String} {stored incoming : ObjectMeta} :
    store.replaceMeta subject stored incoming = .error error ↔
      (incoming.resourceVersion.isSome = true ∧
        incoming.resourceVersion ≠ stored.resourceVersion) ∧
      error = .conflict (subject ++ ": the object has been modified; please apply your changes " ++
        "to the latest version and try again") := by
  rw [replaceMeta]
  split
  · rename_i stale
    simp [stale.1, stale.2, eq_comm]
  · rename_i current
    simp [current]

/-- A machine is refused where none is stored, or for its version. -/
theorem replaceMachine_eq_error_iff {machine : Machine} :
    (store.replaceMachine machine).1 = .error error ↔
      (store.machines.get? machine.place = none ∧
        error = .notFound (Request.updateMachine machine).subject) ∨
      ∃ stored, store.machines.get? machine.place = some stored ∧
        store.replaceMeta (Request.updateMachine machine).subject stored.metadata
          machine.metadata = .error error := by
  rw [replaceMachine]
  dsimp only
  change _ ↔ (store.machines.get? (ObjectKey.ofMeta machine.metadata) = none ∧ _) ∨
    ∃ stored, store.machines.get? (ObjectKey.ofMeta machine.metadata) = some stored ∧ _
  cases store.machines.get? (ObjectKey.ofMeta machine.metadata) with
  | none => simp [eq_comm]
  | some stored =>
      cases replaced : store.replaceMeta (Request.updateMachine machine).subject stored.metadata
        machine.metadata with
      | error conflict => simp [replaced]
      | ok metadata => simp [replaced]

/-- A node is refused if it has no name, where none is stored, or for its version. -/
theorem replaceNode_eq_error_iff {node : Node} :
    (store.replaceNode node).1 = .error error ↔
      (node.metadata.name = none ∧ error = .invalidObject "Node missing metadata.name") ∨
      ∃ name, node.metadata.name = some name ∧
        ((store.nodes.get? name = none ∧ error = .notFound (Request.updateNode node).subject) ∨
          ∃ stored, store.nodes.get? name = some stored ∧
            store.replaceMeta (Request.updateNode node).subject stored.metadata node.metadata =
              .error error) := by
  rw [replaceNode]
  cases node.metadata.name with
  | none => simp [eq_comm]
  | some name =>
      dsimp only
      cases there : store.nodes.get? name with
      | none => simp [there, eq_comm]
      | some stored =>
          cases replaced : store.replaceMeta (Request.updateNode node).subject stored.metadata
            node.metadata with
          | error conflict => simp [there, replaced]
          | ok metadata => simp [there, replaced]

/-- A call that the store carries out fails exactly with one of its own errors. -/
theorem serve_eq_error_iff :
    (store.serve request).1 = .error error ↔ store.Refusal request error := by
  constructor
  · intro refused
    cases request with
    | getMachineSet ns name =>
        obtain ⟨absent, rfl⟩ := found_eq_error_iff.mp refused
        exact .missing rfl (congrArg (Option.map Item.machineSet) absent)
    | listMachineSets ns => cases refused
    | listMachines ns => cases refused
    | updateMachine machine =>
        obtain ⟨absent, rfl⟩ | ⟨stored, there, refused⟩ := replaceMachine_eq_error_iff.mp refused
        · exact .missing rfl (congrArg (Option.map Item.machine) absent)
        · obtain ⟨⟨carried, differs⟩, rfl⟩ := replaceMeta_eq_error_iff.mp refused
          exact .stale rfl (congrArg (Option.map Item.machine) there) carried differs
    | getNode name =>
        obtain ⟨absent, rfl⟩ := found_eq_error_iff.mp refused
        exact .missing rfl (congrArg (Option.map Item.node) absent)
    | updateNode node =>
        obtain ⟨unnamed, rfl⟩ | ⟨name, named, ⟨absent, rfl⟩ | ⟨stored, there, refused⟩⟩ :=
          replaceNode_eq_error_iff.mp refused
        · exact .nameless unnamed
        · exact .missing (congrArg (Option.map Slot.node) named)
            (congrArg (Option.map Item.node) absent)
        · obtain ⟨⟨carried, differs⟩, rfl⟩ := replaceMeta_eq_error_iff.mp refused
          exact .stale (Request.update?_updateNode named)
            (congrArg (Option.map Item.node) there) carried differs
  · intro refusal
    cases refusal with
    | missing named absent =>
        cases request with
        | getMachineSet ns name =>
            cases named
            exact found_eq_error_iff.mpr ⟨Option.map_eq_none_iff.mp absent, rfl⟩
        | listMachineSets ns => cases named
        | listMachines ns => cases named
        | updateMachine machine =>
            cases named
            exact replaceMachine_eq_error_iff.mpr (.inl ⟨Option.map_eq_none_iff.mp absent, rfl⟩)
        | getNode name =>
            cases named
            exact found_eq_error_iff.mpr ⟨Option.map_eq_none_iff.mp absent, rfl⟩
        | updateNode node =>
            obtain ⟨name, given, rfl⟩ := Option.map_eq_some_iff.mp named
            exact replaceNode_eq_error_iff.mpr
              (.inr ⟨name, given, .inl ⟨Option.map_eq_none_iff.mp absent, rfl⟩⟩)
    | stale updates there carried differs =>
        cases request with
        | updateMachine machine =>
            cases updates
            obtain ⟨stored, found, rfl⟩ := Option.map_eq_some_iff.mp there
            exact replaceMachine_eq_error_iff.mpr
              (.inr ⟨stored, found, replaceMeta_eq_error_iff.mpr ⟨⟨carried, differs⟩, rfl⟩⟩)
        | updateNode node =>
            obtain ⟨name, named, same⟩ := Option.map_eq_some_iff.mp updates
            cases same
            obtain ⟨stored, found, rfl⟩ := Option.map_eq_some_iff.mp there
            exact replaceNode_eq_error_iff.mpr (.inr ⟨name, named,
              .inr ⟨stored, found, replaceMeta_eq_error_iff.mpr ⟨⟨carried, differs⟩, rfl⟩⟩⟩)
        | _ => cases updates
    | nameless unnamed => exact replaceNode_eq_error_iff.mpr (.inl ⟨unnamed, rfl⟩)

/-- An update of an object that is there is refused for its version only. -/
theorem conflict_of_serve {slot : Slot} {item : Item}
    (updates : request.update? = some (slot, item)) (there : (store.item? slot).isSome = true)
    (refused : (store.serve request).1 = .error error) : ∃ what, error = .conflict what := by
  cases serve_eq_error_iff.mp refused with
  | missing named absent =>
      have same : request.slot? = some slot := by
        cases request with
        | updateMachine machine =>
            cases updates
            rfl
        | updateNode node =>
            obtain ⟨name, given, same⟩ := Option.map_eq_some_iff.mp updates
            cases same
            exact Option.map_eq_some_iff.mpr ⟨name, given, rfl⟩
        | _ => cases updates
      cases same.symm.trans named
      rw [absent] at there
      cases there
  | stale => exact ⟨_, rfl⟩
  | nameless unnamed =>
      rw [Request.update?, unnamed] at updates
      cases updates

end Refusals

end MemoryStore

end NodeSync
