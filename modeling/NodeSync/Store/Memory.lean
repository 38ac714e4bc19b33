/-
Module: NodeSync.Store.Memory
Purpose: A store that holds its objects in memory and behaves like the API server where the
  synchronisation can see it: objects carry versions from one counter, an update with another
  version than the stored one is a conflict, and an update never changes a status. Failures of
  calls can be ordered in advance, and every successful update is recorded.
Main exports: ObjectKey, MemoryStore, MemoryStore.answer, MemoryStore.addMachineSet,
  MemoryStore.addMachine, MemoryStore.addNode, MemoryStore.editMachineSet, MemoryStore.editNode,
  MemoryStore.failNext?, MemoryStore.failNext
-/
import NodeSync.Store.Request

namespace NodeSync

open NodeSync.Text

set_option autoImplicit false

/-- The place of an object with a namespace. Places are ordered by namespace, then by name. -/
structure ObjectKey where
  ns : String
  name : String
deriving Repr, Inhabited, DecidableEq

namespace ObjectKey

instance : Ord ObjectKey :=
  ⟨compareLex (compareOn ObjectKey.ns) (compareOn ObjectKey.name)⟩

instance : Std.TransOrd ObjectKey :=
  inferInstanceAs
    (Std.TransCmp (compareLex (compareOn ObjectKey.ns) (compareOn ObjectKey.name)))

instance : Std.LawfulEqOrd ObjectKey where
  eq_of_compare {first second} h := by
    rcases first with ⟨ns, name⟩
    rcases second with ⟨ns', name'⟩
    have both : compare ns ns' = .eq ∧ compare name name' = .eq := by
      simpa [compare, compareLex, compareOn, Ordering.then_eq_eq] using h
    rw [Std.LawfulEqOrd.eq_of_compare both.1, Std.LawfulEqOrd.eq_of_compare both.2]

/-- The place that the metadata of an object names. -/
def ofMeta (metadata : ObjectMeta) : ObjectKey :=
  ⟨metadata.ns.getD defaultNamespace, metadata.name.getD ""⟩

/-- The place in writing. -/
def text (key : ObjectKey) : String := key.ns ++ "/" ++ key.name

end ObjectKey

/-- A successful update. -/
inductive UpdateRecord where
  | machine (name : String)
  | node (name : String)
deriving Repr, Inhabited, DecidableEq

/-- The state of the store. -/
structure MemoryStore where
  machineSets : SortedMap ObjectKey MachineSet
  machines : SortedMap ObjectKey Machine
  nodes : SortedMap String Node
  /-- How many of the next calls of each kind are to fail, in 32 bits. -/
  pendingFailures : Operation → UInt32
  /-- The successful updates, oldest first. -/
  updates : List UpdateRecord
  /-- The version given out last. -/
  version : Nat
  /-- How many UIDs have been given out. -/
  uids : Nat

namespace MemoryStore

/-- The store without objects. -/
def empty : MemoryStore :=
  ⟨SortedMap.empty, SortedMap.empty, SortedMap.empty, fun _ => 0, [], 0, 0⟩

instance : Inhabited MemoryStore := ⟨empty⟩

/-- The version that is given out next, in writing. -/
def freshVersion (store : MemoryStore) : String := decimal (store.version + 1)

/-- Uses up the next version. -/
def bump (store : MemoryStore) : MemoryStore := { store with version := store.version + 1 }

/-- The UID of a given number, in the form that UIDs have. -/
def uid (number : Nat) : String :=
  "00000000-0000-4000-8000-" ++ String.ofList (zeroPadded 12 (Nat.toDigits 10 number))

/-- The UID that is given out next. -/
def freshUid (store : MemoryStore) : String := uid (store.uids + 1)

/-- Completes the metadata of a new object: a UID if it has none, and a version. -/
def register (store : MemoryStore) (metadata : ObjectMeta) : ObjectMeta × MemoryStore :=
  let (uid, uids) := match metadata.uid with
    | some uid => (uid, store.uids)
    | none => (store.freshUid, store.uids + 1)
  ({ metadata with uid := some uid, resourceVersion := some store.freshVersion },
    { store.bump with uids := uids })

/-- Stores a machine set at the place its metadata names. -/
def addMachineSet (store : MemoryStore) (machineSet : MachineSet) : MachineSet × MemoryStore :=
  let (metadata, store) := store.register machineSet.metadata
  let machineSet := { machineSet with metadata := metadata }
  (machineSet,
    { store with machineSets := store.machineSets.insert (.ofMeta metadata) machineSet })

/-- Stores a machine at the place its metadata names. -/
def addMachine (store : MemoryStore) (machine : Machine) : Machine × MemoryStore :=
  let (metadata, store) := store.register machine.metadata
  let machine := { machine with metadata := metadata }
  (machine, { store with machines := store.machines.insert (.ofMeta metadata) machine })

/-- Stores a node under its name. -/
def addNode (store : MemoryStore) (node : Node) : Node × MemoryStore :=
  let (metadata, store) := store.register node.metadata
  let node := { node with metadata := metadata }
  (node, { store with nodes := store.nodes.insert (metadata.name.getD "") node })

/-- Removes a machine set, if there is one at the place. -/
def removeMachineSet (store : MemoryStore) (key : ObjectKey) : MemoryStore :=
  { store with machineSets := store.machineSets.erase key }

/-- Changes a stored machine set as some other client would. A version is used up even if there
is no such machine set. -/
def editMachineSet (store : MemoryStore) (key : ObjectKey) (edit : MachineSet → MachineSet) :
    MemoryStore :=
  match store.machineSets.get? key with
  | none => store.bump
  | some machineSet =>
      let edited := edit machineSet
      let edited := { edited with metadata :=
        { edited.metadata with resourceVersion := some store.freshVersion } }
      { store.bump with machineSets := store.machineSets.insert key edited }

/-- Changes a stored node as some other client would. A version is used up even if there is no
such node. -/
def editNode (store : MemoryStore) (name : String) (edit : Node → Node) : MemoryStore :=
  match store.nodes.get? name with
  | none => store.bump
  | some node =>
      let edited := edit node
      let edited := { edited with metadata :=
        { edited.metadata with resourceVersion := some store.freshVersion } }
      { store.bump with nodes := store.nodes.insert name edited }

/-- Orders one more failure of the next calls of a kind. The count has 32 bits and its addition is
checked, as builds for tests check it by default: an order that the count has no room for panics,
and no store comes of it. -/
def failNext? (store : MemoryStore) (operation : Operation) : Option MemoryStore :=
  if (store.pendingFailures operation).toNat + 1 < UInt32.size then
    some { store with pendingFailures := fun other =>
      if other = operation then store.pendingFailures other + 1 else store.pendingFailures other }
  else none

/-- The store after a failure was ordered. An order that panics has counted nothing. -/
def failNext (store : MemoryStore) (operation : Operation) : MemoryStore :=
  (store.failNext? operation).getD store

/-- Uses up one ordered failure of a kind. -/
def takeFailure (store : MemoryStore) (operation : Operation) : MemoryStore :=
  { store with pendingFailures := fun other =>
      if other = operation then store.pendingFailures other - 1 else store.pendingFailures other }

/-- Forgets the recorded updates; the objects are kept. -/
def clearUpdates (store : MemoryStore) : MemoryStore := { store with updates := [] }

/-- The metadata that an update stores, unless it carries another version than the stored one. -/
def replaceMeta (store : MemoryStore) (subject : String) (stored incoming : ObjectMeta) :
    Except StoreError ObjectMeta :=
  if incoming.resourceVersion.isSome ∧ incoming.resourceVersion ≠ stored.resourceVersion then
    .error (.conflict (subject ++ ": the object has been modified; please apply your changes " ++
      "to the latest version and try again"))
  else
    .ok { incoming with uid := stored.uid, resourceVersion := some store.freshVersion }

/-- Replaces a stored machine by the given one, its status excepted. -/
def replaceMachine (store : MemoryStore) (machine : Machine) :
    Except StoreError Machine × MemoryStore :=
  let subject := (Request.updateMachine machine).subject
  let key := ObjectKey.ofMeta machine.metadata
  match store.machines.get? key with
  | none => (.error (.notFound subject), store)
  | some stored =>
      match store.replaceMeta subject stored.metadata machine.metadata with
      | .error conflict => (.error conflict, store)
      | .ok metadata =>
          let updated := { machine with metadata := metadata, status := stored.status }
          (.ok updated,
            { store.bump with
              machines := store.machines.insert key updated
              updates := store.updates ++ [.machine key.name] })

/-- Replaces a stored node by the given one, its status excepted. -/
def replaceNode (store : MemoryStore) (node : Node) : Except StoreError Node × MemoryStore :=
  match node.metadata.name with
  | none => (.error (.invalidObject "Node missing metadata.name"), store)
  | some name =>
      let subject := (Request.updateNode node).subject
      match store.nodes.get? name with
      | none => (.error (.notFound subject), store)
      | some stored =>
          match store.replaceMeta subject stored.metadata node.metadata with
          | .error conflict => (.error conflict, store)
          | .ok metadata =>
              let updated := { node with metadata := metadata, status := stored.status }
              (.ok updated,
                { store.bump with
                  nodes := store.nodes.insert name updated
                  updates := store.updates ++ [.node name] })

/-- The objects of a namespace, ordered by name. -/
def inNamespace {α : Type} (objects : SortedMap ObjectKey α) (ns : String) : List α :=
  (objects.toList.filter fun entry => entry.1.ns == ns).map (·.2)

/-- A found object, or the error that there is none. -/
def found {α : Type} (subject : String) : Option α → Except StoreError α
  | some object => .ok object
  | none => .error (.notFound subject)

/-- Carries out a call that is not ordered to fail. -/
def serve (store : MemoryStore) : (request : Request) → request.Reply × MemoryStore
  | .getMachineSet ns name =>
      (found (Request.getMachineSet ns name).subject (store.machineSets.get? ⟨ns, name⟩), store)
  | .listMachineSets ns => (.ok (inNamespace store.machineSets ns), store)
  | .listMachines ns => (.ok (inNamespace store.machines ns), store)
  | .updateMachine machine => store.replaceMachine machine
  | .getNode name => (found (Request.getNode name).subject (store.nodes.get? name), store)
  | .updateNode node => store.replaceNode node

/-- Carries out a call. An ordered failure comes before everything else. -/
def answer (store : MemoryStore) (request : Request) : request.Reply × MemoryStore :=
  if 0 < store.pendingFailures request.operation then
    (.error (.unavailable ("injected failure for " ++ request.operation.name)),
      store.takeFailure request.operation)
  else store.serve request

end MemoryStore

end NodeSync
