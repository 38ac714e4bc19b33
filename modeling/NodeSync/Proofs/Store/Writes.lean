/-
Module: NodeSync.Proofs.Store.Writes
Purpose: Updates of a store in memory. An update that revises the stored object, and nothing of it
  that names the object or its version, succeeds and changes that object only. The machines that a
  set selects in a store, and the nodes that they go to, are the same in two stores whose machines
  differ in what passes write only.
Main exports: MemoryStore.Placed, MemoryStore.putMachine, MemoryStore.putNode, Machine.Revises,
  Node.Revises, MemoryStore.serve_updateMachine, MemoryStore.serve_updateNode, MemoryStore.served,
  MemoryStore.selected, MemoryStore.selected_unmanaged
-/
import NodeSync.Proofs.Content
import NodeSync.Proofs.Selection
import NodeSync.Provenance

namespace NodeSync

set_option autoImplicit false

/-! ## Revised objects -/

/-- A machine carries the metadata and the status of the stored one. -/
structure Machine.Revises (stored machine : Machine) : Prop where
  metadata : machine.metadata = stored.metadata
  status : machine.status = stored.status

/-- A node carries the name, the UID, the version and the status of the stored one. -/
structure Node.Revises (stored node : Node) : Prop where
  name : node.metadata.name = stored.metadata.name
  uid : node.metadata.uid = stored.metadata.uid
  version : node.metadata.resourceVersion = stored.metadata.resourceVersion
  status : node.status = stored.status

/-- A machine is revised at its own place, and in the version that it was read in. -/
theorem Machine.Revises.place {stored machine : Machine} (revises : stored.Revises machine) :
    machine.place = stored.place := congrArg ObjectKey.ofMeta revises.metadata

theorem Machine.Revises.version {stored machine : Machine} (revises : stored.Revises machine) :
    machine.metadata.resourceVersion = stored.metadata.resourceVersion :=
  congrArg ObjectMeta.resourceVersion revises.metadata

theorem Machine.revises_setNodeLabels (machine : Machine) (labels : Labels) :
    machine.Revises (machine.setNodeLabels labels) := ⟨rfl, rfl⟩

theorem Machine.revises_setTaints (machine : Machine) (taints : List Taint) :
    machine.Revises (machine.setTaints taints) := ⟨rfl, rfl⟩

theorem Node.revises_syncNodeLabels (node : Node) (expected : Labels) :
    node.Revises (syncNodeLabels node expected).1 := by
  rw [syncNodeLabels]
  split
  · exact ⟨rfl, rfl, rfl, rfl⟩
  · exact ⟨rfl, rfl, rfl, rfl⟩

/-- The machine as an update stores it: with the UID and the status of the one that it replaces. -/
def Machine.replacing (machine stored : Machine) : Machine :=
  { machine with
    metadata := { machine.metadata with uid := stored.metadata.uid }
    status := stored.status }

/-- The node as an update stores it: with the UID and the status of the one that it replaces. -/
def Node.replacing (node stored : Node) : Node :=
  { node with
    metadata := { node.metadata with uid := stored.metadata.uid }
    status := stored.status }

namespace MemoryStore

/-! ## Places -/

/-- Every object is stored under its own namespace and name. -/
structure Placed (store : MemoryStore) : Prop where
  machineSets : ∀ key machineSet, store.machineSets.get? key = some machineSet →
    ObjectKey.ofMeta machineSet.metadata = key
  machines : ∀ key machine, store.machines.get? key = some machine → machine.place = key
  nodes : ∀ name node, store.nodes.get? name = some node → node.metadata.name.getD "" = name

/-- It is enough to look through the entries. -/
theorem placed_of_all {store : MemoryStore}
    (machineSets : ∀ entry ∈ store.machineSets.toList,
      ObjectKey.ofMeta entry.2.metadata = entry.1)
    (machines : ∀ entry ∈ store.machines.toList, entry.2.place = entry.1)
    (nodes : ∀ entry ∈ store.nodes.toList, entry.2.metadata.name.getD "" = entry.1) :
    store.Placed where
  machineSets key machineSet there :=
    machineSets (key, machineSet) (SortedMap.get?_eq_some_iff_mem.mp there)
  machines key machine there := machines (key, machine) (SortedMap.get?_eq_some_iff_mem.mp there)
  nodes name node there := nodes (name, node) (SortedMap.get?_eq_some_iff_mem.mp there)

/-- Objects stay at their places if they change in what passes write only, and nodes in all but
their names. -/
theorem Placed.of_unmanaged {store after : MemoryStore} (placed : store.Placed)
    (machineSets : after.machineSets = store.machineSets)
    (unmanaged : ∀ key, (after.machines.get? key).map Machine.unmanaged =
      (store.machines.get? key).map Machine.unmanaged)
    (nodeNames : ∀ name, (after.nodes.get? name).map (·.metadata.name) =
      (store.nodes.get? name).map (·.metadata.name)) : after.Placed where
  machineSets key machineSet found := placed.machineSets key machineSet (machineSets ▸ found)
  machines key machine found := by
    have same := unmanaged key
    rw [found] at same
    obtain ⟨old, found', unmanaged⟩ := Option.map_eq_some_iff.mp same.symm
    rw [← Machine.place_unmanaged, ← unmanaged, Machine.place_unmanaged]
    exact placed.machines key old found'
  nodes name node found := by
    have same := nodeNames name
    rw [found] at same
    obtain ⟨old, found', named⟩ := Option.map_eq_some_iff.mp same.symm
    have own := placed.nodes name old found'
    rw [named] at own
    exact own

/-- A node that is stored under its own name, which is not empty, has that name. -/
theorem Placed.nodeName {store : MemoryStore} (placed : store.Placed) {name : String} {node : Node}
    (found : store.nodes.get? name = some node) (filled : name ≠ "") :
    node.metadata.name = some name := by
  have own := placed.nodes name node found
  cases named : node.metadata.name with
  | none =>
      rw [named] at own
      exact absurd own.symm filled
  | some other =>
      rw [named] at own
      exact congrArg some own

/-! ## Updates -/

/-- The store after an update of the machine at a place. -/
def putMachine (store : MemoryStore) (key : ObjectKey) (machine : Machine) : MemoryStore :=
  { store.bump with
    machines := store.machines.insert key (machine.withVersion (some store.freshVersion))
    updates := store.updates ++ [.machine key.name] }

/-- The store after an update of the node under a name. -/
def putNode (store : MemoryStore) (name : String) (node : Node) : MemoryStore :=
  { store.bump with
    nodes := store.nodes.insert name (node.withVersion (some store.freshVersion))
    updates := store.updates ++ [.node name] }

theorem replaceMeta_same_version (store : MemoryStore) (subject : String)
    {stored incoming : ObjectMeta} (version : incoming.resourceVersion = stored.resourceVersion) :
    store.replaceMeta subject stored incoming =
      .ok { incoming with uid := stored.uid, resourceVersion := some store.freshVersion } := by
  rw [replaceMeta, if_neg]
  exact fun other => other.2 version

/-- A revision of a stored machine is stored, under a fresh version. -/
theorem serve_updateMachine {store : MemoryStore} {stored machine : Machine}
    (found : store.machines.get? stored.place = some stored) (revises : stored.Revises machine) :
    store.serve (.updateMachine machine) =
      (.ok (machine.withVersion (some store.freshVersion)),
        store.putMachine stored.place machine) := by
  rcases machine with ⟨metadata, spec, status⟩
  obtain ⟨rfl, rfl⟩ := revises
  have here : store.machines.get? (ObjectKey.ofMeta stored.metadata) = some stored := found
  change store.replaceMachine _ = _
  rw [replaceMachine]
  dsimp only
  rw [here]
  dsimp only
  rw [replaceMeta_same_version store _ rfl]
  rfl

/-- A revision of a stored node is stored, under a fresh version. -/
theorem serve_updateNode {store : MemoryStore} {name : String} {stored node : Node}
    (found : store.nodes.get? name = some stored) (named : stored.metadata.name = some name)
    (revises : stored.Revises node) :
    store.serve (.updateNode node) =
      (.ok (node.withVersion (some store.freshVersion)), store.putNode name node) := by
  change store.replaceNode node = _
  rw [replaceNode, revises.name, named]
  dsimp only
  rw [found]
  dsimp only
  rw [replaceMeta_same_version store _ revises.version, ← revises.uid, ← revises.status]
  rfl

theorem serve_getNode {store : MemoryStore} {name : String} {node : Node}
    (found : store.nodes.get? name = some node) :
    store.serve (.getNode name) = (.ok node, store) := by
  change (MemoryStore.found _ (store.nodes.get? name), store) = _
  rw [found]
  rfl

/-! ## What a call does -/

/-- What comes of a call that the store carries out. An update that goes through carries the version
of the object that it replaces, if it carries one; everything else leaves the store as it is. -/
inductive Served (store : MemoryStore) :
    (request : Request) → request.Reply × MemoryStore → Prop where
  | readMachineSet {ns name : String} {machineSet : MachineSet}
      (found : store.machineSets.get? ⟨ns, name⟩ = some machineSet) :
      Served store (.getMachineSet ns name) (.ok machineSet, store)
  | listMachineSets (ns : String) :
      Served store (.listMachineSets ns) (.ok (inNamespace store.machineSets ns), store)
  | listMachines (ns : String) :
      Served store (.listMachines ns) (.ok (inNamespace store.machines ns), store)
  | readNode {name : String} {node : Node} (found : store.nodes.get? name = some node) :
      Served store (.getNode name) (.ok node, store)
  | updateMachine {machine stored : Machine}
      (found : store.machines.get? machine.place = some stored)
      (current : machine.metadata.resourceVersion.isSome = true →
        machine.metadata.resourceVersion = stored.metadata.resourceVersion) :
      Served store (.updateMachine machine)
        (.ok ((machine.replacing stored).withVersion (some store.freshVersion)),
          store.putMachine machine.place (machine.replacing stored))
  | updateNode {name : String} {node stored : Node} (named : node.metadata.name = some name)
      (found : store.nodes.get? name = some stored)
      (current : node.metadata.resourceVersion.isSome = true →
        node.metadata.resourceVersion = stored.metadata.resourceVersion) :
      Served store (.updateNode node)
        (.ok ((node.replacing stored).withVersion (some store.freshVersion)),
          store.putNode name (node.replacing stored))
  | refused {request : Request} (error : StoreError) : Served store request (.error error, store)

theorem replaceMeta_cases (store : MemoryStore) (subject : String) (stored incoming : ObjectMeta) :
    (∃ error, store.replaceMeta subject stored incoming = .error error) ∨
      ((incoming.resourceVersion.isSome = true →
          incoming.resourceVersion = stored.resourceVersion) ∧
        store.replaceMeta subject stored incoming =
          .ok { incoming with uid := stored.uid, resourceVersion := some store.freshVersion }) := by
  rw [replaceMeta]
  split
  · exact .inl ⟨_, rfl⟩
  · rename_i current
    refine .inr ⟨fun carried => ?_, rfl⟩
    by_cases same : incoming.resourceVersion = stored.resourceVersion
    · exact same
    · exact absurd ⟨carried, same⟩ current

/-- Every call is served in one of these ways. -/
theorem served (store : MemoryStore) (request : Request) :
    Served store request (store.serve request) := by
  cases request with
  | updateMachine machine =>
      rw [serve, replaceMachine]
      dsimp only
      cases found : store.machines.get? (ObjectKey.ofMeta machine.metadata) with
      | none => exact .refused _
      | some stored =>
          dsimp only
          rcases store.replaceMeta_cases (Request.updateMachine machine).subject stored.metadata
            machine.metadata with ⟨error, refused⟩ | ⟨current, replaced⟩
          · rw [refused]
            exact .refused _
          · rw [replaced]
            exact .updateMachine found current
  | updateNode node =>
      rw [serve, replaceNode]
      cases named : node.metadata.name with
      | none => exact .refused _
      | some name =>
          dsimp only
          cases found : store.nodes.get? name with
          | none => exact .refused _
          | some stored =>
              dsimp only
              rcases store.replaceMeta_cases (Request.updateNode node).subject stored.metadata
                node.metadata with ⟨error, refused⟩ | ⟨current, replaced⟩
              · rw [refused]
                exact .refused _
              · rw [replaced]
                exact .updateNode named found current
  | getMachineSet ns name =>
      rw [serve]
      cases found : store.machineSets.get? ⟨ns, name⟩ with
      | none => exact .refused _
      | some machineSet => exact .readMachineSet found
  | getNode name =>
      rw [serve]
      cases found : store.nodes.get? name with
      | none => exact .refused _
      | some node => exact .readNode found
  | listMachineSets ns => exact .listMachineSets ns
  | listMachines ns => exact .listMachines ns

/-- To order a failure changes nothing but the count. -/
theorem failNext_eq (store : MemoryStore) (operation : Operation) :
    ∃ pending, store.failNext operation = { store with pendingFailures := pending } := by
  rw [failNext, failNext?]
  split
  · exact ⟨_, rfl⟩
  · exact ⟨store.pendingFailures, rfl⟩

/-- A call that is not ordered to fail is carried out. -/
theorem answer_of_unordered {store : MemoryStore} {request : Request}
    (unordered : store.pendingFailures request.operation = 0) :
    store.answer request = store.serve request := by
  rw [answer, unordered]
  exact if_neg (UInt32.lt_irrefl 0)

/-- Carrying out a call leaves the ordered failures alone. -/
theorem serve_pendingFailures (store : MemoryStore) (request : Request) :
    (store.serve request).2.pendingFailures = store.pendingFailures := by
  have served := store.served request
  generalize store.serve request = result at served ⊢
  cases served <;> rfl

/-- Carrying out a call leaves the machine sets alone. -/
theorem serve_machineSets (store : MemoryStore) (request : Request) :
    (store.serve request).2.machineSets = store.machineSets := by
  have served := store.served request
  generalize store.serve request = result at served ⊢
  cases served <;> rfl

/-! ## The selected machines -/

/-- The machines of a namespace that a set selects; none if its selector is at fault. -/
def selected (store : MemoryStore) (machineSet : MachineSet) (ns : String) : List Machine :=
  match selectMachines machineSet (inNamespace store.machines ns) with
  | .ok machines => machines
  | .error _ => []

theorem mem_inNamespace {α : Type} {objects : SortedMap ObjectKey α} {ns : String} {object : α}
    (listed : object ∈ inNamespace objects ns) :
    ∃ key, objects.get? key = some object ∧ key.ns = ns := by
  obtain ⟨⟨key, _⟩, entry, rfl⟩ := List.mem_map.mp listed
  obtain ⟨inside, here⟩ := List.mem_filter.mp entry
  exact ⟨key, SortedMap.get?_eq_some_iff_mem.mpr inside, eq_of_beq here⟩

theorem selectMachines_sublist {machineSet : MachineSet} {machines selected : List Machine}
    (selects : selectMachines machineSet machines = .ok selected) : selected.Sublist machines := by
  obtain ⟨matcher, -, rfl⟩ := selectMachines_eq_ok_iff.mp selects
  exact List.filter_sublist

theorem selected_sublist (store : MemoryStore) (machineSet : MachineSet) (ns : String) :
    (store.selected machineSet ns).Sublist (inNamespace store.machines ns) := by
  rw [selected]
  split
  · exact selectMachines_sublist ‹_›
  · exact List.nil_sublist _

/-- A selected machine is stored at its place. -/
theorem get?_of_mem_selected {store : MemoryStore}
    (placed : ∀ key machine, store.machines.get? key = some machine → machine.place = key)
    {machineSet : MachineSet} {ns : String} {machine : Machine}
    (listed : machine ∈ store.selected machineSet ns) :
    store.machines.get? machine.place = some machine := by
  obtain ⟨key, found, -⟩ := mem_inNamespace ((store.selected_sublist machineSet ns).subset listed)
  rw [placed key machine found]
  exact found

/-- No two selected machines have the same place. -/
theorem selected_places_nodup {store : MemoryStore}
    (placed : ∀ key machine, store.machines.get? key = some machine → machine.place = key)
    (machineSet : MachineSet) (ns : String) :
    ((store.selected machineSet ns).map Machine.place).Nodup := by
  have keyed : ∀ entry ∈ store.machines.toList, entry.2.place = entry.1 := fun entry inside =>
    placed entry.1 entry.2 (SortedMap.get?_eq_some_iff_mem.mpr inside)
  have listed : (inNamespace store.machines ns).map Machine.place =
      ((store.machines.toList.filter fun entry => entry.1.ns == ns).map (·.1)) := by
    rw [inNamespace, List.map_map]
    apply List.map_congr_left
    exact fun entry inside => keyed entry (List.mem_filter.mp inside).1
  apply ((store.selected_sublist machineSet ns).map Machine.place).nodup
  rw [listed]
  exact (List.filter_sublist.map _).nodup store.machines.nodup_keys

/-- Machines that differ in what passes write only are selected alike. -/
theorem selected_unmanaged {store store' : MemoryStore}
    (same : ∀ key, (store'.machines.get? key).map Machine.unmanaged =
      (store.machines.get? key).map Machine.unmanaged) (machineSet : MachineSet) (ns : String) :
    (store'.selected machineSet ns).map Machine.unmanaged =
      (store.selected machineSet ns).map Machine.unmanaged := by
  have listed : (inNamespace store'.machines ns).map Machine.unmanaged =
      (inNamespace store.machines ns).map Machine.unmanaged := by
    have viewed : ∀ machines : SortedMap ObjectKey Machine,
        (inNamespace machines ns).map Machine.unmanaged =
          ((machines.toList.map fun entry => (entry.1, entry.2.unmanaged)).filter
            fun entry => entry.1.ns == ns).map (·.2) := by
      intro machines
      rw [inNamespace, List.map_map, List.filter_map, List.map_map]
      rfl
    rw [viewed, SortedMap.map_toList_eq same, ← viewed]
  rw [selected, selected, selectMachines, selectMachines]
  cases validateMachineSet machineSet with
  | error error => rfl
  | ok matcher =>
      have filtered : ∀ machines : List Machine,
          (machines.filter fun machine => !isExcluded machineSet matcher machine).map
              Machine.unmanaged =
            (machines.map Machine.unmanaged).filter fun machine =>
              !isExcluded machineSet matcher machine := by
        intro machines
        simp only [List.filter_map, Function.comp_def, isExcluded_unmanaged]
      change (List.filter _ _).map Machine.unmanaged = (List.filter _ _).map Machine.unmanaged
      rw [filtered, listed, ← filtered]

end MemoryStore

end NodeSync
