/-
Module: NodeSync.Proofs.Pass.LabelHistory
Purpose: Which labels a machine and its node have does not depend on how they came about. If the
  node had none that passes had put there, and shares its labels with no machine, then after a pass
  that went through the two have what the template asks for now, on top of what the node had at the
  start, whatever the template was before and wherever earlier passes were stopped.
Main exports: Tracked, Tracked.expectedLabels_eq, Finished.labelled, History, History.labelled,
  labels_forget_history
-/
import NodeSync.Proofs.Pass.Completion
import NodeSync.Proofs.Pass.Following

namespace NodeSync

set_option autoImplicit false

/-! ## The labels of a machine and its node -/

/-- The record of some keys; there is none of no keys. -/
def Provenance.record? (owned : SortedSet String) : Option String :=
  if owned.isEmpty then none else some (Provenance.encode owned.toList)

/-- The labels of a template that may be put on a node with the given labels of its own. -/
def MachineSet.share (machineSet : MachineSet) (original : Labels) : Labels :=
  machineSet.templateNodeLabels.filterKeys fun key =>
    !Provenance.hasSeparator key && !original.contains key

/-- A node has its original labels, which nobody claims. Every other label is listed by the
annotation, which is there only if it lists something. -/
structure Tracked (original : Labels) (machine : Machine) (node : Node) : Prop where
  unclaimed : ∀ key, original.contains key = true → machine.nodeLabels.contains key = false
  unlisted : ∀ key, original.contains key = true → node.ownedKeys.contains key = false
  kept : ∀ key, original.contains key = true → node.labelMap.get? key = original.get? key
  listed : ∀ key, node.labelMap.contains key = true → original.contains key = false →
    node.ownedKeys.contains key = true
  record : node.annotationMap.get? Provenance.annotationKey = Provenance.record? node.ownedKeys

section Labels

variable {original : Labels} {machineSet : MachineSet} {machine revisedMachine : Machine}
  {node revisedNode : Node}

theorem get?_share (key : String) :
    (machineSet.share original).get? key =
      if !Provenance.hasSeparator key && !original.contains key then
        machineSet.templateNodeLabels.get? key
      else none :=
  SortedMap.get?_filterKeys _ _ key

theorem contains_share (key : String) :
    (machineSet.share original).contains key =
      ((!Provenance.hasSeparator key && !original.contains key) &&
        machineSet.templateNodeLabels.contains key) :=
  SortedMap.contains_filterKeys _ _ key

/-- No original label is in the share. -/
theorem contains_share_of_original {key : String} (own : original.contains key = true) :
    (machineSet.share original).contains key = false := by
  simp [contains_share, own]

theorem hasSeparator_of_mem_share (key : String) (h : key ∈ (machineSet.share original).keys) :
    Provenance.hasSeparator key = false := by
  rw [SortedMap.mem_keys_iff, contains_share] at h
  simp only [Bool.and_eq_true, Bool.not_eq_true'] at h
  exact h.1.1

/-- The share of a template whose keys are not empty has no empty key either. -/
theorem filled_share
    (filled : ∀ key, machineSet.templateNodeLabels.contains key = true → key ≠ "") (key : String)
    (present : (machineSet.share original).contains key = true) : key ≠ "" := by
  rw [contains_share, Bool.and_eq_true] at present
  exact filled key present.2

/-- Writing down keys as a record and listing the keys of a set is the same. -/
theorem encode_keySet (labels : Labels) :
    Provenance.encode labels.keySet.toList = Provenance.encode labels.keys := by
  have same : SortedSet.ofList labels.keySet.toList = SortedSet.ofList labels.keys := by
    apply SortedSet.ext_contains
    intro key
    rw [Bool.eq_iff_iff, SortedSet.contains_ofList, SortedSet.contains_ofList,
      SortedSet.mem_toList_iff, SortedMap.contains_keySet, SortedMap.mem_keys_iff]
  rw [Provenance.encode, same, ← Provenance.encode]

theorem isEmpty_keySet (labels : Labels) : labels.keySet.isEmpty = labels.isEmpty := by
  rw [Bool.eq_iff_iff, SortedMap.isEmpty_iff, SortedMap.isEmpty_iff]
  apply forall_congr'
  intro key
  rw [← SortedMap.contains_eq_false_iff, ← SortedMap.contains_eq_false_iff,
    SortedMap.contains_keySet]

/-- What an annotation is set to is the record of the keys. -/
theorem get?_recordKeys (annotations expected : Labels) :
    (recordKeys annotations expected).get? Provenance.annotationKey =
      Provenance.record? expected.keySet := by
  rw [recordKeys, Provenance.record?, isEmpty_keySet, encode_keySet]
  split
  · exact SortedMap.get?_erase_self _ _
  · exact SortedMap.get?_insert_self _ _ _

namespace Tracked

/-- A node without a record whose labels its machine does not claim. -/
theorem start (unrecorded : node.annotationMap.contains Provenance.annotationKey = false)
    (unclaimed : ∀ key, machine.nodeLabels.contains key = true →
      node.labelMap.contains key = false) : Tracked node.labelMap machine node where
  unclaimed key own := by
    rw [Bool.eq_false_iff]
    intro claimed
    rw [unclaimed key claimed] at own
    cases own
  unlisted key _ := by
    rw [Node.ownedKeys, SortedMap.contains_eq_false_iff.mp unrecorded]
    rfl
  kept _ _ := rfl
  listed key present foreign := by
    rw [present] at foreign
    cases foreign
  record := by
    rw [Node.ownedKeys, SortedMap.contains_eq_false_iff.mp unrecorded]
    rfl

/-- What is expected depends on the template and on the original labels only. -/
theorem expectedLabels_eq (tracked : Tracked original machine node) :
    expectedLabels machineSet machine node = machineSet.share original := by
  apply SortedMap.ext_get?
  intro key
  have may : mayLabel machine node key =
      (!Provenance.hasSeparator key && !original.contains key) := by
    rw [mayLabel]
    congr 1
    cases own : original.contains key with
    | true =>
        have here : node.labelMap.contains key = true := by
          rw [SortedMap.contains, tracked.kept key own]
          exact own
        simp [here, tracked.unclaimed key own, tracked.unlisted key own]
    | false =>
        cases present : node.labelMap.contains key with
        | false => rfl
        | true => simp [tracked.listed key present own]
  rw [get?_expectedLabels, may, get?_share]

/-- A write to the machine. -/
theorem machineWrite (tracked : Tracked original machine node)
    (write : MachineWrite machineSet machine node revisedMachine) (version : Option String) :
    Tracked original (revisedMachine.withVersion version) node := by
  refine ⟨fun key own => ?_, tracked.2, tracked.3, tracked.4, tracked.5⟩
  cases write with
  | labels =>
      change (expectedLabels machineSet machine node).contains key = false
      rw [tracked.expectedLabels_eq]
      exact contains_share_of_original own
  | taints => exact tracked.unclaimed key own

/-- The record of a node whose labels are brought in line. -/
theorem record_syncNodeLabels (tracked : Tracked original machine node) {expected : Labels}
    (plain : ∀ key ∈ expected.keys, Provenance.hasSeparator key = false)
    (filled : ∀ key, expected.contains key = true → key ≠ "") :
    (syncNodeLabels node expected).1.annotationMap.get? Provenance.annotationKey =
      Provenance.record? (syncNodeLabels node expected).1.ownedKeys := by
  have agrees : (syncNodeLabels node expected).1.AgreesWith expected :=
    agreesWith_syncNodeLabels plain filled
  by_cases before : node.AgreesWith expected
  · rw [syncNodeLabels_of_agreesWith before]
    exact tracked.record
  · rw [agrees.2, syncNodeLabels_of_not_agreesWith before]
    exact get?_recordKeys _ _

/-- A write to the node. Every key that it takes off the record is taken off the node as well. -/
theorem nodeWrite (tracked : Tracked original machine node)
    (filled : ∀ key, machineSet.templateNodeLabels.contains key = true → key ≠ "")
    (write : NodeWrite machineSet machine node revisedNode) (version : Option String) :
    Tracked original machine (revisedNode.withVersion version) := by
  have synced := write.synced
  rw [tracked.expectedLabels_eq] at synced
  have agrees : (syncNodeLabels node (machineSet.share original)).1.AgreesWith
      (machineSet.share original) :=
    agreesWith_syncNodeLabels hasSeparator_of_mem_share (filled_share filled)
  have labels : (revisedNode.withVersion version).labelMap =
      (syncNodeLabels node (machineSet.share original)).1.labelMap := by
    change revisedNode.metadata.labelMap = _
    rw [synced]
    rfl
  have annotations : (revisedNode.withVersion version).annotationMap =
      (syncNodeLabels node (machineSet.share original)).1.annotationMap := by
    change revisedNode.metadata.annotations.getD SortedMap.empty = _
    rw [synced]
    rfl
  have owned : (revisedNode.withVersion version).ownedKeys =
      (machineSet.share original).keySet := by
    rw [Node.ownedKeys, annotations]
    exact agrees.2
  refine
    ⟨tracked.unclaimed, fun key own => ?_, fun key own => ?_, fun key present foreign => ?_, ?_⟩
  · rw [owned, SortedMap.contains_keySet]
    exact contains_share_of_original own
  · rw [labels, syncNodeLabels_get?_of_foreign (tracked.unlisted key own)
      (contains_share_of_original own)]
    exact tracked.kept key own
  · rw [owned, SortedMap.contains_keySet]
    cases expected : (machineSet.share original).contains key with
    | true => rfl
    | false =>
        have unexpected := SortedMap.contains_eq_false_iff.mp expected
        rw [labels, SortedMap.contains, syncNodeLabels_labelMap, SortedMap.get?_override,
          unexpected, Option.none_or, keptLabels, ← SortedMap.contains,
          SortedMap.contains_filterKeys, expected] at present
        simp only [Bool.or_false, Bool.and_eq_true, Bool.not_eq_true'] at present
        rw [tracked.listed key present.2 foreign] at present
        cases present.1
  · rw [owned, ← agrees.2, annotations]
    exact tracked.record_syncNodeLabels hasSeparator_of_mem_share (filled_share filled)

end Tracked

/-- A machine and its node have the labels that a template asks for, and the node has its original
ones besides. -/
structure Labelled (machineSet : MachineSet) (original : Labels) (machine : Machine) (node : Node) :
    Prop where
  machineLabels : machine.nodeLabels = machineSet.share original
  nodeLabels : node.labelMap = original.override (machineSet.share original)
  record : node.annotationMap.get? Provenance.annotationKey =
    Provenance.record? (machineSet.share original).keySet

/-- Once a pass has gone through with the machine and its node, their labels are determined. -/
theorem Finished.labelled (finished : Finished machineSet machine node)
    (tracked : Tracked original machine node)
    (filled : ∀ key, machineSet.templateNodeLabels.contains key = true → key ≠ "") :
    Labelled machineSet original machine node := by
  have inStep := finished.inStep filled
  have machineLabels := inStep.machineLabels
  have agrees := inStep.nodeLabels
  rw [tracked.expectedLabels_eq] at machineLabels agrees
  refine ⟨machineLabels, SortedMap.ext_get? fun key => ?_, ?_⟩
  · rw [SortedMap.get?_override]
    cases wanted : (machineSet.share original).get? key with
    | some value => exact (Node.agreesWith_iff.mp agrees).2 key value wanted
    | none =>
        rw [Option.none_or]
        have unexpected := SortedMap.contains_eq_false_iff.mpr wanted
        cases own : original.contains key with
        | true => exact tracked.kept key own
        | false =>
            rw [SortedMap.contains_eq_false_iff.mp own, ← SortedMap.contains_eq_false_iff,
              Bool.eq_false_iff]
            intro present
            have listed := tracked.listed key present own
            rw [(Node.agreesWith_iff.mp agrees).1 key, unexpected] at listed
            cases listed
  · rw [tracked.record, agrees.2]

/-- What is tracked is kept by the writes of a pass, if the keys of the template are not empty. -/
theorem Tracked.keptByWrites
    (filled : ∀ key, machineSet.templateNodeLabels.contains key = true → key ≠ "") :
    KeptByWrites machineSet (Tracked original) where
  machine version tracked write := tracked.machineWrite write version
  node version tracked write := tracked.nodeWrite filled write version

end Labels

/-! ## Histories -/

/-- Asks for other node labels. -/
def MachineSet.setTemplateNodeLabels (machineSet : MachineSet) (labels : Labels) : MachineSet :=
  { machineSet with spec := { machineSet.spec with template := { machineSet.spec.template with
      spec := { machineSet.spec.template.spec with
        metadata := { machineSet.spec.template.spec.metadata with labels := labels } } } } }

/-- Some client has the template of the machine set at a place ask for other node labels. -/
def MemoryStore.relabel (store : MemoryStore) (ns name : String) (labels : Labels) : MemoryStore :=
  store.editMachineSet ⟨ns, name⟩ fun machineSet => machineSet.setTemplateNodeLabels labels

/-- The stores that come about while a template is changed and passes run over its set, whatever
disturbs them. No pass runs while the template asks for a label with an empty key. -/
inductive History (ns name : String) (start : MemoryStore) : MemoryStore → Prop where
  | start : History ns name start start
  | relabel {store : MemoryStore} (labels : Labels) (history : History ns name start store) :
      History ns name start (store.relabel ns name labels)
  | pass {store : MemoryStore} (fates : List Fate) (history : History ns name start store)
      (filled : ∀ machineSet, store.machineSets.get? ⟨ns, name⟩ = some machineSet →
        ∀ key, machineSet.templateNodeLabels.contains key = true → key ≠ "") :
      History ns name start (store.passUnder fates ns name).2

section Histories

variable {start store : MemoryStore} {ns name nodeName : String} {place : ObjectKey}
  {machineSet : MachineSet} {pair : Machine → Node → Prop}

/-- A set is stored at the place that selects machines as the given one does. -/
def MemoryStore.StoresLike (store : MemoryStore) (ns name : String) (machineSet : MachineSet) :
    Prop :=
  ∃ current, store.machineSets.get? ⟨ns, name⟩ = some current ∧
    selectMachines current = selectMachines machineSet

theorem MemoryStore.StoresLike.relabel (stores : store.StoresLike ns name machineSet)
    (labels : Labels) : ∃ current,
      (store.relabel ns name labels).machineSets.get? ⟨ns, name⟩ = some current ∧
        selectMachines current = selectMachines machineSet ∧
        current.templateNodeLabels = labels := by
  obtain ⟨current, found, selects⟩ := stores
  rw [MemoryStore.relabel, MemoryStore.editMachineSet, found]
  exact ⟨_, SortedMap.get?_insert_self _ _ _, selects, rfl⟩

/-- The machine is selected, and is the only one of its node. -/
structure Alone (machineSet : MachineSet) (ns : String) (place : ObjectKey) (nodeName : String)
    (store : MemoryStore) : Prop where
  listed : place ∈ (store.selected machineSet ns).map Machine.place
  bound : ∀ machine ∈ store.selected machineSet ns,
    machine.place = place ↔ machine.nodeName? = some nodeName

/-- That depends on what no pass writes only. -/
theorem Alone.of_unmanaged {current : MachineSet} (alone : Alone machineSet ns place nodeName start)
    (selects : selectMachines current = selectMachines machineSet)
    (unmanaged : ∀ key, (store.machines.get? key).map Machine.unmanaged =
      (start.machines.get? key).map Machine.unmanaged) :
    Alone current ns place nodeName store := by
  have same : (store.selected current ns).map Machine.unmanaged =
      (start.selected machineSet ns).map Machine.unmanaged := by
    rw [MemoryStore.selected, selects, ← MemoryStore.selected]
    exact MemoryStore.selected_unmanaged unmanaged machineSet ns
  have before : ∀ machine ∈ store.selected current ns,
      ∃ old ∈ start.selected machineSet ns, old.unmanaged = machine.unmanaged := by
    intro machine listed
    apply List.mem_map.mp
    rw [← same]
    exact List.mem_map_of_mem listed
  constructor
  · have placesOf : ∀ machines : List Machine,
        machines.map Machine.place = (machines.map Machine.unmanaged).map Machine.place := by
      intro machines
      rw [List.map_map]
      rfl
    rw [placesOf, same, ← placesOf]
    exact alone.listed
  · intro machine listed
    obtain ⟨old, listed', content⟩ := before machine listed
    change machine.unmanaged.place = place ↔ machine.unmanaged.nodeName? = some nodeName
    rw [← content]
    exact alone.bound old listed'

/-- A history keeps what the writes of every pass in it keep. -/
theorem History.followed (alone : Alone machineSet ns place nodeName start)
    (found : start.machineSets.get? ⟨ns, name⟩ = some machineSet)
    (kept : ∀ current : MachineSet,
      (∀ key, current.templateNodeLabels.contains key = true → key ≠ "") →
        KeptByWrites current pair)
    (followed : Followed start place nodeName pair start) (history : History ns name start store) :
    store.StoresLike ns name machineSet ∧ Followed start place nodeName pair store := by
  induction history with
  | start => exact ⟨⟨machineSet, found, rfl⟩, followed⟩
  | @relabel store labels history ih =>
      obtain ⟨stores, followed⟩ := ih
      obtain ⟨current, there, selects, -⟩ := stores.relabel labels
      obtain ⟨nodes, machines, version⟩ := store.editMachineSet_other ⟨ns, name⟩
        fun machineSet => machineSet.setTemplateNodeLabels labels
      refine ⟨⟨current, there, selects⟩, followed.of_eq machines nodes ?_⟩
      exact Nat.le_trans (Nat.le_succ _) (Nat.le_of_eq version.symm)
  | @pass store fates history filled ih =>
      obtain ⟨⟨current, there, selects⟩, followed⟩ := ih
      have alone' := alone.of_unmanaged selects followed.unmanaged
      refine ⟨⟨current, ?_, selects⟩, ?_⟩
      · rw [MemoryStore.passUnder_machineSets, there]
      · exact (followed_passUnder (kept current (filled current there)) there alone'.listed
          alone'.bound followed fates).1

/-- A history that ends with a pass that went through. -/
theorem History.labelled {original labels : Labels} {fates : List Fate} {outcome : Outcome}
    {after : MemoryStore} (alone : Alone machineSet ns place nodeName start)
    (found : start.machineSets.get? ⟨ns, name⟩ = some machineSet)
    (followed : Followed start place nodeName (Tracked original) start)
    (history : History ns name start store)
    (filled : ∀ key, labels.contains key = true → key ≠ "")
    (passed : (store.relabel ns name labels).passUnder fates ns name = (.ok outcome, after))
    (notGone : outcome ≠ .gone) :
    ∃ current machine node, current.templateNodeLabels = labels ∧
      after.machines.get? place = some machine ∧ after.nodes.get? nodeName = some node ∧
      Labelled current original machine node := by
  have kept : ∀ current : MachineSet,
      (∀ key, current.templateNodeLabels.contains key = true → key ≠ "") →
        KeptByWrites current (Tracked original) := fun _ => Tracked.keptByWrites
  obtain ⟨stores, -⟩ := history.followed alone found kept followed
  obtain ⟨current, there, selects, rfl⟩ := stores.relabel labels
  obtain ⟨-, followed'⟩ :=
    (history.relabel current.templateNodeLabels).followed alone found kept followed
  have alone' := alone.of_unmanaged selects followed'.unmanaged
  have reached := (followed_passUnder (kept current filled) there alone'.listed alone'.bound
    followed' fates).2
  rw [passed] at reached
  obtain ⟨machine, node, foundAfter, thereAfter, tracked, finished⟩ :=
    (reached outcome rfl notGone).pairs
  exact ⟨current, machine, node, rfl, foundAfter, thereAfter, finished.labelled tracked filled⟩

end Histories

namespace SmallCluster

/-- The node before any pass has put a label on it. -/
def bareNode : Node :=
  { node with metadata := { node.metadata with
      labels := some (SortedMap.ofList [("zone", "b")])
      annotations := none } }

/-- The small cluster with that node, its objects added to the empty store one after the other. -/
def joined : MemoryStore :=
  ((MemoryStore.empty.apply (.addMachineSet machineSet)).apply (.addMachine machine)).apply
    (.addNode bareNode)

theorem reachable_joined : joined.Reachable := .apply _ (.apply _ (.apply _ .empty))

/-- The objects as they are stored there. -/
def joinedSet : MachineSet := (MemoryStore.empty.addMachineSet machineSet).1

def joinedMachine : Machine :=
  ((MemoryStore.empty.apply (.addMachineSet machineSet)).addMachine machine).1

def joinedNode : Node :=
  (((MemoryStore.empty.apply (.addMachineSet machineSet)).apply (.addMachine machine)).addNode
    bareNode).1

theorem found_joined : joined.machineSets.get? ⟨"machines", "web"⟩ = some joinedSet :=
  SortedMap.get?_insert_self _ _ _

theorem there_joined : joined.nodes.get? "node-0" = some joinedNode :=
  SortedMap.get?_insert_self _ _ _

theorem selected_joined : joined.selected joinedSet "machines" = [joinedMachine] := rfl

theorem listed_joined : joinedMachine ∈ joined.selected joinedSet "machines" := by
  rw [selected_joined]
  exact List.mem_singleton_self _

/-- The labels that the template asks for next, and those that it asks for last. -/
def nextLabels : Labels := SortedMap.ofList [("rack", "r1"), ("tier", "back")]

def lastLabels : Labels := SortedMap.ofList [("tier", "edge"), ("zone", "a")]

/-- The cluster after a pass that is cancelled while it waits for the labels of the machine to be
written. -/
def half : MemoryStore :=
  (joined.passUnder [.served, .served, .served, .unanswered true] "machines" "web").2

/-- Then the template asks for other labels, and a pass is cancelled while it waits for the labels
of the node to be written. -/
def shaken : MemoryStore :=
  ((half.relabel "machines" "web" nextLabels).passUnder
    [.served, .served, .served, .served, .served, .unanswered true] "machines" "web").2

theorem filledNext (key : String) (asked : nextLabels.contains key = true) : key ≠ "" := by
  rintro rfl
  exact absurd asked (by decide)

theorem filledLast (key : String) (asked : lastLabels.contains key = true) : key ≠ "" := by
  rintro rfl
  exact absurd asked (by decide)

theorem history : History "machines" "web" joined shaken := by
  refine .pass _ (.relabel nextLabels (.pass _ .start ?_)) ?_
  · intro stored found
    have asks : (joined.machineSets.get? ⟨"machines", "web"⟩).map MachineSet.templateNodeLabels =
        some machineSet.templateNodeLabels := rfl
    rw [found] at asks
    rw [Option.some.inj asks]
    exact filled
  · intro stored found
    have asks : ((half.relabel "machines" "web" nextLabels).machineSets.get?
        ⟨"machines", "web"⟩).map MachineSet.templateNodeLabels = some nextLabels := rfl
    rw [found] at asks
    rw [Option.some.inj asks]
    exact filledNext

end SmallCluster

/-! ## The last template decides -/

/-- A machine and its node have the same labels, and the same record of them, after a history that
ends with a template and a pass that went through, and after a pass under that template right at
the start. No label of an earlier template is left on the node. -/
theorem labels_forget_history {start store after after' : MemoryStore} {ns name nodeName : String}
    {machineSet : MachineSet} {machine : Machine} {node : Node} {labels : Labels}
    {fates fates' : List Fate} {outcome outcome' : Outcome} (reachable : start.Reachable)
    (found : start.machineSets.get? ⟨ns, name⟩ = some machineSet)
    (listed : machine ∈ start.selected machineSet ns)
    (provisioned : machine.nodeName? = some nodeName)
    (there : start.nodes.get? nodeName = some node)
    (alone : ∀ other ∈ start.selected machineSet ns, other.nodeName? = some nodeName →
      other.place = machine.place)
    (unrecorded : node.annotationMap.contains Provenance.annotationKey = false)
    (unclaimed : ∀ key, machine.nodeLabels.contains key = true →
      node.labelMap.contains key = false)
    (history : History ns name start store)
    (filled : ∀ key, labels.contains key = true → key ≠ "")
    (passed : (store.relabel ns name labels).passUnder fates ns name = (.ok outcome, after))
    (notGone : outcome ≠ .gone)
    (direct : (start.relabel ns name labels).passUnder fates' ns name = (.ok outcome', after'))
    (notGone' : outcome' ≠ .gone) :
    ∃ machine₁ node₁ machine₂ node₂,
      after.machines.get? machine.place = some machine₁ ∧
      after.nodes.get? nodeName = some node₁ ∧
      after'.machines.get? machine.place = some machine₂ ∧
      after'.nodes.get? nodeName = some node₂ ∧
      machine₁.nodeLabels = machine₂.nodeLabels ∧ node₁.labelMap = node₂.labelMap ∧
      node₁.annotationMap.get? Provenance.annotationKey =
        node₂.annotationMap.get? Provenance.annotationKey ∧
      ∀ key, node₁.labelMap.contains key = true →
        node.labelMap.contains key = true ∨ labels.contains key = true := by
  have versioned := MemoryStore.versioned_of_reachable reachable
  have stored := MemoryStore.get?_of_mem_selected versioned.machines listed
  have followed : Followed start machine.place nodeName (Tracked node.labelMap) start :=
    ⟨versioned, fun _ => rfl, machine, node, stored, there, .start unrecorded unclaimed⟩
  have sole : Alone machineSet ns machine.place nodeName start := by
    refine ⟨List.mem_map_of_mem listed, fun other listed' => ⟨fun same => ?_, alone other listed'⟩⟩
    have stored' := MemoryStore.get?_of_mem_selected versioned.machines listed'
    rw [same, stored] at stored'
    cases stored'
    exact provisioned
  obtain ⟨current₁, machine₁, node₁, asks₁, found₁, there₁, labelled₁⟩ :=
    history.labelled sole found followed filled passed notGone
  obtain ⟨current₂, machine₂, node₂, asks₂, found₂, there₂, labelled₂⟩ :=
    History.start.labelled sole found followed filled direct notGone'
  have share : current₁.share node.labelMap = current₂.share node.labelMap := by
    rw [MachineSet.share, asks₁, ← asks₂, ← MachineSet.share]
  refine ⟨machine₁, node₁, machine₂, node₂, found₁, there₁, found₂, there₂, ?_, ?_, ?_, ?_⟩
  · rw [labelled₁.machineLabels, labelled₂.machineLabels, share]
  · rw [labelled₁.nodeLabels, labelled₂.nodeLabels, share]
  · rw [labelled₁.record, labelled₂.record, share]
  · intro key present
    rw [labelled₁.nodeLabels, SortedMap.contains, SortedMap.get?_override, Option.isSome_or,
      ← SortedMap.contains, ← SortedMap.contains, Bool.or_eq_true] at present
    rcases present with wanted | own
    · rw [contains_share, asks₁, Bool.and_eq_true] at wanted
      exact .inr wanted.2
    · exact .inl own

/-- The small cluster, whose template has asked for other labels twice before. -/
theorem labels_forget_history_smallCluster :
    ∃ machine₁ node₁ machine₂ node₂,
      ((SmallCluster.shaken.relabel "machines" "web" SmallCluster.lastLabels).passUnder []
        "machines" "web").2.machines.get? SmallCluster.joinedMachine.place = some machine₁ ∧
      ((SmallCluster.shaken.relabel "machines" "web" SmallCluster.lastLabels).passUnder []
        "machines" "web").2.nodes.get? "node-0" = some node₁ ∧
      ((SmallCluster.joined.relabel "machines" "web" SmallCluster.lastLabels).passUnder []
        "machines" "web").2.machines.get? SmallCluster.joinedMachine.place = some machine₂ ∧
      ((SmallCluster.joined.relabel "machines" "web" SmallCluster.lastLabels).passUnder []
        "machines" "web").2.nodes.get? "node-0" = some node₂ ∧
      machine₁.nodeLabels = machine₂.nodeLabels ∧ node₁.labelMap = node₂.labelMap ∧
      node₁.annotationMap.get? Provenance.annotationKey =
        node₂.annotationMap.get? Provenance.annotationKey ∧
      ∀ key, node₁.labelMap.contains key = true →
        SmallCluster.joinedNode.labelMap.contains key = true ∨
          SmallCluster.lastLabels.contains key = true := by
  have passed : ((SmallCluster.shaken.relabel "machines" "web" SmallCluster.lastLabels).passUnder []
      "machines" "web").1.toOption = some .synced := by decide +kernel
  have direct : ((SmallCluster.joined.relabel "machines" "web" SmallCluster.lastLabels).passUnder []
      "machines" "web").1.toOption = some .synced := by decide +kernel
  apply labels_forget_history SmallCluster.reachable_joined SmallCluster.found_joined
    SmallCluster.listed_joined rfl SmallCluster.there_joined ?_ rfl ?_ SmallCluster.history
    SmallCluster.filledLast (MemoryStore.passUnder_of_outcome passed) (by decide)
    (MemoryStore.passUnder_of_outcome direct) (by decide)
  · intro other listed _
    rw [SmallCluster.selected_joined] at listed
    exact congrArg Machine.place (List.mem_singleton.mp listed)
  · exact fun key claimed => nomatch claimed

end NodeSync
