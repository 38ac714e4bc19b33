/-
Module: NodeSync.Proofs.Pass.ForeignLabels
Purpose: A label that somebody else has put on a node stays theirs. As long as the node has it, the
  annotation does not list it and no machine of the node carries it, no pass over any set changes
  its value, lists it or puts it on such a machine, whatever is wanted by the templates, however
  many machines share the node, and wherever the passes are stopped.
Main exports: MemoryStore.Foreign, Guarded, Event.Spares, Run, guarded_passUnder, Run.foreign,
  foreign_label_kept
-/
import NodeSync.Proofs.Pass.Completion
import NodeSync.Proofs.Store.Versions

namespace NodeSync

set_option autoImplicit false

open Pass (Secures)

/-! ## The invariant -/

/-- A node has a label that neither its annotation nor any of its machines claims. -/
structure MemoryStore.Foreign (store : MemoryStore) (key nodeName value : String) : Prop where
  node : ∃ node, store.nodes.get? nodeName = some node ∧ node.labelMap.get? key = some value ∧
    node.ownedKeys.contains key = false
  machines : ∀ place machine, store.machines.get? place = some machine →
    machine.refName? = some nodeName → machine.nodeLabels.contains key = false

/-- The label is still there and unclaimed, and machines have the nodes that they had. -/
structure Guarded (key nodeName value : String) (before after : MemoryStore) : Prop where
  versioned : after.Versioned
  foreign : after.Foreign key nodeName value
  refNames : ∀ place, (after.machines.get? place).map Machine.refName? =
    (before.machines.get? place).map Machine.refName?

/-- The same, where a pass has a machine and a node at hand, and has changed no other machine. -/
structure Held (key nodeName value : String) (before : MemoryStore) (machine : Machine)
    (name : String) (node : Node) (after : MemoryStore) : Prop
    extends Guarded key nodeName value before after where
  machineAt : after.machines.get? machine.place = some machine
  nodeAt : after.nodes.get? name = some node
  others : ∀ place, place ≠ machine.place →
    after.machines.get? place = before.machines.get? place

section Invariant

variable {key nodeName value name : String} {before store : MemoryStore} {machine : Machine}
  {node : Node}

theorem Guarded.withFailures (guarded : Guarded key nodeName value before store)
    (pending : Operation → UInt32) :
    Guarded key nodeName value before (store.withFailures pending) where
  versioned := guarded.versioned.of_nodes_eq rfl (Nat.le_refl _) guarded.versioned.machines
  foreign := ⟨guarded.foreign.node, guarded.foreign.machines⟩
  refNames := guarded.refNames

/-- The node at hand, if it is the one with the label. -/
theorem Held.carries (held : Held key nodeName value before machine name node store)
    (here : name = nodeName) :
    node.labelMap.get? key = some value ∧ node.ownedKeys.contains key = false := by
  obtain ⟨node', there, carried, unlisted⟩ := held.foreign.node
  rw [← here, held.nodeAt] at there
  cases there
  exact ⟨carried, unlisted⟩

/-- Updating the machine. -/
theorem Held.putMachine (held : Held key nodeName value before machine name node store)
    {revised : Machine} (revises : machine.Revises revised)
    (unclaimed : machine.refName? = some nodeName → revised.nodeLabels.contains key = false) :
    Held key nodeName value before (revised.withVersion (some store.freshVersion)) name node
      (store.putMachine machine.place revised) := by
  have place : revised.place = machine.place := revises.place
  have sameNode : revised.refName? = machine.refName? := by
    rw [Machine.refName?, revises.status, ← Machine.refName?]
  have stored : (store.putMachine machine.place revised).machines.get? machine.place =
      some (revised.withVersion (some store.freshVersion)) := SortedMap.get?_insert_self _ _ _
  have elsewhere : ∀ other, other ≠ machine.place →
      (store.putMachine machine.place revised).machines.get? other = store.machines.get? other :=
    fun other different => SortedMap.get?_insert_of_ne _ different _
  refine ⟨⟨?_, ⟨held.foreign.node, ?_⟩, ?_⟩, ?_, held.nodeAt, ?_⟩
  · exact held.versioned.of_insertMachine rfl place rfl (Nat.le_succ _)
  · intro other found there provisioned
    by_cases here : other = machine.place
    · rw [here, stored] at there
      cases there
      exact unclaimed (sameNode.symm.trans provisioned)
    · rw [elsewhere other here] at there
      exact held.foreign.machines other found there provisioned
  · intro other
    by_cases here : other = machine.place
    · rw [here, stored, ← held.refNames, held.machineAt]
      exact congrArg some sameNode
    · rw [elsewhere other here, held.refNames]
  · change (store.putMachine machine.place revised).machines.get? revised.place = _
    rw [place, stored]
  · intro other different
    have different' : other ≠ machine.place := place ▸ different
    rw [elsewhere other different', held.others other different']

/-- Updating the node. -/
theorem Held.putNode (held : Held key nodeName value before machine name node store)
    {revised : Node}
    (kept : name = nodeName →
      revised.labelMap.get? key = some value ∧ revised.ownedKeys.contains key = false) :
    Held key nodeName value before machine name (revised.withVersion (some store.freshVersion))
      (store.putNode name revised) := by
  have stored : (store.putNode name revised).nodes.get? name =
      some (revised.withVersion (some store.freshVersion)) := SortedMap.get?_insert_self _ _ _
  refine ⟨⟨?_, ⟨?_, held.foreign.machines⟩, held.refNames⟩, held.machineAt, stored, held.others⟩
  · exact held.versioned.of_insert rfl rfl rfl rfl
  · by_cases here : nodeName = name
    · obtain ⟨carried, unlisted⟩ := kept here.symm
      refine ⟨revised.withVersion (some store.freshVersion), ?_, carried, unlisted⟩
      rw [here]
      exact stored
    · obtain ⟨found, there, carried, unlisted⟩ := held.foreign.node
      refine ⟨found, ?_, carried, unlisted⟩
      rw [← there]
      exact SortedMap.get?_insert_of_ne _ here _

end Invariant

/-! ## The four writes -/

section Writes

variable {key nodeName value name : String} {before store : MemoryStore} {machine : Machine}
  {node : Node} {expected : Labels} {template : List Taint} {blamed ns : String}

/-- Updating the machine at hand unless the update would change nothing. -/
theorem reviseMachine_guarded {revised : Machine} {blame : ControllerError → Option FailureReport}
    {same : Prop} [Decidable same] (held : Held key nodeName value before machine name node store)
    (revises : machine.Revises revised)
    (unclaimed : machine.refName? = some nodeName → revised.nodeLabels.contains key = false) :
    Secures False (if same then return machine else Pass.call (.updateMachine revised) blame) store
      (fun machine' after => machine'.place = machine.place ∧
        Held key nodeName value before machine' name node after)
      (fun _ after => Guarded key nodeName value before after) := by
  apply Secures.ite
  · exact fun _ => Secures.pure ⟨rfl, held⟩
  · intro _
    have updated := held.putMachine revises unclaimed
    apply Secures.updateMachine held.machineAt revises
    · exact fun _ _ pending => held.toGuarded.withFailures pending
    · exact fun _ _ => updated.toGuarded
    · refine ⟨?_, updated⟩
      change ObjectKey.ofMeta revised.metadata = ObjectKey.ofMeta machine.metadata
      rw [revises.metadata]

/-- Updating the node at hand. If it was renamed, the update fails. -/
theorem reviseNode_guarded {revised : Node} {blame : ControllerError → Option FailureReport}
    (held : Held key nodeName value before machine name node store) (revises : node.Revises revised)
    (kept : name = nodeName →
      revised.labelMap.get? key = some value ∧ revised.ownedKeys.contains key = false) :
    Secures False (Pass.call (.updateNode revised) blame) store
      (fun node' after => node'.labelMap = revised.labelMap ∧ node'.ownedKeys = revised.ownedKeys ∧
        Held key nodeName value before machine name node' after)
      (fun _ after => Guarded key nodeName value before after) := by
  have updated := held.putNode kept
  rcases MemoryStore.serve_updateNode_cases held.versioned held.nodeAt revises with
    served | ⟨error, served⟩
  · apply Secures.call
    · exact fun _ _ pending => held.toGuarded.withFailures pending
    · rw [served]
      exact fun _ _ => updated.toGuarded
    · intro answer answered
      rw [served] at answered ⊢
      cases answered
      exact ⟨rfl, rfl, updated⟩
    · intro error failed
      rw [served] at failed
      cases failed
  · apply Secures.call
    · exact fun _ _ pending => held.toGuarded.withFailures pending
    · rw [served]
      exact fun _ _ => held.toGuarded
    · intro answer answered
      rw [served] at answered
      cases answered
    · intro _ _
      rw [served]
      exact held.toGuarded

theorem writeNodeLabels_guarded (held : Held key nodeName value before machine name node store)
    (unexpected : name = nodeName → expected.contains key = false)
    (plain : ∀ key ∈ expected.keys, Provenance.hasSeparator key = false) :
    Secures False (writeNodeLabels node expected blamed) store
      (fun synced after => ∃ node', node'.Revises synced ∧
        (name = nodeName →
          synced.labelMap.get? key = some value ∧ synced.ownedKeys.contains key = false) ∧
        Held key nodeName value before machine name node' after)
      (fun _ after => Guarded key nodeName value before after) := by
  have revises := Node.revises_syncNodeLabels node expected
  have kept : name = nodeName →
      (syncNodeLabels node expected).1.labelMap.get? key = some value ∧
        (syncNodeLabels node expected).1.ownedKeys.contains key = false := by
    intro here
    obtain ⟨carried, unlisted⟩ := held.carries here
    constructor
    · rw [syncNodeLabels_get?_of_foreign unlisted (unexpected here), carried]
    · rw [Bool.eq_false_iff, Ne, contains_ownedKeys_syncNodeLabels plain, unexpected here]
      simp
  change Secures False (if (syncNodeLabels node expected).2 then
    Pass.call (.updateNode (syncNodeLabels node expected).1) (Pass.blameLabels blamed "")
    else return (syncNodeLabels node expected).1) store _ _
  apply Secures.ite
  · intro _
    apply (reviseNode_guarded held revises kept).imp
    · rintro node' after ⟨labels, record, held'⟩
      refine ⟨node', ⟨rfl, rfl, rfl, rfl⟩, ?_, held'⟩
      rw [labels, record]
      exact kept
    · exact fun _ _ guarded => guarded
  · exact fun _ => Secures.pure ⟨node, revises, kept, held⟩

theorem writeNodeTaints_guarded {synced : Node} {taints : List Taint}
    (held : Held key nodeName value before machine name node store) (revises : node.Revises synced)
    (kept : name = nodeName →
      synced.labelMap.get? key = some value ∧ synced.ownedKeys.contains key = false) :
    Secures False (writeNodeTaints synced taints blamed) store
      (fun _ after => ∃ node', Held key nodeName value before machine name node' after)
      (fun _ after => Guarded key nodeName value before after) := by
  apply Secures.ite
  · exact fun _ => Secures.pure ⟨node, held⟩
  · intro _
    have revised : node.Revises (synced.setTaints (expectedNodeTaints taints synced.taints)) :=
      ⟨revises.name, revises.uid, revises.version, revises.status⟩
    apply Secures.bind
    apply (reviseNode_guarded held revised kept).imp
    · rintro node' after ⟨-, -, held'⟩
      exact Secures.pure ⟨node', held'⟩
    · exact fun _ _ guarded => guarded

end Writes

/-! ## Passes -/

section Passes

variable {key nodeName value : String} {before middle after store : MemoryStore}
  {machineSet : MachineSet}

theorem Guarded.refl (versioned : store.Versioned) (foreign : store.Foreign key nodeName value) :
    Guarded key nodeName value store store := ⟨versioned, foreign, fun _ => rfl⟩

theorem Guarded.trans {value' : String} (first : Guarded key nodeName value before middle)
    (second : Guarded key nodeName value' middle after) :
    Guarded key nodeName value' before after :=
  ⟨second.versioned, second.foreign, fun place =>
    (second.refNames place).trans (first.refNames place)⟩

/-- A machine, whatever node it has. -/
theorem synchroniseMachine_guarded {machine : Machine} (versioned : store.Versioned)
    (foreign : store.Foreign key nodeName value)
    (found : store.machines.get? machine.place = some machine) :
    Secures False (synchroniseMachine machineSet machine) store
      (fun _ after => Guarded key nodeName value store after ∧
        ∀ place, place ≠ machine.place → after.machines.get? place = store.machines.get? place)
      (fun _ after => Guarded key nodeName value store after) := by
  have start := Guarded.refl versioned foreign
  cases provisioned : machine.nodeName? with
  | none =>
      rw [synchroniseMachine_of_none provisioned]
      exact Secures.pure ⟨start, fun _ _ => rfl⟩
  | some name =>
      have refers := Machine.refName?_of_nodeName? provisioned
      rw [synchroniseMachine, provisioned]
      apply Secures.bind
      apply Secures.getNode
      · exact fun _ _ pending => start.withFailures pending
      · exact fun _ _ => start
      · intro node there
        have held : Held key nodeName value store machine name node store :=
          ⟨start, found, there, fun _ _ => rfl⟩
        -- The label is on the node and nobody's here, so the template has no say in it.
        have unexpected : name = nodeName →
            (expectedLabels machineSet machine node).contains key = false := by
          intro here
          obtain ⟨carried, unlisted⟩ := held.carries here
          apply contains_expectedLabels_of_foreign (SortedMap.contains_of_get? carried)
          · exact foreign.machines _ machine found (here ▸ refers)
          · exact unlisted
        apply Secures.bind
        apply (reviseMachine_guarded held (machine.revises_setNodeLabels _) ?_).imp
        · rintro labelled middle ⟨place₁, held₁⟩
          have unclaimed := held₁.foreign.machines _ labelled held₁.machineAt
          apply Secures.bind
          apply (reviseMachine_guarded held₁
            (labelled.revises_setTaints machineSet.templateTaints) unclaimed).imp
          · rintro done later ⟨place₂, held₂⟩
            apply Secures.bind
            apply (writeNodeLabels_guarded held₂ unexpected hasSeparator_of_mem_expectedLabels).imp
            · rintro synced last ⟨stored, revises, kept, held₃⟩
              apply Secures.bind
              apply (writeNodeTaints_guarded held₃ revises kept).imp
              · rintro _ after ⟨node', held₄⟩
                refine Secures.pure ⟨held₄.toGuarded, fun place elsewhere => ?_⟩
                apply held₄.others
                rw [place₂, place₁]
                exact elsewhere
              · exact fun _ _ guarded => guarded
            · exact fun _ _ guarded => guarded
          · exact fun _ _ guarded => guarded
        · exact fun _ _ guarded => guarded
        · intro there'
          exact unexpected (Option.some.inj (refers.symm.trans there'))

/-- Any machines, also several that have the same node. -/
theorem synchroniseMachines_guarded {machines : List Machine} (versioned : store.Versioned)
    (foreign : store.Foreign key nodeName value)
    (stored : ∀ machine ∈ machines, store.machines.get? machine.place = some machine)
    (places : (machines.map Machine.place).Nodup) :
    Secures False (synchroniseMachines machineSet machines) store
      (fun _ after => Guarded key nodeName value store after)
      (fun _ after => Guarded key nodeName value store after) := by
  induction machines generalizing store with
  | nil => exact Secures.pure (Guarded.refl versioned foreign)
  | cons machine rest ih =>
      obtain ⟨newPlace, placesRest⟩ := List.nodup_cons.mp places
      rw [synchroniseMachines]
      apply Secures.bind
      apply (synchroniseMachine_guarded versioned foreign (stored machine List.mem_cons_self)).imp
      · rintro warning middle ⟨first, others⟩
        have storedMiddle : ∀ machine ∈ rest,
            middle.machines.get? machine.place = some machine := by
          intro other listed
          rw [others other.place fun same => newPlace (same ▸ List.mem_map_of_mem listed)]
          exact stored other (List.mem_cons_of_mem _ listed)
        apply Secures.bind
        apply (ih first.versioned first.foreign storedMiddle placesRest).imp
        · exact fun warnings after second => Secures.pure (first.trans second)
        · exact fun _ _ second => first.trans second
      · exact fun _ _ guarded => guarded

/-- Any pass over any machine set, whatever disturbs it. -/
theorem guarded_passUnder (versioned : store.Versioned) (foreign : store.Foreign key nodeName value)
    (fates : List Fate) (ns name : String) :
    Guarded key nodeName value store (store.passUnder fates ns name).2 := by
  have start := Guarded.refl versioned foreign
  have secured : Secures False (ExceptT.mk (synchronise ns name)) store
      (fun _ after => Guarded key nodeName value store after)
      (fun _ after => Guarded key nodeName value store after) := by
    apply Secures.wholePass
    · exact fun _ _ pending => start.withFailures pending
    · exact fun _ pending => start.withFailures pending
    · intro machineSet _
      apply Secures.setRead
      · exact fun _ _ pending => start.withFailures pending
      · exact fun _ _ => start
      · intro _
        exact synchroniseMachines_guarded versioned foreign
          (fun machine => MemoryStore.get?_of_mem_selected versioned.machines)
          (MemoryStore.selected_places_nodup versioned.machines machineSet ns)
  rcases MemoryStore.passUnder_of_secures fates False.elim secured with
    ⟨outcome, after, passed, guarded⟩ | ⟨cause, after, passed, guarded⟩
  · rw [passed]
    exact guarded
  · rw [passed]
    exact guarded

end Passes

/-! ## Runs -/

/-- An event that leaves a label and its record to whoever has put it on a node. Passes are such
events, and so is anything that happens to machine sets; the node is edited so that it keeps the
label, with any value, and the annotation. -/
def Event.Spares (key nodeName : String) (store : MemoryStore) : Event → Prop
  | .editNode name edit => name = nodeName → ∀ node, store.nodes.get? nodeName = some node →
      (edit node).labelMap.contains key = true ∧
        (edit node).annotationMap.get? Provenance.annotationKey =
          node.annotationMap.get? Provenance.annotationKey
  | .addMachine _ | .addNode _ | .call _ => False
  | _ => True

/-- The stores that a run of such events leads to. -/
inductive Run (key nodeName : String) (start : MemoryStore) : MemoryStore → Prop where
  | start : Run key nodeName start start
  | step {store : MemoryStore} (event : Event) (run : Run key nodeName start store)
      (spares : event.Spares key nodeName store) : Run key nodeName start (store.apply event)

section Runs

variable {key nodeName value : String} {start store : MemoryStore}

/-- Editing a node. -/
theorem guarded_editNode (versioned : store.Versioned) (foreign : store.Foreign key nodeName value)
    {name : String} {edit : Node → Node}
    (spares : (Event.editNode name edit).Spares key nodeName store) :
    ∃ value', Guarded key nodeName value' store (store.editNode name edit) := by
  have versioned' := versioned.apply (.editNode name edit)
  obtain ⟨node, there, carried, unlisted⟩ := foreign.node
  rw [MemoryStore.apply, MemoryStore.editNode] at versioned'
  rw [MemoryStore.editNode]
  cases found : store.nodes.get? name with
  | none =>
      rw [found] at versioned'
      exact ⟨value, versioned', ⟨⟨node, there, carried, unlisted⟩, foreign.machines⟩, fun _ => rfl⟩
  | some edited =>
      rw [found] at versioned'
      by_cases here : nodeName = name
      · subst here
        rw [there] at found
        cases found
        obtain ⟨labelled, untouched⟩ := spares rfl node there
        obtain ⟨value', carried'⟩ := SortedMap.contains_iff_exists.mp labelled
        refine ⟨value', versioned', ⟨⟨_, SortedMap.get?_insert_self _ _ _, carried', ?_⟩,
          foreign.machines⟩, fun _ => rfl⟩
        rw [Node.ownedKeys] at unlisted ⊢
        rw [← unlisted, ← untouched]
        rfl
      · refine ⟨value, versioned', ⟨⟨node, ?_, carried, unlisted⟩, foreign.machines⟩, fun _ => rfl⟩
        rw [← there]
        exact SortedMap.get?_insert_of_ne _ here _

/-- One event. -/
theorem guarded_apply (versioned : store.Versioned) (foreign : store.Foreign key nodeName value)
    {event : Event} (spares : event.Spares key nodeName store) :
    ∃ value', Guarded key nodeName value' store (store.apply event) := by
  have versioned' := versioned.apply event
  have same : (store.apply event).nodes = store.nodes →
      (store.apply event).machines = store.machines →
      ∃ value', Guarded key nodeName value' store (store.apply event) := by
    intro nodes machines
    refine ⟨value, versioned', ⟨?_, ?_⟩, fun _ => by rw [machines]⟩
    · rw [nodes]
      exact foreign.node
    · rw [machines]
      exact foreign.machines
  cases event with
  | addMachineSet machineSet => exact same rfl rfl
  | addMachine machine => exact spares.elim
  | addNode node => exact spares.elim
  | removeMachineSet key => exact same rfl rfl
  | editMachineSet place edit =>
      obtain ⟨nodes, machines, -⟩ := store.editMachineSet_other place edit
      exact same nodes machines
  | editNode name edit => exact guarded_editNode versioned foreign spares
  | failNext operation =>
      obtain ⟨pending, counted⟩ := store.failNext_eq operation
      rw [MemoryStore.apply, counted] at same ⊢
      exact same rfl rfl
  | clearUpdates => exact same rfl rfl
  | call request => exact spares.elim
  | pass fates ns name => exact ⟨value, guarded_passUnder versioned foreign fates ns name⟩

/-- Any run. -/
theorem Run.guarded (versioned : start.Versioned) (foreign : start.Foreign key nodeName value)
    (run : Run key nodeName start store) : ∃ value', Guarded key nodeName value' start store := by
  induction run with
  | start => exact ⟨value, Guarded.refl versioned foreign⟩
  | step event run spares ih =>
      obtain ⟨value', guarded⟩ := ih
      obtain ⟨value'', later⟩ := guarded_apply guarded.versioned guarded.foreign spares
      exact ⟨value'', guarded.trans later⟩

end Runs

namespace SmallCluster

/-- The objects of the small cluster, added to the empty store one after the other. -/
def registered : MemoryStore :=
  ((MemoryStore.empty.apply (.addMachineSet machineSet)).apply (.addMachine machine)).apply
    (.addNode node)

theorem reachable : registered.Reachable := .apply _ (.apply _ (.apply _ .empty))

theorem foreignZone : registered.Foreign "zone" "node-0" "b" where
  node := ⟨_, SortedMap.get?_insert_self _ _ _, rfl, rfl⟩
  machines place found there _ := by
    obtain ⟨rfl, rfl⟩ := get?_singleton there
    rfl

/-- The small cluster after a pass that is cancelled while it waits for the machine to be written,
and then a change of the label by the one who has set it. -/
def visited : MemoryStore :=
  (registered.apply (.pass [.served, .served, .served, .unanswered true] "machines" "web")).apply
    (.editNode "node-0" fun node => { node with metadata := { node.metadata with
      labels := some (node.labelMap.insert "zone" "c") } })

theorem run : Run "zone" "node-0" registered visited := by
  refine .step _ (.step _ .start trivial) fun _ node _ => ⟨?_, rfl⟩
  exact SortedMap.contains_of_get? (SortedMap.get?_insert_self _ _ _)

end SmallCluster

/-- In any run, the label stays on the node, and neither the annotation nor a machine of the node
comes to claim it. Every pass, whatever disturbs it, leaves its value as it was before the pass. -/
theorem foreign_label_kept {key nodeName value : String} {start store : MemoryStore}
    (reachable : start.Reachable) (foreign : start.Foreign key nodeName value)
    (run : Run key nodeName start store) :
    ∃ value', store.Foreign key nodeName value' ∧
      (∀ place, (store.machines.get? place).map Machine.refName? =
        (start.machines.get? place).map Machine.refName?) ∧
      ∀ fates ns name, (store.passUnder fates ns name).2.Foreign key nodeName value' := by
  obtain ⟨value', guarded⟩ := run.guarded (MemoryStore.versioned_of_reachable reachable) foreign
  refine ⟨value', guarded.foreign, guarded.refNames, fun fates ns name => ?_⟩
  exact (guarded_passUnder guarded.versioned guarded.foreign fates ns name).foreign

/-- The zone of the node of the small cluster. -/
theorem foreign_label_kept_smallCluster :
    ∃ value', SmallCluster.visited.Foreign "zone" "node-0" value' ∧
      (∀ place, (SmallCluster.visited.machines.get? place).map Machine.refName? =
        (SmallCluster.registered.machines.get? place).map Machine.refName?) ∧
      ∀ fates ns name,
        (SmallCluster.visited.passUnder fates ns name).2.Foreign "zone" "node-0" value' :=
  foreign_label_kept SmallCluster.reachable SmallCluster.foreignZone SmallCluster.run

end NodeSync
