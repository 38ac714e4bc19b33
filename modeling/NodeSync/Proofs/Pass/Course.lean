/-
Module: NodeSync.Proofs.Pass.Course
Purpose: What a pass leaves of a store in which no two of its machines have the same node, whatever
  disturbs it. A pass that went through has settled every pair of a machine and its node. A pass
  that was stopped has changed some of the pairs, and none of them leaves the course to where it
  was going. Nothing else changes.
Main exports: Settled, templateWarnings, synchroniseMachine_secures, synchroniseMachines_secures,
  passOutcome, MachineSet.Valid, Pass.Secures.setRead, Pass.Secures.wholePass, synchronise_secures
-/
import NodeSync.Proofs.Pass.Settlement
import NodeSync.Proofs.Store.Moved

namespace NodeSync

set_option autoImplicit false

open Pass (Secures)

/-! ## Calls of a pass -/

section Calls

variable {quiet : Prop} {store : MemoryStore} {blame : ControllerError → Option FailureReport}
  {stopped : ControllerError → MemoryStore → Prop}

/-- Reading a node. -/
theorem Pass.Secures.getNode {name : String} {post : Node → MemoryStore → Prop}
    (idle : ¬quiet → ∀ cause pending, stopped cause (store.withFailures pending))
    (missing : store.nodes.get? name = none → ∀ cause, stopped cause store)
    (found : ∀ node, store.nodes.get? name = some node → post node store) :
    Secures quiet (Pass.call (.getNode name) blame) store post stopped := by
  cases there : store.nodes.get? name with
  | none =>
      have served : store.serve (.getNode name) =
          (.error (.notFound (Request.getNode name).subject), store) := by
        change (MemoryStore.found _ (store.nodes.get? name), store) = _
        rw [there]
        rfl
      apply Secures.call idle
      · exact fun loud cause => idle loud cause store.pendingFailures
      · intro answer answered
        rw [served] at answered
        cases answered
      · intro error _
        exact missing there _
  | some node =>
      have served := MemoryStore.serve_getNode there
      apply Secures.call idle
      · exact fun loud cause => idle loud cause store.pendingFailures
      · intro answer answered
        rw [served] at answered
        cases answered
        exact found node there
      · intro error failed
        rw [served] at failed
        cases failed

/-- Updating a stored machine. -/
theorem Pass.Secures.updateMachine {stored revised : Machine} {post : Machine → MemoryStore → Prop}
    (found : store.machines.get? stored.place = some stored) (revises : stored.Revises revised)
    (idle : ¬quiet → ∀ cause pending, stopped cause (store.withFailures pending))
    (lost : ¬quiet → ∀ cause, stopped cause (store.putMachine stored.place revised))
    (updated : post (revised.withVersion (some store.freshVersion))
      (store.putMachine stored.place revised)) :
    Secures quiet (Pass.call (.updateMachine revised) blame) store post stopped := by
  have served := MemoryStore.serve_updateMachine found revises
  apply Secures.call idle
  · rw [served]
    exact lost
  · intro answer answered
    rw [served] at answered ⊢
    cases answered
    exact updated
  · intro error failed
    rw [served] at failed
    cases failed

/-- Updating a stored node. -/
theorem Pass.Secures.updateNode {name : String} {stored revised : Node}
    {post : Node → MemoryStore → Prop} (found : store.nodes.get? name = some stored)
    (named : stored.metadata.name = some name) (revises : stored.Revises revised)
    (idle : ¬quiet → ∀ cause pending, stopped cause (store.withFailures pending))
    (lost : ¬quiet → ∀ cause, stopped cause (store.putNode name revised))
    (updated : post (revised.withVersion (some store.freshVersion)) (store.putNode name revised)) :
    Secures quiet (Pass.call (.updateNode revised) blame) store post stopped := by
  have served := MemoryStore.serve_updateNode found named revises
  apply Secures.call idle
  · rw [served]
    exact lost
  · intro answer answered
    rw [served] at answered ⊢
    cases answered
    exact updated
  · intro error failed
    rw [served] at failed
    cases failed

end Calls

/-! ## The four writes -/

section Writes

variable {quiet : Prop} {key : ObjectKey} {nodeName : String} {before store : MemoryStore}
  {machine : Machine} {node : Node} {expected : Labels} {template : List Taint} {name ns : String}
  {stopped : ControllerError → MemoryStore → Prop}

/-- Updating the machine of a pair unless the update would change nothing. -/
theorem reviseMachine_secures {revised : Machine} {blame : ControllerError → Option FailureReport}
    {same : Prop} [Decidable same] (reached : Reached key nodeName before machine node store)
    (own : machine.place = key) (revises : machine.Revises revised)
    (unmanaged : revised.unmanaged = machine.unmanaged) (unchanged : same → revised = machine)
    (stop : ¬quiet → ∀ cause machine' after, machine'.content = machine.content ∨
      machine'.content = revised.content →
      Reached key nodeName before machine' node after → stopped cause after) :
    Secures quiet (if same then return machine else Pass.call (.updateMachine revised) blame) store
      (fun machine' after => machine'.content = revised.content ∧
        Reached key nodeName before machine' node after) stopped := by
  apply Secures.ite
  · intro known
    exact Secures.pure ⟨by rw [unchanged known], reached⟩
  · intro _
    subst own
    have updated := reached.putMachine unmanaged
    apply Secures.updateMachine reached.machineAt revises
    · intro loud cause pending
      exact stop loud cause machine _ (.inl rfl) (reached.withFailures pending)
    · intro loud cause
      refine stop loud cause _ _ (.inr ?_) updated
      rfl
    · exact ⟨rfl, updated⟩

theorem writeMachineLabels_secures (reached : Reached key nodeName before machine node store)
    (own : machine.place = key)
    (stop : ¬quiet → ∀ cause machine' after, machine'.content = machine.content ∨
      machine'.content = (machine.setNodeLabels expected).content →
      Reached key nodeName before machine' node after → stopped cause after) :
    Secures quiet (writeMachineLabels machine expected name ns) store
      (fun machine' after => machine'.content = (machine.setNodeLabels expected).content ∧
        Reached key nodeName before machine' node after) stopped :=
  reviseMachine_secures reached own (machine.revises_setNodeLabels expected) rfl
    (fun same => by rw [← same]; rfl) stop

theorem writeMachineTaints_secures (reached : Reached key nodeName before machine node store)
    (own : machine.place = key)
    (stop : ¬quiet → ∀ cause machine' after, machine'.content = machine.content ∨
      machine'.content = (machine.setTaints template).content →
      Reached key nodeName before machine' node after → stopped cause after) :
    Secures quiet (writeMachineTaints machine template name ns) store
      (fun machine' after => machine'.content = (machine.setTaints template).content ∧
        Reached key nodeName before machine' node after) stopped :=
  reviseMachine_secures reached own (machine.revises_setTaints template) rfl
    (fun same => by rw [← same]; rfl) stop

/-- The node at hand afterwards has its labels in line. It is the stored one, or, if that agreed
before, the stored one with its labels spelled out. -/
theorem writeNodeLabels_secures (reached : Reached key nodeName before machine node store)
    (named : node.metadata.name = some nodeName)
    (stop : ¬quiet → ∀ cause node' after, node'.content = node.content ∨
      node'.content = (labelledNode node expected).content →
      Reached key nodeName before machine node' after → stopped cause after) :
    Secures quiet (writeNodeLabels node expected name) store
      (fun synced after => synced.content = (syncNodeLabels node expected).1.content ∧
        ∃ node', node'.content = (labelledNode node expected).content ∧ node'.Revises synced ∧
          Reached key nodeName before machine node' after) stopped := by
  have revises := Node.revises_syncNodeLabels node expected
  have written : labelledNode node expected =
      if (syncNodeLabels node expected).2 then (syncNodeLabels node expected).1 else node := rfl
  change Secures quiet (if (syncNodeLabels node expected).2 then
    Pass.call (.updateNode (syncNodeLabels node expected).1) (Pass.blameLabels name "")
    else return (syncNodeLabels node expected).1) store _ _
  apply Secures.ite
  · intro changed
    rw [if_pos changed] at written
    have updated := reached.putNode revises.name
    apply Secures.updateNode reached.nodeAt named revises
    · intro loud cause pending
      exact stop loud cause node _ (.inl rfl) (reached.withFailures pending)
    · intro loud cause
      refine stop loud cause _ _ (.inr ?_) updated
      rw [written, Node.content_withVersion]
    · refine ⟨rfl, _, ?_, ⟨rfl, rfl, rfl, rfl⟩, updated⟩
      rw [written, Node.content_withVersion]
  · intro unchanged
    rw [if_neg unchanged] at written
    exact Secures.pure ⟨rfl, node, congrArg Node.content written.symm, revises, reached⟩

/-- The node as it is stored once its taints were compared with the wanted ones. -/
def taintedNode (stored synced : Node) (taints : List Taint) : Node :=
  if (taintDiff (expectedNodeTaints taints synced.taints) synced.taints).isEmpty then stored
  else synced.setTaints (expectedNodeTaints taints synced.taints)

theorem writeNodeTaints_secures {synced : Node} {taints : List Taint}
    (reached : Reached key nodeName before machine node store)
    (named : node.metadata.name = some nodeName) (revises : node.Revises synced)
    (stop : ¬quiet → ∀ cause node' after, node'.content = node.content ∨
      node'.content = (taintedNode node synced taints).content →
      Reached key nodeName before machine node' after → stopped cause after) :
    Secures quiet (writeNodeTaints synced taints name) store
      (fun _ after => ∃ node', node'.content = (taintedNode node synced taints).content ∧
        Reached key nodeName before machine node' after) stopped := by
  rw [taintedNode] at stop ⊢
  apply Secures.ite
  · intro same
    exact Secures.pure ⟨node, by rw [if_pos same], reached⟩
  · intro differs
    rw [if_neg differs] at stop ⊢
    have revised : node.Revises (synced.setTaints (expectedNodeTaints taints synced.taints)) :=
      ⟨revises.name, revises.uid, revises.version, revises.status⟩
    have updated := reached.putNode revised.name
    apply Secures.bind
    apply Secures.updateNode reached.nodeAt named revised
    · intro loud cause pending
      exact stop loud cause node _ (.inl rfl) (reached.withFailures pending)
    · intro loud cause
      refine stop loud cause _ _ (.inr ?_) updated
      rfl
    · refine Secures.pure ⟨_, ?_, updated⟩
      rfl

end Writes

/-! ## One machine -/

/-- A machine and its node were taken where a pass takes them. -/
structure Settled (machineSet : MachineSet) (machine : Machine) (node : Node) (machine' : Machine)
    (node' : Node) : Prop where
  ofMachine : machine'.content = (settledMachine machineSet machine node).content
  ofNode : node'.content = (settledNode machineSet machine node).content

/-- The fault of a template as it is reported for a machine. -/
def templateWarning? (machineSet : MachineSet) (machine : Machine) : Option Warning :=
  if (dedupTaints machineSet.templateTaints).duplicates.isEmpty then none
  else some ⟨machine.metadata.anyName, (dedupTaints machineSet.templateTaints).duplicates⟩

section OneMachine

variable {quiet : Prop} {store : MemoryStore} {machineSet : MachineSet}
  {machine machine' machine'' : Machine} {node node' : Node}

theorem Settled.sameCourse (settled : Settled machineSet machine node machine' node') :
    SameCourse machineSet machine node machine' node' :=
  SameCourse.settled.trans (SameCourse.of_content settled.ofMachine settled.ofNode)

/-- Where a pass takes a pair does not depend on how far it was taken before. -/
theorem Settled.of_sameCourse (course : SameCourse machineSet machine node machine' node')
    {node'' : Node} (settled : Settled machineSet machine' node' machine'' node'') :
    Settled machineSet machine node machine'' node'' :=
  ⟨settled.ofMachine.trans course.ofMachine, settled.ofNode.trans course.ofNode⟩

/-- A machine without a node is left alone. -/
theorem synchroniseMachine_of_none (none : machine.nodeName? = none) :
    synchroniseMachine machineSet machine = return Option.none := by
  rw [synchroniseMachine, none]

/-- Every pair was settled; no node was missing. -/
structure Completed (machineSet : MachineSet) (bound : List (ObjectKey × String))
    (before after : MemoryStore) : Prop where
  present : ∀ nodeName ∈ bound.map (·.2), before.nodes.contains nodeName = true
  moved : Moved (Settled machineSet) bound before after

/-- The pass was stopped, but no pair left its course. Only a missing node stops an undisturbed
pass here. -/
structure Halted (quiet : Prop) (machineSet : MachineSet) (bound : List (ObjectKey × String))
    (before after : MemoryStore) : Prop where
  cause : quiet → ∃ nodeName ∈ bound.map (·.2), before.nodes.contains nodeName = false
  moved : Moved (SameCourse machineSet) bound before after

/-- The writes of the node, once the machine was written. -/
theorem nodeWrites_secures {before : MemoryStore} {nodeName : String} {done : Machine}
    {result : Option Warning}
    (found : before.machines.get? machine.place = some machine)
    (there : before.nodes.get? nodeName = some node) (named : node.metadata.name = some nodeName)
    (settledMachine : done.content = (settledMachine machineSet machine node).content)
    (reached : Reached machine.place nodeName before done node store) :
    Secures quiet
      (do
        let synced ← writeNodeLabels node (expectedLabels machineSet machine node) nodeName
        writeNodeTaints synced (dedupTaints machineSet.templateTaints).unique nodeName
        return result)
      store
      (fun warning after => warning = result ∧
        Moved (Settled machineSet) [(machine.place, nodeName)] before after)
      (fun _ after => Halted quiet machineSet [(machine.place, nodeName)] before after) := by
  apply Secures.bind
  apply (writeNodeLabels_secures reached named ?_).imp
  · rintro synced middle ⟨labels, stored, storedLabels, revises, reached⟩
    have sameTaints : synced.taints = node.taints :=
      (congrArg Node.taints labels).trans (syncNodeLabels_taints node _)
    have storedName : stored.metadata.name = some nodeName := by
      have same := reached.named
      rw [there] at same
      exact (Option.some.inj same).symm.trans named
    have settledNode : (taintedNode stored synced
        (dedupTaints machineSet.templateTaints).unique).content =
          (settledNode machineSet machine node).content := by
      rw [settledNode, taintedNode, sameTaints, desiredTaints]
      split
      · exact storedLabels
      · exact congrArg (fun content : Node => content.setTaints _) labels
    apply Secures.bind
    apply (writeNodeTaints_secures reached storedName revises ?_).imp
    · rintro _ after ⟨node', taints, reached⟩
      apply Secures.pure
      exact ⟨rfl, reached.moved found there ⟨settledMachine, taints.trans settledNode⟩⟩
    · exact fun _ _ ended => ended
    · intro loud cause node' after changed reached
      refine ⟨fun silent => absurd silent loud, reached.moved found there ?_⟩
      rcases changed with same | written
      · exact SameCourse.labelledNode.trans
          (SameCourse.of_content settledMachine (same.trans storedLabels))
      · exact Settled.sameCourse ⟨settledMachine, written.trans settledNode⟩
  · exact fun _ _ ended => ended
  · intro loud cause node' after changed reached
    refine ⟨fun silent => absurd silent loud, reached.moved found there ?_⟩
    rcases changed with same | written
    · exact SameCourse.machineWrites.trans (SameCourse.of_content settledMachine same)
    · exact SameCourse.labelledNode.trans (SameCourse.of_content settledMachine written)

/-- A pair is settled, or it was changed without leaving its course. Undisturbed, it is settled if
the node exists. -/
theorem synchroniseMachine_secures {nodeName : String}
    (provisioned : machine.nodeName? = some nodeName)
    (found : store.machines.get? machine.place = some machine)
    (named : ∀ node, store.nodes.get? nodeName = some node → node.metadata.name = some nodeName) :
    Secures quiet (synchroniseMachine machineSet machine) store
      (fun warning after => warning = templateWarning? machineSet machine ∧
        Completed machineSet [(machine.place, nodeName)] store after)
      (fun _ after => Halted quiet machineSet [(machine.place, nodeName)] store after) := by
  have start : Moved (SameCourse machineSet) [(machine.place, nodeName)] store store :=
    Moved.refl fun _ _ => SameCourse.refl
  rw [synchroniseMachine, provisioned]
  apply Secures.bind
  apply Secures.getNode
  · intro loud _ pending
    exact ⟨fun silent => absurd silent loud, start.withFailures pending⟩
  · intro missing _
    refine ⟨fun _ => ?_, start⟩
    exact ⟨nodeName, List.mem_singleton_self _, SortedMap.contains_eq_false_iff.mpr missing⟩
  · intro node there
    apply Secures.bind
    apply (writeMachineLabels_secures (Reached.refl found there) rfl ?_).imp
    · rintro labelled middle ⟨labels, reached⟩
      have own : labelled.content.place = machine.place := by
        rw [labels]
        rfl
      apply Secures.bind
      apply (writeMachineTaints_secures reached own ?_).imp
      · rintro done last ⟨taints, reached⟩
        have settledMachine : done.content = (settledMachine machineSet machine node).content :=
          taints.trans (congrArg (·.setTaints machineSet.templateTaints) labels)
        have template : done.spec.taints = machineSet.templateTaints :=
          congrArg (fun content => content.spec.taints) settledMachine
        dsimp only
        rw [template]
        apply (nodeWrites_secures found there (named node there) settledMachine reached).imp
        · rintro warning after ⟨same, moved⟩
          refine ⟨same, ?_, moved⟩
          intro other member
          rw [List.mem_singleton.mp member]
          exact SortedMap.contains_of_get? there
        · exact fun _ _ ended => ended
      · exact fun _ _ ended => ended
      · intro loud cause machine' after changed reached
        refine ⟨fun silent => absurd silent loud, reached.moved found there ?_⟩
        rcases changed with same | written
        · exact SameCourse.machineLabels.trans (SameCourse.of_content (same.trans labels) rfl)
        · have settledMachine :
              machine'.content = (settledMachine machineSet machine node).content :=
            written.trans (congrArg (·.setTaints machineSet.templateTaints) labels)
          exact SameCourse.machineWrites.trans (SameCourse.of_content settledMachine rfl)
    · exact fun _ _ ended => ended
    · intro loud cause machine' after changed reached
      refine ⟨fun silent => absurd silent loud, reached.moved found there ?_⟩
      rcases changed with same | written
      · exact SameCourse.of_content same rfl
      · exact SameCourse.machineLabels.trans (SameCourse.of_content written rfl)

end OneMachine

/-! ## All machines -/

/-- The faults of a template as they are reported for the machines that have a node. -/
def templateWarnings (machineSet : MachineSet) (machines : List Machine) : List Warning :=
  machines.filterMap fun machine =>
    machine.nodeName?.bind fun _ => templateWarning? machineSet machine

/-- Machines that differ in what a pass writes only have the same faults. -/
theorem templateWarnings_congr {machines machines' : List Machine} (machineSet : MachineSet)
    (same : machines.map Machine.unmanaged = machines'.map Machine.unmanaged) :
    templateWarnings machineSet machines = templateWarnings machineSet machines' := by
  have viewed : ∀ machines, templateWarnings machineSet machines =
      templateWarnings machineSet (machines.map Machine.unmanaged) := by
    intro machines
    rw [templateWarnings, templateWarnings, List.filterMap_map]
    rfl
  rw [viewed machines, same, ← viewed machines']

theorem templateWarnings_cons (machineSet : MachineSet) (machine : Machine) (rest : List Machine) :
    templateWarnings machineSet (machine :: rest) =
      (machine.nodeName?.bind fun _ => templateWarning? machineSet machine).toList ++
        templateWarnings machineSet rest := by
  rw [templateWarnings, List.filterMap_cons]
  cases machine.nodeName?.bind fun _ => templateWarning? machineSet machine <;> rfl

section AllMachines

variable {quiet : Prop} {machineSet : MachineSet} {bound : List (ObjectKey × String)}
  {key : ObjectKey} {nodeName : String} {before middle after : MemoryStore}

theorem Completed.cons (first : Completed machineSet [(key, nodeName)] before middle)
    (second : Completed machineSet bound middle after) (newPlace : key ∉ bound.map (·.1))
    (newNode : nodeName ∉ bound.map (·.2)) :
    Completed machineSet ((key, nodeName) :: bound) before after where
  present other member := by
    rcases List.mem_cons.mp member with same | later
    · rw [same]
      exact first.present nodeName (List.mem_singleton_self _)
    · rw [← first.moved.contains_node]
      exact second.present other later
  moved := first.moved.cons second.moved newPlace newNode

/-- The pass was stopped before it changed anything. -/
theorem Halted.of_loud (loud : ¬quiet) (pending : Operation → UInt32) :
    Halted quiet machineSet bound before (before.withFailures pending) where
  cause silent := absurd silent loud
  moved := (Moved.refl fun _ _ => SameCourse.refl).withFailures pending

/-- The pass was stopped at the first pair. -/
theorem Halted.first (halted : Halted quiet machineSet [(key, nodeName)] before after)
    (newPlace : key ∉ bound.map (·.1)) (newNode : nodeName ∉ bound.map (·.2)) :
    Halted quiet machineSet ((key, nodeName) :: bound) before after where
  cause silent := by
    obtain ⟨other, member, missing⟩ := halted.cause silent
    exact ⟨other, List.mem_cons.mpr (.inl (List.mem_singleton.mp member)), missing⟩
  moved := halted.moved.cons (Moved.refl fun _ _ => SameCourse.refl) newPlace newNode

/-- The pass was stopped after the first pair. -/
theorem Halted.later (first : Completed machineSet [(key, nodeName)] before middle)
    (halted : Halted quiet machineSet bound middle after) (newPlace : key ∉ bound.map (·.1))
    (newNode : nodeName ∉ bound.map (·.2)) :
    Halted quiet machineSet ((key, nodeName) :: bound) before after where
  cause silent := by
    obtain ⟨other, member, missing⟩ := halted.cause silent
    rw [first.moved.contains_node] at missing
    exact ⟨other, List.mem_cons_of_mem _ member, missing⟩
  moved := (first.moved.mono fun _ _ _ _ => Settled.sameCourse).cons halted.moved newPlace newNode

/-- By induction on the machines: the pairs before the one at which the pass is stopped are
settled, and those after it are as they were. -/
theorem synchroniseMachines_secures {machines : List Machine} {store : MemoryStore}
    (stored : ∀ machine ∈ machines, store.machines.get? machine.place = some machine)
    (named : ∀ nodeName node, store.nodes.get? nodeName = some node → nodeName ≠ "" →
      node.metadata.name = some nodeName)
    (places : (machines.map Machine.place).Nodup)
    (distinct : ((bindings machines).map (·.2)).Nodup) :
    Secures quiet (synchroniseMachines machineSet machines) store
      (fun warnings after => warnings = templateWarnings machineSet machines ∧
        Completed machineSet (bindings machines) store after)
      (fun _ after => Halted quiet machineSet (bindings machines) store after) := by
  induction machines generalizing store with
  | nil =>
      apply Secures.pure
      exact ⟨rfl, ⟨fun _ member => (List.not_mem_nil member).elim, Moved.nil⟩⟩
  | cons machine rest ih =>
      have storedRest : ∀ machine ∈ rest, store.machines.get? machine.place = some machine :=
        fun machine listed => stored machine (List.mem_cons_of_mem _ listed)
      obtain ⟨newPlace, placesRest⟩ := List.nodup_cons.mp places
      rw [synchroniseMachines]
      cases provisioned : machine.nodeName? with
      | none =>
          have boundRest : bindings (machine :: rest) = bindings rest := by
            rw [bindings, List.filterMap_cons, Machine.binding?, provisioned]
            rfl
          rw [boundRest] at distinct ⊢
          rw [templateWarnings_cons, provisioned, synchroniseMachine_of_none provisioned]
          apply Secures.bind
          apply Secures.pure
          apply Secures.bind
          apply (ih storedRest named placesRest distinct).imp
          · rintro warnings after ⟨rfl, reached⟩
            exact Secures.pure ⟨rfl, reached⟩
          · exact fun _ _ ended => ended
      | some nodeName =>
          have boundRest : bindings (machine :: rest) =
              (machine.place, nodeName) :: bindings rest := by
            rw [bindings, List.filterMap_cons, Machine.binding?, provisioned]
            rfl
          rw [boundRest] at distinct ⊢
          rw [templateWarnings_cons, provisioned]
          obtain ⟨newNode, distinctRest⟩ := List.nodup_cons.mp distinct
          have newBinding : machine.place ∉ (bindings rest).map (·.1) := fun member =>
            newPlace ((bindings_places_sublist rest).subset member)
          have filled := Machine.nodeName?_ne_empty provisioned
          have found := stored machine List.mem_cons_self
          apply Secures.bind
          apply (synchroniseMachine_secures provisioned found
            (fun node there => named nodeName node there filled)).imp
          · rintro warning middle ⟨rfl, first⟩
            have storedMiddle : ∀ machine ∈ rest,
                middle.machines.get? machine.place = some machine := by
              intro other listed
              have elsewhere : other.place ≠ machine.place := fun same =>
                newPlace (same ▸ List.mem_map_of_mem listed)
              rw [first.moved.otherMachines other.place (by simpa using elsewhere)]
              exact storedRest other listed
            have namedMiddle : ∀ nodeName node, middle.nodes.get? nodeName = some node →
                nodeName ≠ "" → node.metadata.name = some nodeName := by
              intro other node there filled
              have same := first.moved.nodeNames other
              rw [there] at same
              obtain ⟨old, there', name⟩ := Option.map_eq_some_iff.mp same.symm
              exact name.symm.trans (named other old there' filled)
            apply Secures.bind
            apply (ih storedMiddle namedMiddle placesRest distinctRest).imp
            · rintro warnings after ⟨rfl, second⟩
              exact Secures.pure ⟨rfl, first.cons second newBinding newNode⟩
            · intro cause after halted
              exact Halted.later first halted newBinding newNode
          · intro cause after halted
            exact halted.first newBinding newNode

end AllMachines

/-! ## The whole pass -/

/-- The result of a pass that went through with the given faults. -/
def passOutcome (warnings : List Warning) : Outcome :=
  if warnings.isEmpty then .synced else .degraded warnings

/-- The template of a set agrees with its selector. -/
def MachineSet.Valid (machineSet : MachineSet) : Prop :=
  ∃ matcher, validateMachineSet machineSet = .ok matcher

section WholePass

variable {quiet : Prop} {machineSet : MachineSet} {store : MemoryStore} {ns name : String}

/-- The machines of the store that a set selects, as the pass selects them. -/
theorem selectMachines_eq (machineSet : MachineSet) (store : MemoryStore) (ns : String) :
    (machineSet.Valid ∧ selectMachines machineSet (MemoryStore.inNamespace store.machines ns) =
      .ok (store.selected machineSet ns)) ∨
    (¬machineSet.Valid ∧ ∃ error,
      selectMachines machineSet (MemoryStore.inNamespace store.machines ns) = .error error) := by
  rw [MemoryStore.selected, selectMachines, MachineSet.Valid]
  cases validateMachineSet machineSet with
  | error error =>
      refine .inr ⟨?_, error, rfl⟩
      rintro ⟨_, impossible⟩
      cases impossible
  | ok matcher => exact .inl ⟨⟨matcher, rfl⟩, rfl⟩

/-- A pass over a machine set that was read comes down to its machines, once they are listed. -/
theorem Pass.Secures.setRead {post : Outcome → MemoryStore → Prop}
    {stopped : ControllerError → MemoryStore → Prop}
    (idle : ¬quiet → ∀ cause pending, stopped cause (store.withFailures pending))
    (invalid : ¬machineSet.Valid → ∀ cause, stopped cause store)
    (machines : machineSet.Valid →
      Secures quiet (synchroniseMachines machineSet (store.selected machineSet ns)) store
        (fun warnings after => post (passOutcome warnings) after) stopped) :
    Secures quiet (synchroniseSet machineSet ns name) store post stopped := by
  apply Secures.bind
  apply Secures.call idle
  · exact fun loud cause => idle loud cause store.pendingFailures
  · intro listed served
    have all : MemoryStore.inNamespace store.machines ns = listed := Except.ok.inj served
    subst all
    rcases selectMachines_eq machineSet store ns with
      ⟨valid, selects⟩ | ⟨fault, error, fails⟩
    · rw [selects]
      apply Secures.bind
      apply (machines valid).imp
      · exact fun warnings after reached => Secures.pure reached
      · exact fun _ _ ended => ended
    · rw [fails]
      exact Secures.throw (invalid fault _)
  · intro error impossible
    exact nomatch impossible

/-- A pass comes down to the machine set that it reads. One that finds the set gone was told so by a
disturbed call, unless the set is. -/
theorem Pass.Secures.wholePass {post : Outcome → MemoryStore → Prop}
    {stopped : ControllerError → MemoryStore → Prop}
    (idle : ¬quiet → ∀ cause pending, stopped cause (store.withFailures pending))
    (gone : (quiet → store.machineSets.get? ⟨ns, name⟩ = none) →
      ∀ pending, post .gone (store.withFailures pending))
    (stored : ∀ machineSet, store.machineSets.get? ⟨ns, name⟩ = some machineSet →
      Secures quiet (synchroniseSet machineSet ns name) store post stopped) :
    Secures quiet (ExceptT.mk (synchronise ns name)) store post stopped := by
  rw [synchronise]
  have failed : ¬quiet → ∀ (error : ControllerError) pending, Secures quiet
      (ExceptT.mk (afterMachineSet ns name (.error error))) (store.withFailures pending) post
      stopped := by
    intro loud error pending
    rcases afterMachineSet_error ns name error with finds | fails
    · rw [finds]
      exact Secures.pure (gone (fun silent => absurd silent loud) pending)
    · rw [fails]
      exact Secures.throw (idle loud error pending)
  apply Secures.guarded
  · exact failed
  · exact fun loud error => failed loud error store.pendingFailures
  · have served : store.serve (.getMachineSet ns name) =
        (MemoryStore.found (Request.getMachineSet ns name).subject
          (store.machineSets.get? ⟨ns, name⟩), store) := rfl
    rw [served]
    cases found : store.machineSets.get? ⟨ns, name⟩ with
    | none => exact Secures.pure (gone (fun _ => found) store.pendingFailures)
    | some machineSet => exact stored machineSet found

/-- What a pass over a stored machine set leaves. One that finds the set gone changes nothing. -/
theorem synchronise_secures (quiet : Prop) (placed : store.Placed)
    (found : store.machineSets.get? ⟨ns, name⟩ = some machineSet)
    (distinct : ((store.selected machineSet ns).filterMap Machine.nodeName?).Nodup) :
    Secures quiet (ExceptT.mk (synchronise ns name)) store
      (fun outcome after =>
        (outcome = .gone ∧ ¬quiet ∧ Halted (quiet ∧ machineSet.Valid) machineSet
          (bindings (store.selected machineSet ns)) store after) ∨
        (outcome = passOutcome (templateWarnings machineSet (store.selected machineSet ns)) ∧
          machineSet.Valid ∧
          Completed machineSet (bindings (store.selected machineSet ns)) store after))
      (fun _ after => Halted (quiet ∧ machineSet.Valid) machineSet
        (bindings (store.selected machineSet ns)) store after) := by
  have idle : ¬quiet → ∀ (_ : ControllerError) pending,
      Halted (quiet ∧ machineSet.Valid) machineSet (bindings (store.selected machineSet ns)) store
        (store.withFailures pending) :=
    fun loud _ pending => Halted.of_loud (fun silent => loud silent.1) pending
  apply Secures.wholePass idle
  · intro silently pending
    have loud : ¬quiet := fun silent => by
      rw [silently silent] at found
      cases found
    exact .inl ⟨rfl, loud, idle loud .cancelled pending⟩
  · intro stored found'
    rw [found] at found'
    cases found'
    apply Secures.setRead idle
    · intro fault _
      exact ⟨fun silent => absurd silent.2 fault, Moved.refl fun _ _ => SameCourse.refl⟩
    · intro valid
      rw [← bindings_names] at distinct
      apply (synchroniseMachines_secures
        (fun machine => MemoryStore.get?_of_mem_selected placed.machines)
        (fun nodeName node there filled => placed.nodeName there filled)
        (MemoryStore.selected_places_nodup placed.machines machineSet ns) distinct).imp
      · rintro warnings after ⟨rfl, completed⟩
        exact .inr ⟨rfl, valid, completed⟩
      · intro cause after halted
        exact ⟨fun silent => halted.cause silent.1, halted.moved⟩

end WholePass

end NodeSync
