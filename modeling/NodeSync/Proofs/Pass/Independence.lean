/-
Module: NodeSync.Proofs.Pass.Independence
Purpose: Passes over two machine sets whose machines have different nodes. Each keeps to its own
  part of the store and comes to what was foretold of that part, in whichever order they run, and
  also if one of them does all of its work between two calls of the other.
Main exports: Travelled, Sparing, Ahead, InHand, Foretold, passAround_foretold, pass_foretold,
  Parted, Independent, independent_passes_commute
-/
import NodeSync.Proofs.Pass.Completion
import NodeSync.Proofs.Pass.Forecast
import NodeSync.Proofs.Pass.Visit

namespace NodeSync

set_option autoImplicit false

open Pass (Ensures)
open Contents (AgreeOn)

/-! ## The way of a pass -/

/-- A store that a pass has come to. It has kept to its part of the store, but for the visit, which
is one step of its way. -/
inductive Travelled {β : Type} (visitor : MemoryStore → β × MemoryStore)
    (bound : List (ObjectKey × String)) (start : MemoryStore) :
    MemoryStore → Option β → Prop where
  | alone {store : MemoryStore} (within : Within bound start store) :
      Travelled visitor bound start store none
  | visited {before store : MemoryStore} (first : Within bound start before)
      (second : Within bound (visitor before).2 store) :
      Travelled visitor bound start store (some (visitor before).1)

/-- A visitor that keeps to another part of the store than the pass. -/
structure Sparing {β : Type} (visitor : MemoryStore → β × MemoryStore)
    (bound other : List (ObjectKey × String)) (start : MemoryStore) : Prop where
  placed : start.Placed
  calm : ∀ operation, start.pendingFailures operation = 0
  apart : Apart bound other
  spares : ∀ store, Within bound start store → Within other store (visitor store).2

section Way

variable {β : Type} {visitor : MemoryStore → β × MemoryStore}
  {bound other : List (ObjectKey × String)} {start store after : MemoryStore} {visit : Option β}
  {state : Visited β}

namespace Travelled

theorem step (travelled : Travelled visitor bound start store visit)
    (within : Within bound store after) : Travelled visitor bound start after visit := by
  cases travelled with
  | alone first => exact .alone (first.trans within)
  | visited first second => exact .visited first (second.trans within)

/-- The whole way, visit included. -/
theorem within (travelled : Travelled visitor bound start store visit)
    (sparing : Sparing visitor bound other start) : Within (bound ++ other) start store := by
  have left : ∀ pair ∈ bound, pair ∈ bound ++ other := fun _ => List.mem_append_left other
  have right : ∀ pair ∈ other, pair ∈ bound ++ other := fun _ => List.mem_append_right bound
  cases travelled with
  | alone first => exact first.mono left
  | visited first second =>
      exact ((first.mono left).trans ((sparing.spares _ first).mono right)).trans (second.mono left)

/-- The visit takes place between two calls, or nothing happens. -/
theorem ready (travelled : Travelled visitor bound start state.store state.visit)
    (sparing : Sparing visitor bound other start) :
    Travelled visitor bound start (state.ready visitor).store (state.ready visitor).visit ∧
      Within other state.store (state.ready visitor).store := by
  apply Visited.ready_preserves (fun store visit =>
    Travelled visitor bound start store visit ∧ Within other state.store store)
    ⟨travelled, Within.refl⟩
  intro pending
  rw [pending] at travelled
  cases travelled with
  | alone first => exact ⟨.visited first Within.refl, sparing.spares _ first⟩

end Travelled

end Way

/-! ## What is still to come -/

/-- The machines with nodes are stored as they are listed. -/
def StoredAs (machines : List Machine) (store : MemoryStore) : Prop :=
  ∀ machine ∈ machines, ∀ nodeName, machine.nodeName? = some nodeName →
    store.machines.get? machine.place = some machine

section Parts

variable {β : Type} (visitor : MemoryStore → β × MemoryStore) (bound : List (ObjectKey × String))
  (start : MemoryStore) (machineSet : MachineSet) (target : Option String × Contents)

/-- The machines that are still to come are at hand as they are stored, and settling them from here
leads to the target. -/
structure Ahead (machines : List Machine) (state : Visited β) : Prop where
  travelled : Travelled visitor bound start state.store state.visit
  stored : StoredAs machines state.store
  leads : ∃ contents, AgreeOn bound state.store.contents contents ∧
    contents.settle machineSet (bindings machines) = target

/-- A machine and its node are at hand as they are stored, and settling them and the others from
here leads to the target. -/
structure InHand (rest : List Machine) (key : ObjectKey) (nodeName : String) (machine : Machine)
    (node : Node) (state : Visited β) : Prop where
  travelled : Travelled visitor bound start state.store state.visit
  place : machine.place = key
  named : node.metadata.name = some nodeName
  machineAt : state.store.machines.get? key = some machine
  nodeAt : state.store.nodes.get? nodeName = some node
  stored : StoredAs rest state.store
  leads : ∃ contents,
    AgreeOn bound (state.store.contents.settlePair machineSet key nodeName machine node) contents ∧
      contents.settle machineSet (bindings rest) = target

/-- The pass was stopped where the target says. -/
structure Missed (cause : ControllerError) (state : Visited β) : Prop where
  travelled : Travelled visitor bound start state.store state.visit
  missing : ∃ nodeName, target.1 = some nodeName ∧
    cause = (.store (.notFound (Request.getNode nodeName).subject))
  holds : AgreeOn bound state.store.contents target.2

end Parts

section Independence

variable {β : Type} {visitor : MemoryStore → β × MemoryStore}
  {bound other : List (ObjectKey × String)} {start : MemoryStore} {machineSet : MachineSet}
  {target : Option String × Contents} {rest machines : List Machine} {key : ObjectKey}
  {nodeName : String} {machine revisedMachine : Machine} {node revisedNode : Node}
  {state : Visited β}

/-- The visitor spares the machines. -/
theorem Within.storedAs {store after : MemoryStore} (within : Within other store after)
    (apart : Apart bound other) (listed : Listed bound machines)
    (stored : StoredAs machines store) : StoredAs machines after := by
  intro machine member nodeName provisioned
  have pair := listed.bound _ (mem_bindings_iff.mpr ⟨machine, member, provisioned, rfl⟩)
  rw [within.machine_eq apart (List.mem_map_of_mem (f := (·.1)) pair)]
  exact stored machine member nodeName provisioned

/-- What is still to come is not touched by the visit. -/
theorem Ahead.ready (ahead : Ahead visitor bound start machineSet target machines state)
    (sparing : Sparing visitor bound other start) (listed : Listed bound machines) :
    Ahead visitor bound start machineSet target machines (state.ready visitor) := by
  obtain ⟨travelled, spared⟩ := ahead.travelled.ready sparing
  obtain ⟨contents, agree, leads⟩ := ahead.leads
  exact ⟨travelled, spared.storedAs sparing.apart listed ahead.stored, contents,
    (spared.agreeOn sparing.apart).trans agree, leads⟩

/-- Nor is what is at hand. -/
theorem InHand.ready
    (inHand : InHand visitor bound start machineSet target rest key nodeName machine node state)
    (sparing : Sparing visitor bound other start) (listed : Listed bound rest)
    (pair : (key, nodeName) ∈ bound) :
    InHand visitor bound start machineSet target rest key nodeName machine node
      (state.ready visitor) := by
  obtain ⟨travelled, spared⟩ := inHand.travelled.ready sparing
  obtain ⟨contents, agree, leads⟩ := inHand.leads
  refine ⟨travelled, inHand.place, inHand.named, ?_, ?_,
    spared.storedAs sparing.apart listed inHand.stored, contents,
    (spared.agreeOn sparing.apart).settlePair.trans agree, leads⟩
  · rw [spared.machine_eq sparing.apart (List.mem_map_of_mem (f := (·.1)) pair), inHand.machineAt]
  · rw [spared.node_eq sparing.apart (List.mem_map_of_mem (f := (·.2)) pair), inHand.nodeAt]

/-! ## One machine -/

/-- Updating the machine at hand. -/
theorem keepsMachineWrites_inHand (sparing : Sparing visitor bound other start)
    (listed : Listed bound rest) (pair : (key, nodeName) ∈ bound)
    (new : key ∉ rest.map Machine.place) :
    Ensures.KeepsMachineWrites (Visited.environment visitor) machineSet
      (InHand visitor bound start machineSet target rest key nodeName)
      (Missed visitor bound start target) := by
  intro machine node revised state blame inHand write
  have ready := inHand.ready sparing listed pair
  have calm := (ready.travelled.within sparing).calm sparing.calm
  obtain rfl := ready.place
  have within := Within.putMachine (List.mem_map_of_mem (f := (·.1)) pair) ready.machineAt
    write.unmanaged
  have place : revised.place = machine.place := write.revises.place
  refine Visited.ensures_updateMachine calm ready.machineAt write.revises
    ⟨_, rfl, ready.travelled.step within, place, ready.named, SortedMap.get?_insert_self _ _ _,
      ready.nodeAt, fun other member nodeName provisioned => ?_, ?_⟩
  · have elsewhere : other.place ≠ machine.place := fun same =>
      new (same ▸ List.mem_map_of_mem member)
    rw [MemoryStore.putMachine, SortedMap.get?_insert_of_ne _ elsewhere]
    exact ready.stored other member nodeName provisioned
  · obtain ⟨contents, agree, leads⟩ := ready.leads
    have course : SameCourse machineSet machine node
        (revised.withVersion (some (state.ready visitor).store.freshVersion)) node :=
      write.sameCourse.trans (SameCourse.of_content rfl rfl)
    rw [MemoryStore.settlePair_putMachine, Contents.settlePair_of_sameCourse course]
    exact ⟨contents, agree, leads⟩

/-- Updating the node at hand. -/
theorem keepsNodeWrites_inHand (sparing : Sparing visitor bound other start)
    (listed : Listed bound rest) (pair : (key, nodeName) ∈ bound) :
    Ensures.KeepsNodeWrites (Visited.environment visitor) machineSet
      (InHand visitor bound start machineSet target rest key nodeName)
      (Missed visitor bound start target) := by
  intro machine node revised state blame inHand write
  have ready := inHand.ready sparing listed pair
  have calm := (ready.travelled.within sparing).calm sparing.calm
  have within := Within.putNode (List.mem_map_of_mem (f := (·.2)) pair) ready.nodeAt
    write.revises.name
  have named : revised.metadata.name = some nodeName := write.revises.name.trans ready.named
  refine Visited.ensures_updateNode calm ready.nodeAt ready.named write.revises
    ⟨_, rfl, ready.travelled.step within, ready.place, named, ready.machineAt,
      SortedMap.get?_insert_self _ _ _, ready.stored, ?_⟩
  obtain ⟨contents, agree, leads⟩ := ready.leads
  have course : SameCourse machineSet machine node machine
      (revised.withVersion (some (state.ready visitor).store.freshVersion)) :=
    write.sameCourse.trans (SameCourse.of_content rfl rfl)
  rw [MemoryStore.settlePair_putNode, Contents.settlePair_of_sameCourse course]
  exact ⟨contents, agree, leads⟩

/-- Reading the node of the next machine. If it is missing, the target says so. -/
theorem getNode_inHand (sparing : Sparing visitor bound other start)
    (listed : Listed bound (machine :: rest)) (provisioned : machine.nodeName? = some nodeName)
    (ahead : Ahead visitor bound start machineSet target (machine :: rest) state)
    (blame : ControllerError → Option FailureReport) :
    Ensures (Visited.environment visitor) (Pass.call (.getNode nodeName) blame) state
      (InHand visitor bound start machineSet target rest machine.place nodeName machine)
      (Missed visitor bound start target) := by
  have ready := ahead.ready sparing listed
  have whole := ready.travelled.within sparing
  have calm := whole.calm sparing.calm
  obtain ⟨pair, -⟩ := listed.pair provisioned
  have pairs : bindings (machine :: rest) = (machine.place, nodeName) :: bindings rest := by
    simp [bindings, Machine.binding?, provisioned]
  obtain ⟨contents, agree, leads⟩ := ready.leads
  rw [pairs] at leads
  have machineAt := ready.stored machine List.mem_cons_self nodeName provisioned
  have nodeHere := agree.nodes nodeName (List.mem_map_of_mem (f := (·.2)) pair)
  cases there : (state.ready visitor).store.nodes.get? nodeName with
  | none =>
      have missing : contents.nodes nodeName = none := by
        rw [← nodeHere]
        simp [MemoryStore.contents, there]
      have served : (state.ready visitor).store.serve (.getNode nodeName) =
          (.error (.notFound (Request.getNode nodeName).subject), (state.ready visitor).store) := by
        simp [MemoryStore.serve, there, MemoryStore.found]
      rw [Contents.settle_cons_of_none missing] at leads
      subst leads
      exact Visited.ensures_refused calm served
        ⟨ready.travelled, ⟨nodeName, rfl, rfl⟩, agree⟩
  | some node =>
      have machineHere : contents.machines machine.place = some machine.content := by
        rw [← agree.machines machine.place (List.mem_map_of_mem (f := (·.1)) pair)]
        simp [MemoryStore.contents, machineAt]
      have nodeHere' : contents.nodes nodeName = some node.content := by
        rw [← nodeHere]
        simp [MemoryStore.contents, there]
      rw [Contents.settle_cons machineHere nodeHere', Contents.settlePair_content] at leads
      have named := (whole.placed sparing.placed).nodeName there
        (Machine.nodeName?_ne_empty provisioned)
      refine Visited.ensures_getNode calm there
        ⟨ready.travelled, rfl, named, machineAt, there, ?_, _, agree.settlePair, leads⟩
      exact fun other member => ready.stored other (List.mem_cons_of_mem _ member)

/-! ## All machines -/

/-- The pair at hand is finished: what is still to come are the others. -/
theorem InHand.finish
    (inHand : InHand visitor bound start machineSet target rest key nodeName machine node state)
    (finished : Finished machineSet machine node) :
    Ahead visitor bound start machineSet target rest state := by
  obtain ⟨contents, agree, leads⟩ := inHand.leads
  refine ⟨inHand.travelled, inHand.stored, contents, ?_, leads⟩
  rw [Contents.settlePair_eq_self] at agree
  · exact agree
  · simp [MemoryStore.contents, inHand.machineAt, finished.settledMachine_eq]
  · simp [MemoryStore.contents, inHand.nodeAt, finished.settledNode_eq]

/-- All machines that are still to come. -/
theorem synchroniseMachines_ahead (sparing : Sparing visitor bound other start)
    (listed : Listed bound machines)
    (ahead : Ahead visitor bound start machineSet target machines state) :
    Ensures (Visited.environment visitor) (synchroniseMachines machineSet machines) state
      (fun warnings after => warnings = templateWarnings machineSet machines ∧
        Ahead visitor bound start machineSet target [] after)
      (Missed visitor bound start target) := by
  apply (Ensures.synchroniseMachines (fun machines state =>
    Listed bound machines ∧ Ahead visitor bound start machineSet target machines state)
    ⟨listed, ahead⟩ ?_ ?_).imp
  · exact fun _ _ reached => ⟨reached.1, reached.2.2⟩
  · exact fun _ _ ended => ended
  · intro machine rest state unprovisioned reached
    obtain ⟨listed, ahead⟩ := reached
    have pairs : bindings (machine :: rest) = bindings rest := by
      simp [bindings, Machine.binding?, unprovisioned]
    have leads := ahead.leads
    rw [pairs] at leads
    exact ⟨listed.next, ahead.travelled,
      fun other member => ahead.stored other (List.mem_cons_of_mem _ member), leads⟩
  · intro machine nodeName rest state provisioned reached
    obtain ⟨listed, ahead⟩ := reached
    obtain ⟨pair, new⟩ := listed.pair provisioned
    apply (Ensures.synchroniseMachine provisioned (getNode_inHand sparing listed provisioned ahead)
      (keepsMachineWrites_inHand sparing listed.next pair new)
      (keepsNodeWrites_inHand sparing listed.next pair)).imp
    · intro warning after reached
      obtain ⟨rfl, _, _, inHand, finished⟩ := reached
      exact ⟨rfl, listed.next, inHand.finish finished⟩
    · exact fun _ _ ended => ended

end Independence

/-! ## A whole pass -/

/-- The pass has come to what was foretold of its part of the store. -/
structure Foretold {β : Type} (visitor : MemoryStore → β × MemoryStore) (start : MemoryStore)
    (machineSet : MachineSet) (ns name : String) (result : Except ControllerError Outcome)
    (state : Visited β) : Prop where
  travelled : Travelled visitor (bindings (start.selected machineSet ns)) start state.store
    state.visit
  result : result = (start.forecast machineSet ns name).1
  holds : AgreeOn (bindings (start.selected machineSet ns)) state.store.contents
    (start.forecast machineSet ns name).2

section Whole

variable {β : Type} {visitor : MemoryStore → β × MemoryStore} {other : List (ObjectKey × String)}
  {start : MemoryStore} {machineSet : MachineSet} {ns name : String} {state : Visited β}

/-- A pass over a set that was read. -/
theorem synchroniseSet_foretold
    (sparing : Sparing visitor (bindings (start.selected machineSet ns)) other start)
    (travelled : Travelled visitor (bindings (start.selected machineSet ns)) start state.store
      state.visit)
    (agree : AgreeOn (bindings (start.selected machineSet ns)) state.store.contents
      start.contents) :
    Ensures (Visited.environment visitor) (synchroniseSet machineSet ns name) state
      (fun outcome => Foretold visitor start machineSet ns name (.ok outcome))
      (fun cause => Foretold visitor start machineSet ns name (.error cause)) := by
  obtain ⟨travelled, spared⟩ := travelled.ready sparing
  have agree := (spared.agreeOn sparing.apart).trans agree
  have whole := travelled.within sparing
  have placed := whole.placed sparing.placed
  apply Ensures.synchroniseSet
  refine Visited.ensures_listMachines (whole.calm sparing.calm) ?_
  cases validated : validateMachineSet machineSet with
  | error error =>
      refine ⟨fun error' fails => ?_, fun selected selects => ?_⟩
      · rw [selectMachines, validated] at fails
        cases fails
        exact ⟨travelled, by rw [start.forecast_of_error validated],
          by rw [start.forecast_of_error validated]; exact agree⟩
      · rw [selectMachines, validated] at selects
        cases selects
  | ok matcher =>
      refine ⟨fun error fails => ?_, fun selected selects => ?_⟩
      · rw [selectMachines, validated] at fails
        cases fails
      · have same : (state.ready visitor).store.selected machineSet ns = selected := by
          rw [MemoryStore.selected, selects]
        subst same
        have pairs := whole.bindings_selected machineSet ns
        have warnings := templateWarnings_congr machineSet
          (MemoryStore.selected_unmanaged whole.unmanaged machineSet ns)
        have stored : StoredAs ((state.ready visitor).store.selected machineSet ns)
            (state.ready visitor).store :=
          fun _ member _ _ => MemoryStore.get?_of_mem_selected placed.machines member
        have ahead : Ahead visitor (bindings (start.selected machineSet ns)) start machineSet
            (start.contents.settle machineSet (bindings (start.selected machineSet ns)))
            ((state.ready visitor).store.selected machineSet ns) (state.ready visitor) :=
          ⟨travelled, stored, start.contents, agree,
            congrArg (start.contents.settle machineSet ·) pairs⟩
        apply (synchroniseMachines_ahead sparing (.selected placed pairs) ahead).imp
        · intro found after reached
          obtain ⟨rfl, travelled, -, contents, agree, leads⟩ := reached
          refine ⟨travelled, ?_, ?_⟩
          · rw [start.forecast_of_ok validated, ← leads, warnings]
            rfl
          · rw [start.forecast_of_ok validated, ← leads]
            exact agree
        · intro cause after missed
          obtain ⟨travelled, ⟨nodeName, missing, rfl⟩, agree⟩ := missed
          refine ⟨travelled, ?_, ?_⟩
          · rw [start.forecast_of_ok validated, missing]
            rfl
          · rw [start.forecast_of_ok validated]
            exact agree

/-- A whole pass, until it has ended. -/
theorem synchronise_foretold
    (sparing : Sparing visitor (bindings (start.selected machineSet ns)) other start)
    (found : start.machineSets.get? ⟨ns, name⟩ = some machineSet)
    (travelled : Travelled visitor (bindings (start.selected machineSet ns)) start state.store
      state.visit)
    (agree : AgreeOn (bindings (start.selected machineSet ns)) state.store.contents
      start.contents) :
    Ensures (Visited.environment visitor) (ExceptT.mk (synchronise ns name)) state
      (fun outcome => Foretold visitor start machineSet ns name (.ok outcome))
      (fun cause => Foretold visitor start machineSet ns name (.error cause)) := by
  obtain ⟨travelled, spared⟩ := travelled.ready sparing
  have agree := (spared.agreeOn sparing.apart).trans agree
  have whole := travelled.within sparing
  have found := (congrArg (·.get? ⟨ns, name⟩) whole.machineSets).trans found
  exact Visited.ensures_synchronise (whole.calm sparing.calm) found
    (synchroniseSet_foretold sparing travelled agree)

/-- What comes of a pass and of a visitor that spares its part of the store. -/
theorem passAround_foretold
    (sparing : Sparing visitor (bindings (start.selected machineSet ns)) other start)
    (found : start.machineSets.get? ⟨ns, name⟩ = some machineSet) (calls : Nat) :
    (start.passAround visitor calls ns name).result = (start.forecast machineSet ns name).1 ∧
      AgreeOn (bindings (start.selected machineSet ns))
        (start.passAround visitor calls ns name).store.contents
        (start.forecast machineSet ns name).2 ∧
      ∃ before, Within (bindings (start.selected machineSet ns)) start before ∧
        (start.passAround visitor calls ns name).visit = (visitor before).1 ∧
        Within (bindings (start.selected machineSet ns)) (visitor before).2
          (start.passAround visitor calls ns name).store := by
  have closed : ∀ result (state : Visited β),
      Foretold visitor start machineSet ns name result state →
      AgreeOn (bindings (start.selected machineSet ns)) (state.close visitor).2.contents
          (start.forecast machineSet ns name).2 ∧
        ∃ before, Within (bindings (start.selected machineSet ns)) start before ∧
          (state.close visitor).1 = (visitor before).1 ∧
          Within (bindings (start.selected machineSet ns)) (visitor before).2
            (state.close visitor).2 := by
    intro result state foretold
    apply Visited.close_preserves (fun store visit =>
      AgreeOn (bindings (start.selected machineSet ns)) store.contents
          (start.forecast machineSet ns name).2 ∧
        ∃ before, Within (bindings (start.selected machineSet ns)) start before ∧
          visit = (visitor before).1 ∧
          Within (bindings (start.selected machineSet ns)) (visitor before).2 store)
    · intro visit visited
      have travelled := foretold.travelled
      rw [visited] at travelled
      cases travelled with
      | visited first second => exact ⟨foretold.holds, _, first, rfl, second⟩
    · intro pending
      have travelled := foretold.travelled
      rw [pending] at travelled
      cases travelled with
      | alone first =>
          have spared := (sparing.spares _ first).agreeOn sparing.apart
          exact ⟨spared.trans foretold.holds, _, first, rfl, Within.refl⟩
  have ensured : Ensures (Visited.environment visitor) (ExceptT.mk (synchronise ns name))
      ⟨start, calls, none⟩ _ _ :=
    synchronise_foretold sparing found (.alone Within.refl) AgreeOn.refl
  rcases MemoryStore.passAround_of_ensures ensured with
    ⟨outcome, state, foretold, ran⟩ | ⟨cause, state, foretold, ran⟩
  · rw [ran]
    exact ⟨foretold.result, closed _ state foretold⟩
  · rw [ran]
    exact ⟨foretold.result, closed _ state foretold⟩

end Whole

/-- What comes of a pass that nothing disturbs. -/
theorem pass_foretold {store : MemoryStore} {machineSet : MachineSet} {ns name : String}
    (placed : store.Placed) (calm : ∀ operation, store.pendingFailures operation = 0)
    (found : store.machineSets.get? ⟨ns, name⟩ = some machineSet) :
    (store.pass ns name).1 = (store.forecast machineSet ns name).1 ∧
      AgreeOn (bindings (store.selected machineSet ns)) (store.pass ns name).2.contents
        (store.forecast machineSet ns name).2 ∧
      Within (bindings (store.selected machineSet ns)) store (store.pass ns name).2 := by
  have sparing : Sparing (fun store => ((), store)) (bindings (store.selected machineSet ns)) []
      store := ⟨placed, calm, Apart.nil _, fun _ _ => Within.refl⟩
  obtain ⟨result, holds, before, first, -, second⟩ := passAround_foretold sparing found 0
  rw [MemoryStore.pass_eq_passAround]
  exact ⟨result, holds, first.trans second⟩

/-! ## Two passes -/

section Two

variable {store before after after' : MemoryStore} {machineSet machineSet' : MachineSet}
  {ns name ns' name' : String} {bound other : List (ObjectKey × String)}
  {target target' : Contents}

/-- A pass comes to the same if something has happened elsewhere before. -/
theorem pass_foretold_of_within (placed : store.Placed)
    (calm : ∀ operation, store.pendingFailures operation = 0)
    (found : store.machineSets.get? ⟨ns, name⟩ = some machineSet)
    (apart : Apart (bindings (store.selected machineSet ns)) other)
    (within : Within other store before) :
    (before.pass ns name).1 = (store.forecast machineSet ns name).1 ∧
      AgreeOn (bindings (store.selected machineSet ns)) (before.pass ns name).2.contents
        (store.forecast machineSet ns name).2 ∧
      Within (bindings (store.selected machineSet ns)) before (before.pass ns name).2 := by
  have found' := (congrArg (·.get? ⟨ns, name⟩) within.machineSets).trans found
  obtain ⟨result, holds, kept⟩ :=
    pass_foretold (within.placed placed) (within.calm calm) found'
  obtain ⟨sameResult, sameHolds⟩ := MemoryStore.forecast_congr within apart name
  rw [within.bindings_selected] at holds kept
  exact ⟨result.trans sameResult, holds.trans sameHolds, kept⟩

/-- Two parts of the store hold what was foretold of each, and the rest is as it was. -/
structure Parted (bound other : List (ObjectKey × String)) (target target' : Contents)
    (store after : MemoryStore) : Prop where
  first : AgreeOn bound after.contents target
  second : AgreeOn other after.contents target'
  within : Within (bound ++ other) store after

theorem Parted.symm (parted : Parted bound other target target' store after) :
    Parted other bound target' target store after where
  first := parted.second
  second := parted.first
  within := parted.within.mono fun pair member => by
    simpa [or_comm] using member

/-- That leaves no choice. -/
theorem Parted.contents_eq (parted : Parted bound other target target' store after)
    (parted' : Parted bound other target target' store after') :
    after.contents = after'.contents := by
  apply Contents.ext
  · funext key
    by_cases here : key ∈ bound.map (·.1)
    · exact (parted.first.trans parted'.first.symm).machines key here
    by_cases there : key ∈ other.map (·.1)
    · exact (parted.second.trans parted'.second.symm).machines key there
    have elsewhere : key ∉ (bound ++ other).map (·.1) := by
      rw [List.map_append, List.mem_append]
      exact not_or.mpr ⟨here, there⟩
    exact congrArg (Option.map Machine.content) ((parted.within.otherMachines key elsewhere).trans
      (parted'.within.otherMachines key elsewhere).symm)
  · funext nodeName
    by_cases here : nodeName ∈ bound.map (·.2)
    · exact (parted.first.trans parted'.first.symm).nodes nodeName here
    by_cases there : nodeName ∈ other.map (·.2)
    · exact (parted.second.trans parted'.second.symm).nodes nodeName there
    have elsewhere : nodeName ∉ (bound ++ other).map (·.2) := by
      rw [List.map_append, List.mem_append]
      exact not_or.mpr ⟨here, there⟩
    exact congrArg (Option.map Node.content) ((parted.within.otherNodes nodeName elsewhere).trans
      (parted'.within.otherNodes nodeName elsewhere).symm)

/-- Two machine sets of a store that have neither a machine nor a node in common. -/
structure Independent (store : MemoryStore) (machineSet : MachineSet) (ns name : String)
    (machineSet' : MachineSet) (ns' name' : String) : Prop where
  placed : store.Placed
  calm : ∀ operation, store.pendingFailures operation = 0
  found : store.machineSets.get? ⟨ns, name⟩ = some machineSet
  found' : store.machineSets.get? ⟨ns', name'⟩ = some machineSet'
  apart : Apart (bindings (store.selected machineSet ns))
    (bindings (store.selected machineSet' ns'))

namespace Independent

theorem symm (independent : Independent store machineSet ns name machineSet' ns' name') :
    Independent store machineSet' ns' name' machineSet ns name where
  placed := independent.placed
  calm := independent.calm
  found := independent.found'
  found' := independent.found
  apart := independent.apart.symm

/-- One after the other. -/
theorem inTurn (independent : Independent store machineSet ns name machineSet' ns' name') :
    (store.pass ns name).1 = (store.forecast machineSet ns name).1 ∧
      ((store.pass ns name).2.pass ns' name').1 = (store.forecast machineSet' ns' name').1 ∧
      Parted (bindings (store.selected machineSet ns)) (bindings (store.selected machineSet' ns'))
        (store.forecast machineSet ns name).2 (store.forecast machineSet' ns' name').2 store
        ((store.pass ns name).2.pass ns' name').2 := by
  obtain ⟨result, holds, kept⟩ :=
    pass_foretold independent.placed independent.calm independent.found
  obtain ⟨result', holds', kept'⟩ := pass_foretold_of_within independent.placed independent.calm
    independent.found' independent.apart.symm kept
  refine ⟨result, result', (kept'.agreeOn independent.apart).trans holds, holds', ?_⟩
  exact (kept.mono fun _ => List.mem_append_left _).trans
    (kept'.mono fun _ => List.mem_append_right _)

/-- One while the other is at work. -/
theorem around (independent : Independent store machineSet ns name machineSet' ns' name')
    (calls : Nat) :
    (store.passAround (·.pass ns' name') calls ns name).result =
        (store.forecast machineSet ns name).1 ∧
      (store.passAround (·.pass ns' name') calls ns name).visit =
        (store.forecast machineSet' ns' name').1 ∧
      Parted (bindings (store.selected machineSet ns)) (bindings (store.selected machineSet' ns'))
        (store.forecast machineSet ns name).2 (store.forecast machineSet' ns' name').2 store
        (store.passAround (·.pass ns' name') calls ns name).store := by
  have visits : ∀ before, Within (bindings (store.selected machineSet ns)) store before → _ :=
    fun before => pass_foretold_of_within independent.placed independent.calm independent.found'
      independent.apart.symm
  have sparing : Sparing (·.pass ns' name') (bindings (store.selected machineSet ns))
      (bindings (store.selected machineSet' ns')) store :=
    ⟨independent.placed, independent.calm, independent.apart,
      fun before first => (visits before first).2.2⟩
  obtain ⟨result, holds, before, first, visit, second⟩ :=
    passAround_foretold sparing independent.found calls
  obtain ⟨result', holds', kept'⟩ := visits before first
  refine ⟨result, visit.trans result', holds,
    (second.agreeOn independent.apart.symm).trans holds', ?_⟩
  exact ((first.mono fun _ => List.mem_append_left _).trans
    (kept'.mono fun _ => List.mem_append_right _)).trans
    (second.mono fun _ => List.mem_append_left _)

end Independent

/-- Machines of different nodes are different machines. -/
theorem apart_of_disjoint (placed : store.Placed)
    (disjoint : ∀ nodeName ∈ (store.selected machineSet ns).filterMap Machine.nodeName?,
      nodeName ∉ (store.selected machineSet' ns').filterMap Machine.nodeName?) :
    Apart (bindings (store.selected machineSet ns))
      (bindings (store.selected machineSet' ns')) where
  machines key here there := by
    obtain ⟨⟨_, nodeName⟩, pair, rfl⟩ := List.mem_map.mp here
    obtain ⟨⟨_, nodeName'⟩, pair', same⟩ := List.mem_map.mp there
    obtain ⟨machine, listed, provisioned, rfl⟩ := mem_bindings_iff.mp pair
    obtain ⟨machine', listed', provisioned', rfl⟩ := mem_bindings_iff.mp pair'
    have stored := MemoryStore.get?_of_mem_selected placed.machines listed
    have stored' := MemoryStore.get?_of_mem_selected placed.machines listed'
    have same : machine'.place = machine.place := same
    rw [same, stored] at stored'
    cases stored'
    exact disjoint nodeName (List.mem_filterMap.mpr ⟨machine, listed, provisioned⟩)
      (List.mem_filterMap.mpr ⟨machine, listed', provisioned⟩)
  nodes nodeName here there := by
    rw [bindings_names] at here there
    exact disjoint nodeName here there

end Two

/-! ## A cluster with two machine sets -/

namespace SmallCluster

/-- A second set, of other machines. -/
def secondSet : MachineSet :=
  { machineSet with
    metadata := { machineSet.metadata with name := some "db" }
    spec := { machineSet.spec with
      selector := ⟨some (SortedMap.ofList [("app", "db")]), none⟩
      template := { machineSet.spec.template with
        metadata := { machineSet.spec.template.metadata with
          labels := SortedMap.ofList [("app", "db")] } } } }

/-- A machine of the second set. -/
def secondMachine (name nodeName : String) : Machine :=
  { machine with
    metadata := { machine.metadata with
      name := some name
      labels := some (SortedMap.ofList [("app", "db")]) }
    status := some ⟨some ⟨none, none, none, some nodeName, none, none, none⟩, .empty⟩ }

/-- The small cluster with the second set and two machines of it. The node of the last one is
missing. -/
def shared : MemoryStore :=
  { store with
    machineSets := store.machineSets.insert ⟨"machines", "db"⟩ secondSet
    machines := (store.machines.insert ⟨"machines", "db-0"⟩ (secondMachine "db-0" "node-1")).insert
      ⟨"machines", "db-1"⟩ (secondMachine "db-1" "node-2")
    nodes := store.nodes.insert "node-1"
      { node with metadata := { node.metadata with name := some "node-1" } } }

theorem placed_shared : shared.Placed :=
  MemoryStore.placed_of_all (by decide +kernel) (by decide +kernel) (by decide +kernel)

theorem names_shared :
    (shared.selected machineSet "machines").filterMap Machine.nodeName? = ["node-0"] ∧
      (shared.selected secondSet "machines").filterMap Machine.nodeName? =
        ["node-1", "node-2"] := by
  decide +kernel

end SmallCluster

/-! ## In any order -/

/-- Two passes over machine sets whose machines have different nodes: whichever comes first, and
also if one of them does all of its work between two calls of the other, they come to the same two
results, be they outcomes or errors, and leave the same machines and nodes, apart from their
versions. That the machines are different ones follows, since a machine has one node. -/
theorem independent_passes_commute {store : MemoryStore} {ns name ns' name' : String}
    {machineSet machineSet' : MachineSet} (placed : store.Placed)
    (calm : ∀ operation, store.pendingFailures operation = 0)
    (found : store.machineSets.get? ⟨ns, name⟩ = some machineSet)
    (found' : store.machineSets.get? ⟨ns', name'⟩ = some machineSet')
    (disjoint : ∀ nodeName ∈ (store.selected machineSet ns).filterMap Machine.nodeName?,
      nodeName ∉ (store.selected machineSet' ns').filterMap Machine.nodeName?) :
    ∃ result result' contents,
      ((store.pass ns name).1 = result ∧ ((store.pass ns name).2.pass ns' name').1 = result' ∧
        ((store.pass ns name).2.pass ns' name').2.contents = contents) ∧
      ((store.pass ns' name').1 = result' ∧ ((store.pass ns' name').2.pass ns name).1 = result ∧
        ((store.pass ns' name').2.pass ns name).2.contents = contents) ∧
      ∀ calls,
        ((store.passAround (·.pass ns' name') calls ns name).result = result ∧
          (store.passAround (·.pass ns' name') calls ns name).visit = result' ∧
          (store.passAround (·.pass ns' name') calls ns name).store.contents = contents) ∧
        ((store.passAround (·.pass ns name) calls ns' name').result = result' ∧
          (store.passAround (·.pass ns name) calls ns' name').visit = result ∧
          (store.passAround (·.pass ns name) calls ns' name').store.contents = contents) := by
  have independent : Independent store machineSet ns name machineSet' ns' name' :=
    ⟨placed, calm, found, found', apart_of_disjoint placed disjoint⟩
  obtain ⟨result, result', parted⟩ := independent.inTurn
  obtain ⟨swappedResult', swappedResult, swapped⟩ := independent.symm.inTurn
  refine ⟨_, _, _, ⟨result, result', rfl⟩,
    ⟨swappedResult', swappedResult, swapped.symm.contents_eq parted⟩, fun calls => ?_⟩
  obtain ⟨aroundResult, aroundVisit, around⟩ := independent.around calls
  obtain ⟨aroundResult', aroundVisit', around'⟩ := independent.symm.around calls
  exact ⟨⟨aroundResult, aroundVisit, around.contents_eq parted⟩,
    ⟨aroundResult', aroundVisit', around'.symm.contents_eq parted⟩⟩

/-- One of the two passes goes through, and the other one fails at a missing node. -/
theorem independent_passes_commute_smallCluster :
    ∃ result result' contents,
      ((SmallCluster.shared.pass "machines" "web").1 = result ∧
        ((SmallCluster.shared.pass "machines" "web").2.pass "machines" "db").1 = result' ∧
        ((SmallCluster.shared.pass "machines" "web").2.pass "machines" "db").2.contents =
          contents) ∧
      ((SmallCluster.shared.pass "machines" "db").1 = result' ∧
        ((SmallCluster.shared.pass "machines" "db").2.pass "machines" "web").1 = result ∧
        ((SmallCluster.shared.pass "machines" "db").2.pass "machines" "web").2.contents =
          contents) ∧
      ∀ calls,
        ((SmallCluster.shared.passAround (·.pass "machines" "db") calls "machines"
            "web").result = result ∧
          (SmallCluster.shared.passAround (·.pass "machines" "db") calls "machines"
            "web").visit = result' ∧
          (SmallCluster.shared.passAround (·.pass "machines" "db") calls "machines"
            "web").store.contents = contents) ∧
        ((SmallCluster.shared.passAround (·.pass "machines" "web") calls "machines"
            "db").result = result' ∧
          (SmallCluster.shared.passAround (·.pass "machines" "web") calls "machines"
            "db").visit = result ∧
          (SmallCluster.shared.passAround (·.pass "machines" "web") calls "machines"
            "db").store.contents = contents) := by
  have found : SmallCluster.shared.machineSets.get? ⟨"machines", "web"⟩ =
      some SmallCluster.machineSet := by
    rw [SmallCluster.shared, SortedMap.get?_insert_of_ne _ (by decide), SmallCluster.found]
  have found' : SmallCluster.shared.machineSets.get? ⟨"machines", "db"⟩ =
      some SmallCluster.secondSet := SortedMap.get?_insert_self _ _ _
  apply independent_passes_commute SmallCluster.placed_shared (fun _ => rfl) found found'
  · rw [SmallCluster.names_shared.1, SmallCluster.names_shared.2]
    decide

/-- The missing node is the error of the pass that fails. -/
example : (SmallCluster.shared.pass "machines" "db").1 =
    .error (.store (.notFound (Request.getNode "node-2").subject)) := by
  rfl

end NodeSync
