/-
Module: NodeSync.Proofs.Pass.Forecast
Purpose: What a pass that nothing disturbs comes to, foretold from what the store holds: its pairs
  are settled one after the other, up to the first whose node is missing. Several machines may have
  the same node; each of them finds it as the one before has left it. The forecast depends on the
  part of the store to which the pass keeps, and on nothing else.
Main exports: Contents.settlePair, Contents.settle, Contents.AgreeOn, Contents.AgreeOn.settle,
  MemoryStore.forecast, MemoryStore.forecast_congr
-/
import NodeSync.Proofs.Pass.Course
import NodeSync.Proofs.Store.Within

namespace NodeSync

set_option autoImplicit false

/-! ## Settling pairs -/

namespace Contents

/-- A machine and its node are put where a pass takes them. -/
def settlePair (contents : Contents) (machineSet : MachineSet) (key : ObjectKey) (nodeName : String)
    (machine : Machine) (node : Node) : Contents where
  machines := Function.update contents.machines key
    (some (settledMachine machineSet machine node).content)
  nodes := Function.update contents.nodes nodeName
    (some (settledNode machineSet machine node).content)

/-- Settles pairs one after the other. Gives the first node that is missing, if there is one; the
pairs from there on are left as they are. -/
def settle (machineSet : MachineSet) :
    List (ObjectKey × String) → Contents → Option String × Contents
  | [], contents => (none, contents)
  | (key, nodeName) :: rest, contents =>
      match contents.machines key, contents.nodes nodeName with
      | some machine, some node =>
          settle machineSet rest (contents.settlePair machineSet key nodeName machine node)
      | _, _ => (some nodeName, contents)

/-- The same machines and nodes in a part of the store. -/
structure AgreeOn (bound : List (ObjectKey × String)) (first second : Contents) : Prop where
  machines : ∀ key ∈ bound.map (·.1), first.machines key = second.machines key
  nodes : ∀ name ∈ bound.map (·.2), first.nodes name = second.nodes name

variable {machineSet : MachineSet} {bound rest : List (ObjectKey × String)} {key : ObjectKey}
  {nodeName : String} {machine : Machine} {node : Node} {first second third contents : Contents}

theorem settle_cons (found : contents.machines key = some machine)
    (there : contents.nodes nodeName = some node) :
    contents.settle machineSet ((key, nodeName) :: rest) =
      (contents.settlePair machineSet key nodeName machine node).settle machineSet rest := by
  rw [settle, found, there]

theorem settle_cons_of_none (missing : contents.nodes nodeName = none) :
    contents.settle machineSet ((key, nodeName) :: rest) = (some nodeName, contents) := by
  rw [settle, missing]
  cases contents.machines key <;> rfl

/-- Versions do not matter. -/
theorem settlePair_content :
    contents.settlePair machineSet key nodeName machine.content node.content =
      contents.settlePair machineSet key nodeName machine node := by
  rw [settlePair, settlePair, settledMachine_content, settledNode_content]
  rfl

/-- A pair on the course of another one is put where that one is. -/
theorem settlePair_of_sameCourse {machine' : Machine} {node' : Node}
    (course : SameCourse machineSet machine node machine' node') :
    contents.settlePair machineSet key nodeName machine' node' =
      contents.settlePair machineSet key nodeName machine node := by
  rw [settlePair, settlePair, course.ofMachine, course.ofNode]

/-- A pair that is put where it is. -/
theorem settlePair_eq_self (machineAt : contents.machines key =
      some (settledMachine machineSet machine node).content)
    (nodeAt : contents.nodes nodeName = some (settledNode machineSet machine node).content) :
    contents.settlePair machineSet key nodeName machine node = contents := by
  rw [settlePair, ← machineAt, ← nodeAt, Function.update_eq_self, Function.update_eq_self]

namespace AgreeOn

theorem refl : AgreeOn bound contents contents := ⟨fun _ _ => rfl, fun _ _ => rfl⟩

theorem symm (agree : AgreeOn bound first second) : AgreeOn bound second first :=
  ⟨fun key here => (agree.machines key here).symm, fun name here => (agree.nodes name here).symm⟩

theorem trans (agree : AgreeOn bound first second) (agree' : AgreeOn bound second third) :
    AgreeOn bound first third :=
  ⟨fun key here => (agree.machines key here).trans (agree'.machines key here),
    fun name here => (agree.nodes name here).trans (agree'.nodes name here)⟩

/-- Putting the same pair in the same place. -/
theorem settlePair (agree : AgreeOn bound first second) :
    AgreeOn bound (first.settlePair machineSet key nodeName machine node)
      (second.settlePair machineSet key nodeName machine node) where
  machines place here := by
    simp only [Contents.settlePair, Function.update_apply, agree.machines place here]
  nodes name here := by
    simp only [Contents.settlePair, Function.update_apply, agree.nodes name here]

/-- Where pairs are taken depends on the part of the store that they make up. -/
theorem settle {pairs : List (ObjectKey × String)} (agree : AgreeOn bound first second)
    (listed : ∀ pair ∈ pairs, pair ∈ bound) :
    (first.settle machineSet pairs).1 = (second.settle machineSet pairs).1 ∧
      AgreeOn bound (first.settle machineSet pairs).2 (second.settle machineSet pairs).2 := by
  induction pairs generalizing first second with
  | nil => exact ⟨rfl, agree⟩
  | cons pair rest ih =>
      obtain ⟨key, nodeName⟩ := pair
      have here := listed (key, nodeName) List.mem_cons_self
      rw [Contents.settle, Contents.settle,
        agree.machines key (List.mem_map_of_mem (f := (·.1)) here),
        agree.nodes nodeName (List.mem_map_of_mem (f := (·.2)) here)]
      split
      · exact ih agree.settlePair fun pair member => listed pair (List.mem_cons_of_mem _ member)
      · exact ⟨rfl, agree⟩

end AgreeOn

end Contents

/-! ## Updates -/

namespace MemoryStore

variable (store : MemoryStore) (machineSet : MachineSet) (key : ObjectKey) (nodeName : String)
  (machine revisedMachine : Machine) (node revisedNode : Node)

/-- Where a pair is put does not depend on an update of its machine. -/
theorem settlePair_putMachine :
    (store.putMachine key revisedMachine).contents.settlePair machineSet key nodeName machine node =
      store.contents.settlePair machineSet key nodeName machine node := by
  have updated : (store.putMachine key revisedMachine).contents.machines =
      Function.update store.contents.machines key (some revisedMachine.content) := by
    funext place
    by_cases here : place = key
    · simp [contents, putMachine, here, SortedMap.get?_insert_self]
    · simp [contents, putMachine, here, SortedMap.get?_insert_of_ne]
  rw [Contents.settlePair, updated, Function.update_idem]
  rfl

/-- So it does not on one of its node. -/
theorem settlePair_putNode :
    (store.putNode nodeName revisedNode).contents.settlePair machineSet key nodeName machine node =
      store.contents.settlePair machineSet key nodeName machine node := by
  have updated : (store.putNode nodeName revisedNode).contents.nodes =
      Function.update store.contents.nodes nodeName (some revisedNode.content) := by
    funext name
    by_cases here : name = nodeName
    · simp [contents, putNode, here, SortedMap.get?_insert_self]
    · simp [contents, putNode, here, SortedMap.get?_insert_of_ne]
  rw [Contents.settlePair, updated, Function.update_idem]
  rfl

end MemoryStore

/-! ## The forecast -/

/-- The result of a pass over a machine set that is in order, given the node that it misses. -/
def resultOf (machineSet : MachineSet) (machines : List Machine) :
    Option String → Except ControllerError Outcome
  | none => .ok (passOutcome (templateWarnings machineSet machines))
  | some nodeName => .error (.store (.notFound (Request.getNode nodeName).subject))

/-- What a pass over a machine set comes to: its result, and what the store holds in the end. -/
def MemoryStore.forecast (store : MemoryStore) (machineSet : MachineSet) (ns name : String) :
    Except ControllerError Outcome × Contents :=
  match validateMachineSet machineSet with
  | .error error => (.error (.selector (ns ++ "/" ++ name) error), store.contents)
  | .ok _ =>
      (resultOf machineSet (store.selected machineSet ns)
          (store.contents.settle machineSet (bindings (store.selected machineSet ns))).1,
        (store.contents.settle machineSet (bindings (store.selected machineSet ns))).2)

theorem MemoryStore.forecast_of_error (store : MemoryStore) {machineSet : MachineSet}
    {ns name : String} {error : SelectorError}
    (faulty : validateMachineSet machineSet = .error error) :
    store.forecast machineSet ns name =
      (.error (.selector (ns ++ "/" ++ name) error), store.contents) := by
  rw [forecast, faulty]

theorem MemoryStore.forecast_of_ok (store : MemoryStore) {machineSet : MachineSet}
    {ns name : String} {matcher : LabelMatcher}
    (valid : validateMachineSet machineSet = .ok matcher) :
    store.forecast machineSet ns name =
      (resultOf machineSet (store.selected machineSet ns)
          (store.contents.settle machineSet (bindings (store.selected machineSet ns))).1,
        (store.contents.settle machineSet (bindings (store.selected machineSet ns))).2) := by
  rw [forecast, valid]

section Forecast

variable {bound other : List (ObjectKey × String)} {store after : MemoryStore}
  {machineSet : MachineSet} {ns : String}

/-- What happens elsewhere changes nothing of what a part of the store holds. -/
theorem Within.agreeOn (within : Within other store after) (apart : Apart bound other) :
    Contents.AgreeOn bound after.contents store.contents where
  machines _ here := congrArg (Option.map Machine.content) (within.machine_eq apart here)
  nodes _ here := congrArg (Option.map Node.content) (within.node_eq apart here)

/-- The forecast stays the same whatever happens in another part of the store. -/
theorem MemoryStore.forecast_congr (within : Within other store after)
    (apart : Apart (bindings (store.selected machineSet ns)) other) (name : String) :
    (after.forecast machineSet ns name).1 = (store.forecast machineSet ns name).1 ∧
      Contents.AgreeOn (bindings (store.selected machineSet ns))
        (after.forecast machineSet ns name).2 (store.forecast machineSet ns name).2 := by
  have agree := within.agreeOn apart
  have settles : (after.contents.settle machineSet (bindings (store.selected machineSet ns))).1 =
        (store.contents.settle machineSet (bindings (store.selected machineSet ns))).1 ∧ _ :=
    agree.settle fun _ member => member
  have results : resultOf machineSet (after.selected machineSet ns) =
      resultOf machineSet (store.selected machineSet ns) := by
    funext missing
    cases missing with
    | none =>
        rw [resultOf, resultOf, templateWarnings_congr machineSet
          (MemoryStore.selected_unmanaged within.unmanaged machineSet ns)]
    | some nodeName => rfl
  rw [forecast, forecast, within.bindings_selected, results]
  cases validateMachineSet machineSet with
  | error error => exact ⟨rfl, agree⟩
  | ok matcher =>
      exact ⟨congrArg (resultOf machineSet (store.selected machineSet ns)) settles.1, settles.2⟩

end Forecast

end NodeSync
