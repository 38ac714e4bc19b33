/-
Module: NodeSync.Pass.Synchronise
Purpose: One pass over a machine set. It reads the set, selects its machines, and for every
  machine with a node it writes, in this order and only where something differs: the labels of the
  machine, its taints, the labels of the node, and the taints of the node. The first failure ends
  the pass; what was written stays, and the next pass goes on from there.
Main exports: Warning, Outcome, synchronise
-/
import NodeSync.Pass.Program
import NodeSync.Provenance
import NodeSync.Selection
import NodeSync.TaintSet

namespace NodeSync

set_option autoImplicit false

/-- A fault of a template that no repetition of the pass will mend: the taints of a machine that
are listed more than once. The node gets one of each. -/
structure Warning where
  machine : String
  duplicates : List Taint
deriving Repr, Inhabited, DecidableEq

/-- A taint in writing. -/
def Taint.text (taint : Taint) : String :=
  taint.key ++ "=" ++ taint.value.getD "" ++ ":" ++ taint.effect

def Warning.text (warning : Warning) : String :=
  "machine " ++ warning.machine ++ " has duplicate taints [" ++
    ", ".intercalate (warning.duplicates.map Taint.text) ++ "]"

/-- The result of a pass that did not fail. -/
inductive Outcome where
  /-- Every selected machine and its node agree with the template. -/
  | synced
  /-- There is no such machine set. -/
  | gone
  /-- As `synced`, but the template has faults. -/
  | degraded (warnings : List Warning)
deriving Repr, Inhabited, DecidableEq

/-- Writes the machine's node labels if they differ from the expected ones. -/
def writeMachineLabels (machine : Machine) (expected : Labels) (name ns : String) :
    Pass Machine :=
  if machine.nodeLabels = expected then return machine
  else Pass.call (.updateMachine (machine.setNodeLabels expected)) (Pass.blameLabels name ns)

/-- Writes the machine's node taints if they differ from those of the template in any respect. -/
def writeMachineTaints (machine : Machine) (template : List Taint) (name ns : String) :
    Pass Machine :=
  if machine.spec.taints = template then return machine
  else Pass.call (.updateMachine (machine.setTaints template)) (Pass.blameTaints name ns)

/-- Writes the node's labels and their record if they differ from the expected ones. -/
def writeNodeLabels (node : Node) (expected : Labels) (name : String) : Pass Node :=
  let (synced, changed) := syncNodeLabels node expected
  if changed then Pass.call (.updateNode synced) (Pass.blameLabels name "")
  else return synced

/-- Writes the node's taints if they differ from those of the machine as sets; cordon taints of
the node stay. -/
def writeNodeTaints (node : Node) (machineTaints : List Taint) (name : String) : Pass Unit :=
  let desired := expectedNodeTaints machineTaints node.taints
  if (taintDiff desired node.taints).isEmpty then return ()
  else do
    let _ ← Pass.call (.updateNode (node.setTaints desired)) (Pass.blameTaints name "")
    return ()

/-- Brings one machine and its node in line with the template; a machine without a node is left
alone. -/
def synchroniseMachine (machineSet : MachineSet) (machine : Machine) : Pass (Option Warning) := do
  let name := machine.metadata.anyName
  let ns := machine.metadata.ns.getD ""
  match machine.nodeName? with
  | none => return none
  | some nodeName =>
      let node ← Pass.call (.getNode nodeName) (Pass.blameLabels nodeName "")
      let expected := expectedLabels machineSet machine node
      let machine ← writeMachineLabels machine expected name ns
      let machine ← writeMachineTaints machine machineSet.templateTaints name ns
      let node ← writeNodeLabels node expected nodeName
      let taints := dedupTaints machine.spec.taints
      writeNodeTaints node taints.unique nodeName
      return if taints.duplicates.isEmpty then none else some ⟨name, taints.duplicates⟩

/-- Brings machines and their nodes in line with the template, one after the other. -/
def synchroniseMachines (machineSet : MachineSet) : List Machine → Pass (List Warning)
  | [] => return []
  | machine :: rest => do
      let warning ← synchroniseMachine machineSet machine
      let warnings ← synchroniseMachines machineSet rest
      return warning.toList ++ warnings

/-- A pass over the machine set that was read. -/
def synchroniseSet (machineSet : MachineSet) (ns name : String) : Pass Outcome := do
  let machines ← Pass.call (.listMachines ns) Pass.noBlame
  match selectMachines machineSet machines with
  | .error error => throw (.selector (ns ++ "/" ++ name) error)
  | .ok selected =>
      let warnings ← synchroniseMachines machineSet selected
      return if warnings.isEmpty then .synced else .degraded warnings

/-- What a pass does once it asked for its machine set. A set that is not there is no error. -/
def afterMachineSet (ns name : String) :
    Except ControllerError MachineSet → Program (Except ControllerError Outcome)
  | .ok machineSet => (synchroniseSet machineSet ns name).run
  | .error (.store (.notFound _)) => .done (.ok .gone)
  | .error error => .done (.error error)

/-- The pass over the machine set at a place. -/
def synchronise (ns name : String) : Program (Except ControllerError Outcome) :=
  (Program.guarded (.getMachineSet ns name)).bind (afterMachineSet ns name)

/-- A pass that was not given its machine set makes no further call. -/
theorem afterMachineSet_error (ns name : String) (error : ControllerError) :
    afterMachineSet ns name (.error error) = .done (.ok .gone) ∨
      afterMachineSet ns name (.error error) = .done (.error error) := by
  by_cases absent : ∃ what, error = .store (.notFound what)
  · obtain ⟨what, rfl⟩ := absent
    exact .inl rfl
  · exact .inr (afterMachineSet.eq_3 ns name error fun what found => absent ⟨what, found⟩)

/-- Runs a pass. -/
def runPass {σ : Type} (environment : Environment σ) (ns name : String) (state : σ) :
    Except ControllerError Outcome × σ :=
  (synchronise ns name).run environment state

end NodeSync
