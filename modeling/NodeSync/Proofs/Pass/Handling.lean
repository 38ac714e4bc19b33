/-
Module: NodeSync.Proofs.Pass.Handling
Purpose: Which machine a pass is at, read off its journal. A pass asks for the nodes of the selected
  machines one after the other, so that the calls tell which of the listed machines it has read the
  node of last; the copies that it had last tell how it has them.
Main exports: setRead?, atHand?, ahead, inHand?, Handling, Handling.unique, Handling.getNode,
  Handling.updateMachine, NodeUpdateDue
-/
import NodeSync.Proofs.Pass.Conduct
import NodeSync.Proofs.Pass.Journal

namespace NodeSync

set_option autoImplicit false

/-! ## Reading the journal -/

/-- The machine set that the program has read last. -/
def setRead? : List Happening → Option MachineSet
  | .call _ (.getMachineSet _ _) (some (.ok machineSet)) :: _ => some machineSet
  | _ :: older => setRead? older
  | [] => none

/-- The node that the program has read last, with the name that it was read by, unless the program
has written a node since. -/
def atHand? : List Happening → Option (String × Node)
  | .call _ (.getNode name) (some (.ok node)) :: _ => some (name, node)
  | .call _ (.updateNode _) (some (.ok _)) :: _ => none
  | _ :: older => atHand? older
  | [] => none

/-- The machines that a set selects of those that are listed, less those without a node. -/
def MachineSet.provisioned (machineSet : MachineSet) (listed : List Machine) : List Machine :=
  match selectMachines machineSet listed with
  | .ok selected => selected.filter fun machine => machine.nodeName?.isSome
  | .error _ => []

/-- The machines that are still to come: those of the set among the listed ones, less one for each
node that the program has asked for since. -/
def ahead : List Happening → List Machine
  | .call _ (.listMachines _) (some (.ok listed)) :: older =>
      ((setRead? older).map fun machineSet => machineSet.provisioned listed).getD []
  | .call _ (.getNode _) _ :: older => (ahead older).tail
  | _ :: older => ahead older
  | [] => []

/-- The machine, as it was listed, whose node the program has read last. -/
def inHand? : List Happening → Option Machine
  | .call _ (.getNode _) (some (.ok _)) :: older => (ahead older).head?
  | _ :: older => inHand? older
  | [] => none

/-- A program is at a machine of a set: the set is the one that it has read, and the machine is the
one whose node it has read last, by its name, as the program had the machine last. -/
structure Handling (journal : List Happening) (machineSet : MachineSet) (machine : Machine)
    (name : String) : Prop where
  read : setRead? journal = some machineSet
  listed : (inHand? journal).map Machine.place = some machine.place
  copied : lastCopy? (.machine machine.place) journal = some (.machine machine)
  provisioned : machine.nodeName? = some name

section Journal

variable {before : MemoryStore} {request : Request} {reply : Option request.Reply}
  {older : List Happening}

theorem setRead?_ready (state : Contested) :
    setRead? state.ready.journal = setRead? state.journal :=
  Contested.ready_preserves (fun after => setRead? after.journal = setRead? state.journal)
    (fun _ => rfl) (fun _ _ same => same)

theorem atHand?_ready (state : Contested) : atHand? state.ready.journal = atHand? state.journal :=
  Contested.ready_preserves (fun after => atHand? after.journal = atHand? state.journal)
    (fun _ => rfl) (fun _ _ same => same)

theorem ahead_ready (state : Contested) : ahead state.ready.journal = ahead state.journal :=
  Contested.ready_preserves (fun after => ahead after.journal = ahead state.journal)
    (fun _ => rfl) (fun _ _ same => same)

theorem inHand?_ready (state : Contested) : inHand? state.ready.journal = inHand? state.journal :=
  Contested.ready_preserves (fun after => inHand? after.journal = inHand? state.journal)
    (fun _ => rfl) (fun _ _ same => same)

/-- After the machines are listed, those of the set are to come. -/
theorem ahead_listMachines {ns : String} {machineSet : MachineSet} {listed selected : List Machine}
    (read : setRead? older = some machineSet)
    (selects : selectMachines machineSet listed = .ok selected) :
    ahead (.call before (.listMachines ns) (some (.ok listed)) :: older) =
      selected.filter fun machine => machine.nodeName?.isSome := by
  change ((setRead? older).map fun machineSet => machineSet.provisioned listed).getD [] = _
  rw [read, Option.map_some, Option.getD_some, MachineSet.provisioned, selects]

/-- A call without success reads no set. -/
theorem setRead?_of_failed (failed : ∀ answer, reply ≠ some (.ok answer)) :
    setRead? (.call before request reply :: older) = setRead? older := by
  rcases reply with _ | error | answer
  · cases request <;> rfl
  · cases request <;> rfl
  · exact absurd rfl (failed answer)

/-- A call without success leaves the node at hand. -/
theorem atHand?_of_failed (failed : ∀ answer, reply ≠ some (.ok answer)) :
    atHand? (.call before request reply :: older) = atHand? older := by
  rcases reply with _ | error | answer
  · cases request <;> rfl
  · cases request <;> rfl
  · exact absurd rfl (failed answer)

/-- A call without success leaves the machine in hand. -/
theorem inHand?_of_failed (failed : ∀ answer, reply ≠ some (.ok answer)) :
    inHand? (.call before request reply :: older) = inHand? older := by
  rcases reply with _ | error | answer
  · cases request <;> rfl
  · cases request <;> rfl
  · exact absurd rfl (failed answer)

/-- A node at hand is the copy that the program had last of it. -/
theorem isSome_lastCopy?_of_atHand? {journal : List Happening} {name : String} {node : Node}
    (atHand : atHand? journal = some (name, node)) :
    (lastCopy? (.node name) journal).isSome = true := by
  induction journal with
  | nil => cases atHand
  | cons happening older ih =>
      rw [lastCopy?, Option.isSome_or]
      unfold atHand? at atHand
      split at atHand
      · rename_i same
        cases same
        cases atHand
        simp [shown?_getNode]
      · cases atHand
      · rename_i same
        cases same
        rw [ih atHand, Bool.or_true]
      · rename_i same
        cases same

end Journal

/-! ## The machine in hand -/

namespace Handling

variable {before : MemoryStore} {older journal : List Happening} {name : String}
  {machineSet machineSet' : MachineSet} {machine machine' : Machine} {node : Node}

/-- A program is at one machine only. -/
theorem unique (handling : Handling journal machineSet machine name) {name' : String}
    (other : Handling journal machineSet' machine' name') :
    machineSet' = machineSet ∧ machine' = machine := by
  have sets := handling.read.symm.trans other.read
  have copied := other.copied
  rw [← Option.some.inj (handling.listed.symm.trans other.listed), handling.copied] at copied
  exact ⟨(Option.some.inj sets).symm, (Item.machine.inj (Option.some.inj copied)).symm⟩

theorem event (handling : Handling older machineSet machine name) (event : Event) :
    Handling (.event before event :: older) machineSet machine name :=
  ⟨handling.read, handling.listed, handling.copied, handling.provisioned⟩

/-- The turn of the others makes no difference. -/
theorem ready_iff {state : Contested} :
    Handling state.ready.journal machineSet machine name ↔
      Handling state.journal machineSet machine name := by
  constructor
  · rintro ⟨read, listed, copied, provisioned⟩
    rw [setRead?_ready] at read
    rw [inHand?_ready] at listed
    rw [lastCopy?_ready] at copied
    exact ⟨read, listed, copied, provisioned⟩
  · exact fun handling => Contested.ready_preserves
      (fun after => Handling after.journal machineSet machine name) (fun _ => handling)
      (fun _ event handling => handling.event event)

theorem ready {state : Contested} (handling : Handling state.journal machineSet machine name) :
    Handling state.ready.journal machineSet machine name :=
  ready_iff.mpr handling

/-- A call without success makes no difference. -/
theorem failed_iff {request : Request} {reply : Option request.Reply}
    (failed : ∀ answer, reply ≠ some (.ok answer)) :
    Handling (.call before request reply :: older) machineSet machine name ↔
      Handling older machineSet machine name := by
  have copies : ∀ slot, lastCopy? slot (.call before request reply :: older) =
      lastCopy? slot older := by
    intro slot
    rw [lastCopy?, shown?_of_failed failed, Option.none_or]
  constructor
  · rintro ⟨read, listed, copied, provisioned⟩
    rw [setRead?_of_failed failed] at read
    rw [inHand?_of_failed failed] at listed
    rw [copies] at copied
    exact ⟨read, listed, copied, provisioned⟩
  · rintro ⟨read, listed, copied, provisioned⟩
    rw [← setRead?_of_failed failed] at read
    rw [← inHand?_of_failed failed] at listed
    rw [← copies] at copied
    exact ⟨read, listed, copied, provisioned⟩

/-- The program comes to the next machine. -/
theorem getNode {rest : List Machine} (read : setRead? older = some machineSet)
    (next : ahead older = machine :: rest)
    (copied : lastCopy? (.machine machine.place) older = some (.machine machine))
    (provisioned : machine.nodeName? = some name) :
    Handling (.call before (.getNode name) (some (.ok node)) :: older) machineSet machine name where
  read := read
  listed := congrArg (fun machines => machines.head?.map Machine.place) next
  copied := by simp [lastCopy?, shown?_getNode, copied]
  provisioned := provisioned

/-- After an update of the machine the program is at the machine that was given back. -/
theorem updateMachine (handling : Handling older machineSet machine name) {revised : Machine}
    (revises : machine.Revises revised) (version : Option String) :
    Handling (.call before (.updateMachine revised) (some (.ok (revised.withVersion version))) ::
      older) machineSet (revised.withVersion version) name where
  read := handling.read
  listed := by
    exact handling.listed.trans (congrArg some revises.place.symm)
  copied := by
    rw [lastCopy?, shown?_updateMachine]
    exact congrArg (Option.or · _) (if_pos rfl)
  provisioned := by
    have same : revised.nodeName? = machine.nodeName? := by
      rw [Machine.nodeName?, revises.status, ← Machine.nodeName?]
    exact same.trans handling.provisioned

theorem updateNode (handling : Handling older machineSet machine name) {revised updated : Node} :
    Handling (.call before (.updateNode revised) (some (.ok updated)) :: older) machineSet machine
      name where
  read := handling.read
  listed := handling.listed
  copied := by simp [lastCopy?, shown?_updateNode, handling.copied]
  provisioned := handling.provisioned

end Handling

/-! ## Writes to the node that are due -/

/-- A pass that is at a machine has its node to write, as it has read the node: the labels or their
record are not as expected, or the taints differ. -/
def NodeUpdateDue (machineSet : MachineSet) (machine : Machine) (node : Node) : Prop :=
  ¬node.AgreesWith (expectedLabels machineSet machine node) ∨
    (taintDiff (desiredTaints machineSet node) node.taints).isEmpty = false

section Due

variable {machineSet : MachineSet} {machine machine' : Machine} {node : Node}

/-- Of the machine, only the labels that are expected matter. -/
theorem nodeUpdateDue_congr
    (same : expectedLabels machineSet machine' node = expectedLabels machineSet machine node) :
    NodeUpdateDue machineSet machine' node ↔ NodeUpdateDue machineSet machine node := by
  rw [NodeUpdateDue, NodeUpdateDue, same]

theorem Finished.not_nodeUpdateDue (finished : Finished machineSet machine node)
    (agrees : node.AgreesWith (expectedLabels machineSet machine node)) :
    ¬NodeUpdateDue machineSet machine node := by
  rintro (disagrees | differ)
  · exact disagrees agrees
  · exact Bool.false_ne_true (differ.symm.trans finished.nodeTaints)

end Due

end NodeSync
