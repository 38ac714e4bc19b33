/-
Module: NodeSync.Store.Request
Purpose: The calls on a store of cluster objects and the types of their answers. An update
  replaces a whole object; it carries the version that was read, so that it fails when another
  writer came first.
Main exports: Operation, Request, Request.Answer, Request.Reply, Request.subject
-/
import NodeSync.Resource.MachineSet
import NodeSync.Resource.Node
import NodeSync.Store.Error

namespace NodeSync

set_option autoImplicit false

/-- The kinds of calls. -/
inductive Operation where
  | getMachineSet
  | listMachineSets
  | listMachines
  | updateMachine
  | getNode
  | updateNode
deriving Repr, Inhabited, DecidableEq

def Operation.name : Operation → String
  | .getMachineSet => "GetMachineSet"
  | .listMachineSets => "ListMachineSets"
  | .listMachines => "ListMachines"
  | .updateMachine => "UpdateMachine"
  | .getNode => "GetNode"
  | .updateNode => "UpdateNode"

/-- A call on a store. -/
inductive Request where
  | getMachineSet (ns name : String)
  | listMachineSets (ns : String)
  | listMachines (ns : String)
  | updateMachine (machine : Machine)
  | getNode (name : String)
  | updateNode (node : Node)
deriving Inhabited

/-- The namespace of an object whose metadata has none. -/
def defaultNamespace : String := "default"

namespace Request

def operation : Request → Operation
  | .getMachineSet .. => .getMachineSet
  | .listMachineSets _ => .listMachineSets
  | .listMachines _ => .listMachines
  | .updateMachine _ => .updateMachine
  | .getNode _ => .getNode
  | .updateNode _ => .updateNode

/-- What a call gives when it succeeds. -/
def Answer : Request → Type
  | .getMachineSet .. => MachineSet
  | .listMachineSets _ => List MachineSet
  | .listMachines _ => List Machine
  | .updateMachine _ => Machine
  | .getNode _ => Node
  | .updateNode _ => Node

/-- The outcome of a call. -/
abbrev Reply (request : Request) : Type := Except StoreError request.Answer

/-- The object of a call as errors name it. -/
def subject : Request → String
  | .getMachineSet ns name => "MachineSet " ++ ns ++ "/" ++ name
  | .listMachineSets ns => "MachineSets in " ++ ns
  | .listMachines ns => "Machines in " ++ ns
  | .updateMachine machine =>
      "Machine " ++ machine.metadata.ns.getD defaultNamespace ++ "/" ++
        machine.metadata.name.getD ""
  | .getNode name => "Node " ++ name
  | .updateNode node => "Node " ++ node.metadata.name.getD ""

end Request

end NodeSync
