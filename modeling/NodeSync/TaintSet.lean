/-
Module: NodeSync.TaintSet
Purpose: Lists of taints read as sets. Two taints are the same if key, value and effect agree; a
  missing value is an empty one, and the time at which a taint was added does not count.
Main exports: Taint.identity, sameTaint, isCordon, dedupTaints, taintDiff, expectedNodeTaints
-/
import NodeSync.Resource.Taint

namespace NodeSync

set_option autoImplicit false

namespace Taint

/-- What makes a taint the taint it is. -/
structure Identity where
  key : String
  value : String
  effect : String
deriving Repr, Inhabited, DecidableEq

def identity (taint : Taint) : Identity := ⟨taint.key, taint.value.getD "", taint.effect⟩

/-- The key of the taint that cordons a node. -/
def cordonKey : String := "node.kubernetes.io/unschedulable"

/-- The effect of the taint that cordons a node. -/
def cordonEffect : String := "NoSchedule"

/-- Whether a taint cordons its node, whatever its value. -/
def isCordon (taint : Taint) : Bool := taint.key == cordonKey && taint.effect == cordonEffect

end Taint

/-- Whether two taints have the same identity. -/
def sameTaint (first second : Taint) : Bool := first.identity == second.identity

/-- Whether a list has a taint of the same identity. -/
def containsTaint (taints : List Taint) (taint : Taint) : Bool := taints.any (sameTaint · taint)

/-- A list of taints split into the first taint of each identity and the repeats. -/
structure DedupedTaints where
  unique : List Taint
  duplicates : List Taint
deriving Repr, Inhabited, DecidableEq

/-- Sorts one taint into the first ones or the repeats. -/
def DedupedTaints.add (taints : DedupedTaints) (taint : Taint) : DedupedTaints :=
  if containsTaint taints.unique taint then
    { taints with duplicates := taints.duplicates ++ [taint] }
  else { taints with unique := taints.unique ++ [taint] }

/-- Drops repeated taints; of each identity the first taint is kept, both parts in their order. -/
def dedupTaints (taints : List Taint) : DedupedTaints := taints.foldl DedupedTaints.add ⟨[], []⟩

/-- The changes that turn one set of taints into another. -/
structure TaintDiff where
  toAdd : List Taint
  toRemove : List Taint
deriving Repr, Inhabited, DecidableEq

def TaintDiff.isEmpty (diff : TaintDiff) : Bool := diff.toAdd.isEmpty && diff.toRemove.isEmpty

/-- The changes that turn the current taints into the desired ones. -/
def taintDiff (desired current : List Taint) : TaintDiff :=
  ⟨desired.filter fun taint => !containsTaint current taint,
    current.filter fun taint => !containsTaint desired taint⟩

/-- Appends a taint unless one of its identity is there. -/
def addTaint (taints : List Taint) (taint : Taint) : List Taint :=
  if containsTaint taints taint then taints else taints ++ [taint]

/-- The taints that a node ends up with: those of its machine, which have no repeats, and the
cordon taints that the node has at present. -/
def expectedNodeTaints (machineTaints nodeTaints : List Taint) : List Taint :=
  (nodeTaints.filter Taint.isCordon).foldl addTaint machineTaints

end NodeSync
