/-
Module: NodeSync.Provenance
Purpose: Which labels of a node belong to the synchronisation. A node annotation lists the keys
  that were written; only those keys, and the ones that the machine already carries, may be
  overwritten or removed. Everything else on the node belongs to somebody else.
Main exports: Provenance.parse, Provenance.encode, ownedKeys, customLabels, expectedLabels,
  syncNodeLabels
-/
import NodeSync.Resource.MachineSet
import NodeSync.Resource.Node
import NodeSync.Text.Pieces

namespace NodeSync

open NodeSync.Text

set_option autoImplicit false

namespace Provenance

/-- The node annotation that lists the owned keys. -/
def annotationKey : String := "managed.openshift.com/customlabels"

/-- The character between two keys. -/
def separator : Char := ','

/-- The keys that an annotation lists. Empty pieces are no keys, so an empty and an absent
annotation list none. -/
def parse (listed : Option String) : SortedSet String :=
  SortedSet.ofList
    (((pieces separator (listed.getD "").toList).filter fun piece => !piece.isEmpty).map
      String.ofList)

/-- The annotation that lists some keys, in ascending order and each once. -/
def encode (keys : List String) : String :=
  String.ofList ([separator].intercalate ((SortedSet.ofList keys).toList.map String.toList))

/-- Whether a key can be listed without being taken apart. -/
def hasSeparator (key : String) : Bool := key.toList.contains separator

end Provenance

namespace Node

/-- The labels of the node, none if the field is absent. -/
def labelMap (node : Node) : Labels := node.metadata.labelMap

/-- The annotations of the node, none if the field is absent. -/
def annotationMap (node : Node) : Labels := node.metadata.annotations.getD SortedMap.empty

/-- The keys that the node's annotation lists as owned. -/
def ownedKeys (node : Node) : SortedSet String :=
  Provenance.parse (node.annotationMap.get? Provenance.annotationKey)

/-- The owned labels that the node has at present. -/
def customLabels (node : Node) : Labels := node.labelMap.filterKeys node.ownedKeys.contains

end Node

/-- The template labels that may be put on a machine and its node. A key with a separator could
not be recorded and is left out; so is a key that the node has without the machine carrying it or
the annotation listing it, because somebody else has set that label. -/
def expectedLabels (machineSet : MachineSet) (machine : Machine) (node : Node) : Labels :=
  machineSet.templateNodeLabels.filterKeys fun key =>
    !Provenance.hasSeparator key &&
      (!node.labelMap.contains key || machine.nodeLabels.contains key ||
        node.ownedKeys.contains key)

/-- The node labels without the owned ones that are no longer expected. -/
def keptLabels (node : Node) (expected : Labels) : Labels :=
  node.labelMap.filterKeys fun key => !node.ownedKeys.contains key || expected.contains key

/-- The annotations that record the expected keys; without expected keys there is no record. -/
def recordKeys (annotations expected : Labels) : Labels :=
  if expected.isEmpty then annotations.erase Provenance.annotationKey
  else annotations.insert Provenance.annotationKey (Provenance.encode expected.keys)

/-- Brings the owned labels and their record in line with the expected labels, and tells whether
the node was changed. The label field is present afterwards in any case. -/
def syncNodeLabels (node : Node) (expected : Labels) : Node × Bool :=
  let current := node.customLabels
  let kept := keptLabels node expected
  if current.filterKeys expected.contains = expected ∧ node.ownedKeys = expected.keySet then
    ({ node with metadata := { node.metadata with labels := some kept } },
      current.keys.any fun key => !expected.contains key)
  else
    ({ node with metadata := { node.metadata with
        labels := some (kept.override expected)
        annotations := some (recordKeys node.annotationMap expected) } },
      true)

end NodeSync
