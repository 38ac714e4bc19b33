/-
Module: NodeSync.Metrics
Purpose: The numbers that the controller publishes: how often the labels or taints of an object
  could not be brought up to date, by object and reason, and whether it collects them at all. They
  are published as families of samples in a text format.
Main exports: Series, Metrics, Metrics.record, Metrics.setCollectorUp, Metrics.render,
  Metrics.registerAgain
-/
import NodeSync.Double.Shortest
import NodeSync.Pass.Program

namespace NodeSync

open NodeSync.Text

set_option autoImplicit false

/-- A sample: the values of its labels and its number, which starts over at zero after the greatest
one. -/
structure Sample where
  labels : List String
  value : UInt64
deriving Repr, Inhabited, DecidableEq

/-- The FNV-1a fingerprint of some bytes. -/
def fingerprint (bytes : List UInt8) : UInt64 :=
  bytes.foldl (fun before byte => (before ^^^ byte.toUInt64) * 1099511628211) 14695981039346656037

/-- The bytes of a text. -/
def textBytes (text : String) : List UInt8 := text.toList.flatMap String.utf8EncodeChar

/-- The samples of a family. A sample is found by the fingerprint of its label values, written one
after the other. Values with the same fingerprint share a sample, which keeps the labels that it was
created with. -/
abbrev Series := SortedMap UInt64 Sample

namespace Series

/-- Under what a sample is found. -/
def key (labels : List String) : UInt64 := fingerprint (labels.flatMap textBytes)

/-- Changes the number of the sample for some label values; a new one starts at zero. -/
def update (series : Series) (labels : List String) (change : UInt64 → UInt64) : Series :=
  let sample := (series.get? (key labels)).getD ⟨labels, 0⟩
  series.insert (key labels) { sample with value := change sample.value }

/-- The samples, ordered by their first label value, then by the second, and so on. -/
def samples (series : Series) : List Sample :=
  series.values.mergeSort fun first second =>
    (List.compareLex compare first.labels second.labels).isLE

end Series

/-- What is published about a family beside its samples. -/
structure FamilyInfo where
  name : String
  help : String
  kind : String
  labelNames : List String
deriving Repr, Inhabited, DecidableEq

namespace FamilyInfo

/-- Failures to bring labels up to date. -/
def labelFailures : FamilyInfo :=
  ⟨"mnmo_label_update_failed", "Number of times label update has failed.", "counter",
    ["name", "namespace", "reason"]⟩

/-- Failures to bring taints up to date. -/
def taintFailures : FamilyInfo :=
  ⟨"mnmo_taint_update_failed", "Number of times taint update has failed.", "counter",
    ["name", "namespace", "reason"]⟩

/-- Whether metrics are collected. -/
def collectorUp : FamilyInfo :=
  ⟨"mnmo_collector_up",
    "Managed node metadata operator metrics are being collected and reported successfully",
    "gauge", ["kind"]⟩

/-- The written form of one character of a label value. -/
def escapeChar (c : Char) : List Char :=
  if c = '\\' then ['\\', '\\']
  else if c = '\n' then ['\\', 'n']
  else if c = '"' then ['\\', '"']
  else [c]

/-- A label with its value. -/
def printLabel (name value : String) : String :=
  name ++ "=\"" ++ String.ofList (value.toList.flatMap escapeChar) ++ "\""

/-- A number in writing. It is published as the nearest double, which is the number itself as long
as its bits fit a mantissa. -/
def printNumber (value : UInt64) : String :=
  if value.toNat < 2 * Double.leadingBit then decimal value.toNat
  else
    let shortest := (Double.nearest value.toNat).shortest
    String.ofList (shortest.digits ++ List.replicate shortest.exponent.toNat '0')

/-- The line of a sample. -/
def printSample (info : FamilyInfo) (sample : Sample) : String :=
  info.name ++ "\x7b" ++ ",".intercalate (List.zipWith printLabel info.labelNames sample.labels) ++
    "\x7d " ++ printNumber sample.value ++ "\n"

/-- The text of a family, empty if it has no samples. -/
def print (info : FamilyInfo) (series : Series) : String :=
  match series.samples with
  | [] => ""
  | samples =>
      "# HELP " ++ info.name ++ " " ++ info.help ++ "\n# TYPE " ++ info.name ++ " " ++ info.kind ++
        "\n" ++ String.join (samples.map info.printSample)

end FamilyInfo

/-- All published numbers. -/
structure Metrics where
  labelFailures : Series
  taintFailures : Series
  collectorUp : Series
deriving Repr

namespace Metrics

/-- Without any sample. -/
def empty : Metrics := ⟨SortedMap.empty, SortedMap.empty, SortedMap.empty⟩

instance : Inhabited Metrics := ⟨empty⟩

/-- Counts a failure. -/
def record (metrics : Metrics) (failure : FailureReport) : Metrics :=
  let labels := [failure.name, failure.ns, failure.reason]
  match failure.kind with
  | .label => { metrics with labelFailures := metrics.labelFailures.update labels (· + 1) }
  | .taint => { metrics with taintFailures := metrics.taintFailures.update labels (· + 1) }

/-- The numbers after some failures. -/
def ofFailures (failures : List FailureReport) : Metrics := failures.foldl record empty

/-- Says whether metrics of some kind are collected. -/
def setCollectorUp (metrics : Metrics) (kind : String) (up : Bool) : Metrics :=
  { metrics with collectorUp := metrics.collectorUp.update [kind] fun _ => if up then 1 else 0 }

/-- The published text; families stand in the order of their names. -/
def render (metrics : Metrics) : String :=
  FamilyInfo.collectorUp.print metrics.collectorUp ++
    FamilyInfo.labelFailures.print metrics.labelFailures ++
    FamilyInfo.taintFailures.print metrics.taintFailures

/-- The kind under which the controller itself collects. -/
def collectorKind : String := "machineset"

/-- What remains of a server that is told to stop before it starts: it says that it collects, and
then that it no longer does. -/
def serveStopped (metrics : Metrics) : Metrics :=
  (metrics.setCollectorUp collectorKind true).setCollectorUp collectorKind false

/-- The families are published once; to publish them a second time is this error. -/
def registerAgain : ControllerError :=
  .metrics "Duplicate metrics collector registration attempted"

end Metrics

end NodeSync
