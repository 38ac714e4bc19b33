/-
Module: NodeSync.Configuration
Purpose: The settings of the controller, read from variables. A variable that is unset or blank
  means its default, and white space around a value does not count. The first value that cannot
  be read is the error; only if all can be read, the first one out of its range is.
Main exports: Configuration, Configuration.read
-/
import NodeSync.ControllerError
import NodeSync.SocketAddress
import NodeSync.Text.Blank

namespace NodeSync

open NodeSync.Text

set_option autoImplicit false

/-- The settings of the controller. -/
structure Configuration where
  /-- The namespace of the machine sets and machines. -/
  ns : String
  metricsAddress : SocketAddress
  /-- How many machine sets are looked at at once. -/
  concurrency : UInt16
  backoffMinimum : UInt64
  backoffMaximum : UInt64
  resync : UInt64
deriving Repr, DecidableEq

namespace Configuration

/-- The variables: the value of each one that is set. -/
abbrev Variables := String → Option String

/-- A reader of values, with the text of its error. -/
abbrev Reader (α : Type) := List Char → Except String α

/-- The value of a variable that is set and not blank. -/
def value? (assigned : Variables) (key : String) : Option String :=
  (assigned key).filter fun raw => !isBlankText raw

/-- The setting that a variable holds; the error shows the value as it was given. -/
def setting {α : Type} (assigned : Variables) (key : String) (default : α) (read : Reader α) :
    Except ControllerError α :=
  match value? assigned key with
  | none => .ok default
  | some raw =>
      match read (trimList raw.toList) with
      | .ok value => .ok value
      | .error text => .error (.invalidConfig (key ++ "=" ++ quoted raw ++ ": " ++ text))

/-- Reads an unsigned number of at most `bound`. -/
def number (bound : Nat) : Reader Nat := fun cs =>
  (readNumeral bound cs).mapError NumeralError.message

def number16 : Reader UInt16 := fun cs => (number (UInt16.size - 1) cs).map UInt16.ofNat

def number64 : Reader UInt64 := fun cs => (number (UInt64.size - 1) cs).map UInt64.ofNat

/-- Reads an address with a port. -/
def address : Reader SocketAddress := fun cs =>
  match SocketAddress.read? cs with
  | some address => .ok address
  | none => .error "invalid socket address syntax"

def defaultNs : String := "openshift-machine-api"

/-- Port 8082 on every interface. -/
def defaultMetricsAddress : SocketAddress := ⟨.v4 ⟨0, 0, 0, 0⟩, 8082⟩

/-- The first condition on the ranges of the settings that does not hold. -/
def check (configuration : Configuration) : Except ControllerError Unit :=
  if configuration.concurrency = 0 then
    .error (.invalidConfig "RECONCILE_CONCURRENCY must be at least 1")
  else if configuration.backoffMinimum = 0 ∨
      configuration.backoffMaximum < configuration.backoffMinimum then
    .error (.invalidConfig ("BACKOFF_MIN_SECONDS (" ++
      decimal configuration.backoffMinimum.toNat ++
      ") must be positive and not exceed BACKOFF_MAX_SECONDS (" ++
      decimal configuration.backoffMaximum.toNat ++ ")"))
  else if configuration.resync = 0 then
    .error (.invalidConfig "RESYNC_INTERVAL_SECONDS must be at least 1")
  else .ok ()

/-- Reads the settings. -/
def read (assigned : Variables) : Except ControllerError Configuration := do
  let ns := (value? assigned "WATCH_NAMESPACE").getD defaultNs
  let metricsAddress ← setting assigned "METRICS_BIND_ADDRESS" defaultMetricsAddress address
  let concurrency ← setting assigned "RECONCILE_CONCURRENCY" 4 number16
  let backoffMinimum ← setting assigned "BACKOFF_MIN_SECONDS" 5 number64
  let backoffMaximum ← setting assigned "BACKOFF_MAX_SECONDS" 300 number64
  let resync ← setting assigned "RESYNC_INTERVAL_SECONDS" 600 number64
  let configuration : Configuration :=
    ⟨ns, metricsAddress, concurrency, backoffMinimum, backoffMaximum, resync⟩
  configuration.check
  return configuration

end Configuration

end NodeSync
