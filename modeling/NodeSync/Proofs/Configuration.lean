/-
Module: NodeSync.Proofs.Configuration
Purpose: Which variables make a configuration, and what is wrong with others. A parameter has its
  default where its variable is vacant, else the value that the text denotes without the white
  space around it. A configuration of such values is accepted if it is in range. Otherwise the
  error is about the first parameter in the order of reading that denotes nothing, and only if each
  one denotes something about the first range that is left.
Main exports: Configuration.Vacant, Configuration.Given, Configuration.Parameter,
  Configuration.Reads, Configuration.InRange, Configuration.OutOfRange, Configuration.FirstFault,
  Configuration.accepted_iff_valid
-/
import Mathlib.Tactic.Choose
import NodeSync.Configuration
import NodeSync.Proofs.Checks
import NodeSync.Proofs.Text.Blank

namespace NodeSync

open NodeSync.Text

set_option autoImplicit false

namespace Configuration

/-! ## What variables give -/

/-- A variable that is unset, or holds nothing but white space. -/
def Vacant (assigned : Variables) (key : String) : Prop :=
  ∀ raw, assigned key = some raw → ∀ c ∈ raw.toList, isBlank c = true

/-- A variable that holds a text with other characters than white space. -/
def Given (assigned : Variables) (key raw : String) : Prop :=
  assigned key = some raw ∧ ∃ c ∈ raw.toList, isBlank c = false

/-- The namespace is taken as it stands. -/
inductive Watches (assigned : Variables) : String → Prop where
  | default (vacant : Vacant assigned "WATCH_NAMESPACE") :
      Watches assigned "openshift-machine-api"
  | given {raw : String} (given : Given assigned "WATCH_NAMESPACE" raw) : Watches assigned raw

/-- The parts of a configuration that are read from the text of a variable. -/
inductive Parameter where
  | metricsAddress
  | concurrency
  | backoffMinimum
  | backoffMaximum
  | resync
deriving DecidableEq

namespace Parameter

/-- The order of reading. -/
def inOrder : List Parameter :=
  [.metricsAddress, .concurrency, .backoffMinimum, .backoffMaximum, .resync]

theorem mem_inOrder (parameter : Parameter) : parameter ∈ inOrder := by
  cases parameter <;> decide

/-- The name of the variable. -/
def key : Parameter → String
  | .metricsAddress => "METRICS_BIND_ADDRESS"
  | .concurrency => "RECONCILE_CONCURRENCY"
  | .backoffMinimum => "BACKOFF_MIN_SECONDS"
  | .backoffMaximum => "BACKOFF_MAX_SECONDS"
  | .resync => "RESYNC_INTERVAL_SECONDS"

abbrev Value : Parameter → Type
  | .metricsAddress => SocketAddress
  | .concurrency => UInt16
  | .backoffMinimum => UInt64
  | .backoffMaximum => UInt64
  | .resync => UInt64

def default : (parameter : Parameter) → parameter.Value
  | .metricsAddress => (⟨.v4 ⟨0, 0, 0, 0⟩, 8082⟩ : SocketAddress)
  | .concurrency => (4 : UInt16)
  | .backoffMinimum => (5 : UInt64)
  | .backoffMaximum => (300 : UInt64)
  | .resync => (600 : UInt64)

/-- What a text denotes: an address, or the number of a numeral. A number that does not fit the
width of the parameter is the number of no value. -/
def Denotes : (parameter : Parameter) → List Char → parameter.Value → Prop
  | .metricsAddress, core, address => SocketAddress.read? core = some address
  | .concurrency, core, number => Text.Denotes core (UInt16.toNat number)
  | .backoffMinimum, core, number => Text.Denotes core (UInt64.toNat number)
  | .backoffMaximum, core, number => Text.Denotes core (UInt64.toNat number)
  | .resync, core, number => Text.Denotes core (UInt64.toNat number)

/-- The largest number that a parameter can have. -/
def bound? : Parameter → Option Nat
  | .metricsAddress => none
  | .concurrency => some (UInt16.size - 1)
  | .backoffMinimum => some (UInt64.size - 1)
  | .backoffMaximum => some (UInt64.size - 1)
  | .resync => some (UInt64.size - 1)

/-- A text that denotes no value, and what is said about it. -/
inductive Rejects : Parameter → List Char → String → Prop where
  | address {core : List Char} (other : SocketAddress.read? core = none) :
      Rejects .metricsAddress core "invalid socket address syntax"
  | number {parameter : Parameter} {bound : Nat} {core : List Char} {error : NumeralError}
      (width : parameter.bound? = some bound) (fault : NumeralFault bound core error) :
      Rejects parameter core error.message

/-- The value that a parameter gets from the variables. -/
inductive Gives (assigned : Variables) (parameter : Parameter) : parameter.Value → Prop where
  | default (vacant : Vacant assigned parameter.key) : Gives assigned parameter parameter.default
  | given {raw : String} {core : List Char} {value : parameter.Value}
      (given : Given assigned parameter.key raw) (trimmed : Trimmed raw.toList core)
      (denotes : parameter.Denotes core value) : Gives assigned parameter value

/-- The error about a parameter that gets none. It shows the text with its white space. -/
inductive Unreadable (assigned : Variables) (parameter : Parameter) : ControllerError → Prop where
  | given {raw text : String} {core : List Char} (given : Given assigned parameter.key raw)
      (trimmed : Trimmed raw.toList core) (rejects : parameter.Rejects core text) :
      Unreadable assigned parameter
        (.invalidConfig (parameter.key ++ "=" ++ quoted raw ++ ": " ++ text))

end Parameter

/-! ## Valid configurations -/

def value (configuration : Configuration) : (parameter : Parameter) → parameter.Value
  | .metricsAddress => configuration.metricsAddress
  | .concurrency => configuration.concurrency
  | .backoffMinimum => configuration.backoffMinimum
  | .backoffMaximum => configuration.backoffMaximum
  | .resync => configuration.resync

/-- The configuration that the variables give. -/
structure Reads (assigned : Variables) (configuration : Configuration) : Prop where
  watches : Watches assigned configuration.ns
  gives : ∀ parameter, Parameter.Gives assigned parameter (configuration.value parameter)

structure InRange (configuration : Configuration) : Prop where
  concurrency : 1 ≤ configuration.concurrency
  backoffMinimum : 1 ≤ configuration.backoffMinimum
  backoffMaximum : configuration.backoffMinimum ≤ configuration.backoffMaximum
  resync : 1 ≤ configuration.resync

/-- The first range that a configuration leaves. -/
inductive OutOfRange (configuration : Configuration) : ControllerError → Prop where
  | concurrency (zero : configuration.concurrency = 0) :
      OutOfRange configuration (.invalidConfig "RECONCILE_CONCURRENCY must be at least 1")
  | backoff (concurrency : 1 ≤ configuration.concurrency)
      (outside : configuration.backoffMinimum = 0 ∨
        configuration.backoffMaximum < configuration.backoffMinimum) :
      OutOfRange configuration (.invalidConfig ("BACKOFF_MIN_SECONDS (" ++
        decimal configuration.backoffMinimum.toNat ++
        ") must be positive and not exceed BACKOFF_MAX_SECONDS (" ++
        decimal configuration.backoffMaximum.toNat ++ ")"))
  | resync (concurrency : 1 ≤ configuration.concurrency)
      (backoffMinimum : 1 ≤ configuration.backoffMinimum)
      (backoffMaximum : configuration.backoffMinimum ≤ configuration.backoffMaximum)
      (zero : configuration.resync = 0) :
      OutOfRange configuration (.invalidConfig "RESYNC_INTERVAL_SECONDS must be at least 1")

/-- What is wrong with variables that make no configuration. -/
inductive FirstFault (assigned : Variables) : ControllerError → Prop where
  | unreadable {before after : List Parameter} {parameter : Parameter} {error : ControllerError}
      (order : Parameter.inOrder = before ++ parameter :: after)
      (sound : ∀ earlier ∈ before, ∃ value, Parameter.Gives assigned earlier value)
      (fault : Parameter.Unreadable assigned parameter error) : FirstFault assigned error
  | outOfRange {configuration : Configuration} {error : ControllerError}
      (reads : Reads assigned configuration) (fault : configuration.OutOfRange error) :
      FirstFault assigned error

/-! ## One variable -/

section Variables

variable {assigned : Variables} {key raw : String}

/-- Blank texts are passed over as if the variable was unset. -/
theorem value?_eq_none_iff : value? assigned key = none ↔ Vacant assigned key := by
  simp [value?, Option.filter_eq_none_iff, Vacant, isBlankText]

/-- Any other text is taken, with the white space around it. -/
theorem value?_eq_some_iff : value? assigned key = some raw ↔ Given assigned key raw := by
  simp [value?, Option.filter_eq_some_iff, Given, isBlankText]

theorem not_given_of_vacant (vacant : Vacant assigned key) : ¬Given assigned key raw := by
  rintro ⟨holds, c, inside, visible⟩
  rw [vacant raw holds c inside] at visible
  cases visible

/-- The namespace is the text of its variable, untrimmed, or the default. -/
theorem watches_iff {ns : String} :
    Watches assigned ns ↔ (value? assigned "WATCH_NAMESPACE").getD defaultNs = ns := by
  cases found : value? assigned "WATCH_NAMESPACE" with
  | none =>
      have vacant := value?_eq_none_iff.mp found
      constructor
      · rintro (_ | given)
        · rfl
        · exact absurd given (not_given_of_vacant vacant)
      · rintro rfl
        exact .default vacant
  | some raw =>
      have given := value?_eq_some_iff.mp found
      constructor
      · rintro (vacant | ⟨holds, -⟩)
        · exact absurd given (not_given_of_vacant vacant)
        · exact Option.some.inj (given.1.symm.trans holds)
      · rintro rfl
        exact .given given

/-- No text is refused as a namespace. -/
theorem exists_watches (assigned : Variables) : ∃ ns, Watches assigned ns :=
  ⟨_, watches_iff.mpr rfl⟩

end Variables

/-! ## The readers -/

section Numbers

variable {α : Type} {ofNat : Nat → α} {toNat : α → Nat} {bound : Nat} {core : List Char}
  {text : String}

/-- A number is read into a type that has exactly the numbers up to the bound. -/
theorem map_number_eq_ok_iff {value : α} (fits : ∀ value, toNat value ≤ bound)
    (back : ∀ value, ofNat (toNat value) = value)
    (forth : ∀ number ≤ bound, toNat (ofNat number) = number) :
    (number bound core).map ofNat = .ok value ↔ Text.Denotes core (toNat value) := by
  simp only [number, map_eq_ok_iff, mapError_eq_ok_iff, readNumeral_eq_ok_iff]
  constructor
  · rintro ⟨found, ⟨denotes, small⟩, rfl⟩
    rwa [forth found small]
  · intro denotes
    exact ⟨toNat value, ⟨denotes, fits value⟩, back value⟩

/-- A number is refused for the fault of its numeral, whatever type it is read into. -/
theorem map_number_eq_error_iff : (number bound core).map ofNat = .error text ↔
    ∃ fault, NumeralFault bound core fault ∧ fault.message = text := by
  simp only [number, map_eq_error_iff, mapError_eq_error_iff, readNumeral_eq_error_iff]

end Numbers

namespace Parameter

/-- How a parameter is read. -/
def reader : (parameter : Parameter) → Reader parameter.Value
  | .metricsAddress => address
  | .concurrency => number16
  | .backoffMinimum => number64
  | .backoffMaximum => number64
  | .resync => number64

def setting (assigned : Variables) (parameter : Parameter) :
    Except ControllerError parameter.Value :=
  Configuration.setting assigned parameter.key parameter.default parameter.reader

section Readers

variable {parameter : Parameter} {core : List Char} {text : String}

/-- Of the numbers that numerals denote, exactly those of 16 bits are read. -/
theorem number16_eq_ok_iff {number : UInt16} :
    number16 core = .ok number ↔ Text.Denotes core number.toNat :=
  map_number_eq_ok_iff (fun value => Nat.le_pred_of_lt value.toNat_lt)
    (fun _ => UInt16.ofNat_toNat)
    fun _ small => UInt16.toNat_ofNat_of_lt' (Nat.lt_of_le_pred (by decide) small)

/-- Of the numbers that numerals denote, exactly those of 64 bits are read. -/
theorem number64_eq_ok_iff {number : UInt64} :
    number64 core = .ok number ↔ Text.Denotes core number.toNat :=
  map_number_eq_ok_iff (fun value => Nat.le_pred_of_lt value.toNat_lt)
    (fun _ => UInt64.ofNat_toNat)
    fun _ small => UInt64.toNat_ofNat_of_lt' (Nat.lt_of_le_pred (by decide) small)

/-- A text that is trimmed already is read as what it denotes. -/
theorem reader_eq_ok_iff {value : parameter.Value} :
    parameter.reader core = .ok value ↔ parameter.Denotes core value := by
  cases parameter with
  | metricsAddress =>
      rw [reader, Denotes, address]
      cases SocketAddress.read? core <;> simp
  | concurrency => exact number16_eq_ok_iff
  | backoffMinimum => exact number64_eq_ok_iff
  | backoffMaximum => exact number64_eq_ok_iff
  | resync => exact number64_eq_ok_iff

theorem rejects_iff_of_bound {bound : Nat} (width : parameter.bound? = some bound) :
    parameter.Rejects core text ↔
      ∃ fault, NumeralFault bound core fault ∧ fault.message = text := by
  constructor
  · rintro (_ | ⟨other, fault⟩)
    · cases width
    · cases width.symm.trans other
      exact ⟨_, fault, rfl⟩
  · rintro ⟨_, fault, rfl⟩
    exact .number width fault

/-- It is refused if it denotes nothing, with a text that says why. -/
theorem reader_eq_error_iff :
    parameter.reader core = .error text ↔ parameter.Rejects core text := by
  cases parameter with
  | metricsAddress =>
      rw [reader, address]
      constructor
      · intro refused
        split at refused
        · cases refused
        · cases refused
          exact .address ‹_›
      · rintro (other | ⟨width, -⟩)
        · rw [other]
        · cases width
  | concurrency => exact map_number_eq_error_iff.trans (rejects_iff_of_bound rfl).symm
  | backoffMinimum => exact map_number_eq_error_iff.trans (rejects_iff_of_bound rfl).symm
  | backoffMaximum => exact map_number_eq_error_iff.trans (rejects_iff_of_bound rfl).symm
  | resync => exact map_number_eq_error_iff.trans (rejects_iff_of_bound rfl).symm

end Readers

/-! ## One parameter -/

section Settings

variable {assigned : Variables} {parameter : Parameter} {value : parameter.Value}
  {error : ControllerError}

theorem setting_of_vacant (vacant : Vacant assigned parameter.key) :
    parameter.setting assigned = .ok parameter.default := by
  rw [setting, Configuration.setting, value?_eq_none_iff.mpr vacant]

/-- The error shows the name of the variable and the text as it was given, not as it was trimmed. -/
theorem setting_of_given {raw : String} (given : Given assigned parameter.key raw) :
    parameter.setting assigned = (parameter.reader (trimList raw.toList)).mapError fun text =>
      .invalidConfig (parameter.key ++ "=" ++ quoted raw ++ ": " ++ text) := by
  rw [setting, Configuration.setting, value?_eq_some_iff.mpr given]
  dsimp only
  cases parameter.reader (trimList raw.toList) <;> rfl

theorem vacant_or_given (assigned : Variables) (key : String) :
    Vacant assigned key ∨ ∃ raw, Given assigned key raw := by
  cases found : value? assigned key with
  | none => exact .inl (value?_eq_none_iff.mp found)
  | some raw => exact .inr ⟨raw, value?_eq_some_iff.mp found⟩

/-- A parameter is read as the value that the variables give it. -/
theorem setting_eq_ok_iff :
    parameter.setting assigned = .ok value ↔ Gives assigned parameter value := by
  constructor
  · intro read
    rcases vacant_or_given assigned parameter.key with vacant | ⟨raw, given⟩
    · rw [setting_of_vacant vacant] at read
      cases read
      exact .default vacant
    · rw [setting_of_given given, mapError_eq_ok_iff, reader_eq_ok_iff] at read
      exact .given given (trimmed_trimList _) read
  · rintro (vacant | ⟨given, trimmed, denotes⟩)
    · exact setting_of_vacant vacant
    · rwa [setting_of_given given, mapError_eq_ok_iff, trimList_eq_iff.mpr trimmed,
        reader_eq_ok_iff]

/-- A parameter is refused with the error about its text. -/
theorem setting_eq_error_iff :
    parameter.setting assigned = .error error ↔ Unreadable assigned parameter error := by
  constructor
  · intro refused
    rcases vacant_or_given assigned parameter.key with vacant | ⟨raw, given⟩
    · rw [setting_of_vacant vacant] at refused
      cases refused
    · rw [setting_of_given given] at refused
      obtain ⟨text, rejected, rfl⟩ := mapError_eq_error_iff.mp refused
      exact .given given (trimmed_trimList _) (reader_eq_error_iff.mp rejected)
  · rintro ⟨given, trimmed, rejects⟩
    rw [setting_of_given given, mapError_eq_error_iff, trimList_eq_iff.mpr trimmed]
    exact ⟨_, reader_eq_error_iff.mpr rejects, rfl⟩

/-- Whether a parameter can be read. -/
def attempt (assigned : Variables) (parameter : Parameter) : Except ControllerError Unit :=
  (parameter.setting assigned).map fun _ => ()

theorem attempt_eq_ok_iff :
    attempt assigned parameter = .ok () ↔ ∃ value, Gives assigned parameter value := by
  simp only [attempt, map_eq_ok_iff, setting_eq_ok_iff, and_true]

/-- The values of parameters that can be read do not matter to the error about one that cannot. -/
theorem attempt_eq_error_iff :
    attempt assigned parameter = .error error ↔ Unreadable assigned parameter error := by
  rw [attempt, map_eq_error_iff, setting_eq_error_iff]

end Settings

end Parameter

/-! ## Ranges -/

section Ranges

variable {configuration : Configuration} {error : ControllerError}

/-- The ranges are checked one after the other: the concurrency, the two bounds of the delays, and
the interval. -/
theorem check_eq_error_iff :
    configuration.check = .error error ↔ configuration.OutOfRange error := by
  rw [check]
  constructor
  · intro refused
    split at refused
    · cases refused
      exact .concurrency ‹_›
    · rename_i concurrency
      split at refused
      · cases refused
        exact .backoff (by grind) ‹_›
      · rename_i backoff
        split at refused
        · cases refused
          exact .resync (by grind) (by grind) (by grind) ‹_›
        · cases refused
  · intro fault
    cases fault with
    | concurrency zero => rw [if_pos zero]
    | backoff concurrency outside => rw [if_neg (by grind), if_pos outside]
    | resync concurrency backoffMinimum backoffMaximum zero =>
        rw [if_neg (by grind), if_neg (by grind), if_pos zero]

/-- A configuration that leaves no range passes. -/
theorem check_eq_ok_iff : configuration.check = .ok () ↔ configuration.InRange := by
  rw [check]
  constructor
  · intro passed
    split at passed
    · cases passed
    · rename_i concurrency
      split at passed
      · cases passed
      · rename_i backoff
        split at passed
        · cases passed
        · exact ⟨by grind, by grind, by grind, by grind⟩
  · rintro ⟨concurrency, backoffMinimum, backoffMaximum, resync⟩
    rw [if_neg (by grind), if_neg (by grind), if_neg (by grind)]

end Ranges

/-! ## Whole configurations -/

section Whole

variable {assigned : Variables} {configuration : Configuration} {error : ControllerError}

/-- Where the variables give a configuration, only its ranges can refuse it. -/
theorem read_of_reads (reads : Reads assigned configuration) :
    read assigned = configuration.check.map fun _ => configuration := by
  have gives (parameter : Parameter) :
      parameter.setting assigned = .ok (configuration.value parameter) :=
    Parameter.setting_eq_ok_iff.mpr (reads.gives parameter)
  have metricsAddress : setting assigned "METRICS_BIND_ADDRESS" defaultMetricsAddress address =
      .ok configuration.metricsAddress := gives .metricsAddress
  have concurrency : setting assigned "RECONCILE_CONCURRENCY" 4 number16 =
      .ok configuration.concurrency := gives .concurrency
  have backoffMinimum : setting assigned "BACKOFF_MIN_SECONDS" 5 number64 =
      .ok configuration.backoffMinimum := gives .backoffMinimum
  have backoffMaximum : setting assigned "BACKOFF_MAX_SECONDS" 300 number64 =
      .ok configuration.backoffMaximum := gives .backoffMaximum
  have resync : setting assigned "RESYNC_INTERVAL_SECONDS" 600 number64 =
      .ok configuration.resync := gives .resync
  rw [read, watches_iff.mp reads.watches, metricsAddress, concurrency, backoffMinimum,
    backoffMaximum, resync]
  cases checked : configuration.check <;>
    simp [bind, Except.bind, Except.map, checked, pure, Except.pure]

/-- The variables give one configuration at most. -/
theorem reads_unique {other : Configuration} (reads : Reads assigned configuration)
    (otherReads : Reads assigned other) : configuration = other := by
  have namespaces : configuration.ns = other.ns :=
    (watches_iff.mp reads.watches).symm.trans (watches_iff.mp otherReads.watches)
  have values (parameter : Parameter) : configuration.value parameter = other.value parameter :=
    Except.ok.inj ((Parameter.setting_eq_ok_iff.mpr (reads.gives parameter)).symm.trans
      (Parameter.setting_eq_ok_iff.mpr (otherReads.gives parameter)))
  obtain ⟨ns, metricsAddress, concurrency, backoffMinimum, backoffMaximum, resync⟩ := configuration
  cases namespaces
  cases values .metricsAddress
  cases values .concurrency
  cases values .backoffMinimum
  cases values .backoffMaximum
  cases values .resync
  rfl

/-- The first parameter that cannot be read ends the reading, before any range is checked. -/
theorem read_of_failed
    (failed : forM Parameter.inOrder (Parameter.attempt assigned) = .error error) :
    read assigned = .error error := by
  -- The steps of the checks are those of the reading, which keeps the values as well.
  refine bind_eq_error failed fun metricsAddress failed => ?_
  refine bind_eq_error failed fun concurrency failed => ?_
  refine bind_eq_error failed fun backoffMinimum failed => ?_
  refine bind_eq_error failed fun backoffMaximum failed => ?_
  refine bind_eq_error failed fun resync failed => ?_
  cases failed

/-- If each parameter is given a value, these values make a configuration. -/
theorem exists_reads (sound : ∀ parameter, ∃ value, Parameter.Gives assigned parameter value) :
    ∃ configuration, Reads assigned configuration := by
  obtain ⟨ns, watches⟩ := exists_watches assigned
  choose value gives using sound
  refine ⟨⟨ns, value .metricsAddress, value .concurrency, value .backoffMinimum,
    value .backoffMaximum, value .resync⟩, watches, fun parameter => ?_⟩
  cases parameter <;> exact gives _

/-- Otherwise the attempt to read them in their order fails. -/
theorem reads_or_failed (assigned : Variables) : (∃ configuration, Reads assigned configuration) ∨
    ∃ error, forM Parameter.inOrder (Parameter.attempt assigned) = .error error := by
  cases attempted : forM Parameter.inOrder (Parameter.attempt assigned) with
  | error error => exact .inr ⟨error, rfl⟩
  | ok done =>
      exact .inl (exists_reads fun parameter => Parameter.attempt_eq_ok_iff.mp
        (forM_eq_ok_iff.mp attempted parameter parameter.mem_inOrder))

theorem read_eq_ok_iff : read assigned = .ok configuration ↔
    Reads assigned configuration ∧ configuration.InRange := by
  constructor
  · intro accepted
    rcases reads_or_failed assigned with ⟨found, reads⟩ | ⟨error, failed⟩
    · rw [read_of_reads reads] at accepted
      obtain ⟨_, checked, rfl⟩ := map_eq_ok_iff.mp accepted
      exact ⟨reads, check_eq_ok_iff.mp checked⟩
    · rw [read_of_failed failed] at accepted
      cases accepted
  · rintro ⟨reads, range⟩
    rw [read_of_reads reads, check_eq_ok_iff.mpr range]
    rfl

theorem read_eq_error_iff : read assigned = .error error ↔ FirstFault assigned error := by
  constructor
  · intro refused
    rcases reads_or_failed assigned with ⟨found, reads⟩ | ⟨fault, failed⟩
    · rw [read_of_reads reads, map_eq_error_iff] at refused
      exact .outOfRange reads (check_eq_error_iff.mp refused)
    · cases (read_of_failed failed).symm.trans refused
      obtain ⟨before, parameter, after, order, passed, unreadable⟩ := forM_eq_error_iff.mp failed
      exact .unreadable order
        (fun earlier inside => Parameter.attempt_eq_ok_iff.mp (passed earlier inside))
        (Parameter.attempt_eq_error_iff.mp unreadable)
  · rintro (⟨order, sound, fault⟩ | ⟨reads, fault⟩)
    · exact read_of_failed (forM_eq_error_iff.mpr ⟨_, _, _, order,
        fun earlier inside => Parameter.attempt_eq_ok_iff.mpr (sound earlier inside),
        Parameter.attempt_eq_error_iff.mpr fault⟩)
    · rw [read_of_reads reads, map_eq_error_iff]
      exact check_eq_error_iff.mpr fault

/-- The namespace that is watched is never blank. -/
theorem exists_visible_of_watches {ns : String} (watches : Watches assigned ns) :
    ∃ c ∈ ns.toList, isBlank c = false := by
  rcases watches with _ | ⟨-, visible⟩
  · exact ⟨'o', by decide, rfl⟩
  · exact visible

/-- A configuration is accepted exactly if each parameter is given a value and the values are in
range. It has the values given and a namespace that is not blank. Otherwise the error is about the
first parameter that cannot be read, and only if each can about the first range that is left. -/
theorem accepted_iff_valid (assigned : Variables) :
    ((∃ configuration, read assigned = .ok configuration) ↔
      (∀ parameter, ∃ value, Parameter.Gives assigned parameter value) ∧
        ∀ configuration, Reads assigned configuration → configuration.InRange) ∧
    (∀ configuration, read assigned = .ok configuration ↔
      Reads assigned configuration ∧ configuration.InRange) ∧
    (∀ configuration, read assigned = .ok configuration →
      ∃ c ∈ configuration.ns.toList, isBlank c = false) ∧
    ∀ error, read assigned = .error error ↔ FirstFault assigned error := by
  refine ⟨⟨?_, ?_⟩, fun configuration => read_eq_ok_iff, ?_, fun error => read_eq_error_iff⟩
  · rintro ⟨configuration, accepted⟩
    obtain ⟨reads, range⟩ := read_eq_ok_iff.mp accepted
    refine ⟨fun parameter => ⟨_, reads.gives parameter⟩, fun other otherReads => ?_⟩
    rw [← reads_unique reads otherReads]
    exact range
  · rintro ⟨sound, range⟩
    obtain ⟨configuration, reads⟩ := exists_reads sound
    exact ⟨configuration, read_eq_ok_iff.mpr ⟨reads, range configuration reads⟩⟩
  · intro configuration accepted
    exact exists_visible_of_watches (read_eq_ok_iff.mp accepted).1.watches

/-- The shortest delay is the only variable that is set. -/
def loneMinimum (raw : String) : Variables := fun key =>
  if key = "BACKOFF_MIN_SECONDS" then some raw else none

/-- The shortest delay is compared with the default of the longest one. -/
theorem accepted_iff_valid_loneMinimum :
    let configuration : Configuration :=
      ⟨"openshift-machine-api", ⟨.v4 ⟨0, 0, 0, 0⟩, 8082⟩, 4, 300, 300, 600⟩
    (Reads (loneMinimum " +0300\n") configuration ∧ configuration.InRange) ∧
      (∃ c ∈ configuration.ns.toList, isBlank c = false) ∧
      FirstFault (loneMinimum "301") (.invalidConfig
        "BACKOFF_MIN_SECONDS (301) must be positive and not exceed BACKOFF_MAX_SECONDS (300)") :=
  ⟨((accepted_iff_valid (loneMinimum " +0300\n")).2.1 _).mp (by decide +kernel),
    (accepted_iff_valid (loneMinimum " +0300\n")).2.2.1 _ (by decide +kernel),
    ((accepted_iff_valid (loneMinimum "301")).2.2.2 _).mp (by decide +kernel)⟩

end Whole

end Configuration

end NodeSync
