/-
Module: NodeSync.Proofs.Configuration.Padding
Purpose: White space around the values of variables. It decides neither whether a configuration is
  read nor any of the values that are read from text. The namespace alone is taken with the white
  space around it.
Main exports: Configuration.Padding, Configuration.read_padded
-/
import NodeSync.Proofs.Configuration

namespace NodeSync

open NodeSync.Text

set_option autoImplicit false

namespace Configuration

/-- White space that is put around the values of variables. -/
structure Padding where
  front : String → String
  back : String → String
  front_blank : ∀ key, isBlankText (front key) = true
  back_blank : ∀ key, isBlankText (back key) = true

namespace Padding

/-- A value with white space around it. -/
def around (padding : Padding) (key raw : String) : String :=
  padding.front key ++ raw ++ padding.back key

def apply (padding : Padding) (assigned : Variables) : Variables := fun key =>
  (assigned key).map (padding.around key)

section Values

variable {padding : Padding} {assigned : Variables} {key raw : String} {core : List Char}

theorem toList_around : (padding.around key raw).toList =
    (padding.front key).toList ++ raw.toList ++ (padding.back key).toList := by
  simp [around]

theorem isBlankText_around : isBlankText (padding.around key raw) = isBlankText raw := by
  have front := padding.front_blank key
  have back := padding.back_blank key
  rw [isBlankText] at front back
  rw [isBlankText, toList_around, List.all_append, List.all_append, front, back, Bool.true_and,
    Bool.and_true, isBlankText]

theorem trimmed_around :
    Trimmed (padding.around key raw).toList core ↔ Trimmed raw.toList core := by
  rw [← trimList_eq_iff, ← trimList_eq_iff, toList_around,
    trimList_append_right (padding.back_blank key), trimList_append_left (padding.front_blank key)]

/-- A value is padded to itself only by nothing. -/
theorem around_eq_self_iff :
    padding.around key raw = raw ↔ padding.front key = "" ∧ padding.back key = "" := by
  constructor
  · intro same
    have lengths := congrArg String.length same
    simp only [around, String.length_append] at lengths
    exact ⟨String.length_eq_zero_iff.mp (by omega), String.length_eq_zero_iff.mp (by omega)⟩
  · rintro ⟨front, back⟩
    rw [around, front, back, String.empty_append, String.append_empty]

theorem value?_apply :
    value? (padding.apply assigned) key = (value? assigned key).map (padding.around key) := by
  rw [value?, value?, apply]
  cases assigned key with
  | none => rfl
  | some raw => cases blank : isBlankText raw <;> simp [Option.filter, isBlankText_around, blank]

theorem vacant_apply : Vacant (padding.apply assigned) key ↔ Vacant assigned key := by
  rw [← value?_eq_none_iff, value?_apply, Option.map_eq_none_iff, value?_eq_none_iff]

theorem given_apply : Given (padding.apply assigned) key raw ↔
    ∃ bare, Given assigned key bare ∧ padding.around key bare = raw := by
  simp only [← value?_eq_some_iff, value?_apply, Option.map_eq_some_iff]

/-- What is read from text is trimmed first. -/
theorem gives_apply {parameter : Parameter} {value : parameter.Value} :
    Parameter.Gives (padding.apply assigned) parameter value ↔
      Parameter.Gives assigned parameter value := by
  constructor
  · rintro (vacant | ⟨given, trimmed, denotes⟩)
    · exact .default (vacant_apply.mp vacant)
    · obtain ⟨bare, givenBare, rfl⟩ := given_apply.mp given
      exact .given givenBare (trimmed_around.mp trimmed) denotes
  · rintro (vacant | ⟨given, trimmed, denotes⟩)
    · exact .default (vacant_apply.mpr vacant)
    · exact .given (given_apply.mpr ⟨_, given, rfl⟩) (trimmed_around.mpr trimmed) denotes

end Values

/-! ## Whole configurations -/

section Whole

variable {padding : Padding} {assigned : Variables} {configuration padded : Configuration}

/-- The namespace that is watched with the padded values. -/
theorem watches_apply {ns ns' : String} (watches : Watches assigned ns)
    (watchesPadded : Watches (padding.apply assigned) ns') :
    (Vacant assigned "WATCH_NAMESPACE" ∧ ns' = ns) ∨
      (¬Vacant assigned "WATCH_NAMESPACE" ∧ ns' = padding.around "WATCH_NAMESPACE" ns) := by
  rcases watches with vacant | given
  · rcases watchesPadded with - | given
    · exact .inl ⟨vacant, rfl⟩
    · exact absurd given (not_given_of_vacant (vacant_apply.mpr vacant))
  · have filled : ¬Vacant assigned "WATCH_NAMESPACE" := fun vacant =>
      not_given_of_vacant vacant given
    rcases watchesPadded with vacant | givenPadded
    · exact absurd (vacant_apply.mp vacant) filled
    · obtain ⟨bare, givenBare, rfl⟩ := given_apply.mp givenPadded
      cases given.1.symm.trans givenBare.1
      exact .inr ⟨filled, rfl⟩

end Whole

end Padding

section Whole

variable {assigned other : Variables} {configuration : Configuration} {ns : String}

/-- Variables that give each parameter the same value make the same configuration, but for the
namespace that they watch. -/
theorem read_with_ns
    (gives : ∀ parameter value, Parameter.Gives assigned parameter value →
      Parameter.Gives other parameter value)
    (accepted : read assigned = .ok configuration) (watches : Watches other ns) :
    read other = .ok { configuration with ns } := by
  obtain ⟨reads, range⟩ := read_eq_ok_iff.mp accepted
  refine read_eq_ok_iff.mpr ⟨⟨watches, fun parameter => ?_⟩, range.concurrency,
    range.backoffMinimum, range.backoffMaximum, range.resync⟩
  have same := gives parameter _ (reads.gives parameter)
  cases parameter <;> exact same

/-- With white space around the values a configuration is read exactly if it is read without, and
only its namespace can differ: where one is given, it keeps the white space. -/
theorem read_padded (padding : Padding) (assigned : Variables) :
    ((∃ padded, read (padding.apply assigned) = .ok padded) ↔
      ∃ configuration, read assigned = .ok configuration) ∧
    ∀ configuration padded, read assigned = .ok configuration →
      read (padding.apply assigned) = .ok padded →
      (Vacant assigned "WATCH_NAMESPACE" → padded = configuration) ∧
      (¬Vacant assigned "WATCH_NAMESPACE" → padded =
        { configuration with ns := padding.around "WATCH_NAMESPACE" configuration.ns }) ∧
      (padded = configuration ↔ Vacant assigned "WATCH_NAMESPACE" ∨
        padding.front "WATCH_NAMESPACE" = "" ∧ padding.back "WATCH_NAMESPACE" = "") := by
  refine ⟨⟨?_, ?_⟩, ?_⟩
  · rintro ⟨padded, accepted⟩
    obtain ⟨ns, watches⟩ := exists_watches assigned
    exact ⟨_, read_with_ns (fun _ _ => Padding.gives_apply.mp) accepted watches⟩
  · rintro ⟨configuration, accepted⟩
    obtain ⟨ns, watches⟩ := exists_watches (padding.apply assigned)
    exact ⟨_, read_with_ns (fun _ _ => Padding.gives_apply.mpr) accepted watches⟩
  · intro configuration padded accepted acceptedPadded
    have watches := (read_eq_ok_iff.mp accepted).1.watches
    have watchesPadded := (read_eq_ok_iff.mp acceptedPadded).1.watches
    have others : { configuration with ns := padded.ns } = padded := Except.ok.inj
      ((read_with_ns (fun _ _ => Padding.gives_apply.mpr) accepted watchesPadded).symm.trans
        acceptedPadded)
    rcases Padding.watches_apply watches watchesPadded with ⟨vacant, ns⟩ | ⟨filled, ns⟩
    · have same : padded = configuration := by rw [← others, ns]
      exact ⟨fun _ => same, fun filled => absurd vacant filled, fun _ => .inl vacant, fun _ => same⟩
    · rw [ns] at others
      refine ⟨fun vacant => absurd vacant filled, fun _ => others.symm, fun same => ?_, ?_⟩
      · rw [same] at ns
        exact .inr (Padding.around_eq_self_iff.mp ns.symm)
      · rintro (vacant | none)
        · exact absurd vacant filled
        · rw [← others, Padding.around_eq_self_iff.mpr none]

end Whole

/-- A blank before and after each value. -/
def spaced : Padding := ⟨fun _ => " ", fun _ => " ", fun _ => by decide, fun _ => by decide⟩

/-- The namespace is the only variable that is set. -/
def loneNamespace (raw : String) : Variables := fun key =>
  if key = "WATCH_NAMESPACE" then some raw else none

/-- An empty namespace means the default one, also with blanks in it. -/
theorem read_padded_emptyNamespace : read (spaced.apply (loneNamespace "")) =
    .ok ⟨"openshift-machine-api", ⟨.v4 ⟨0, 0, 0, 0⟩, 8082⟩, 4, 5, 300, 600⟩ := by
  have vacant : Vacant (loneNamespace "") "WATCH_NAMESPACE" := by
    rintro raw ⟨⟩ c ⟨⟩
  have accepted : read (loneNamespace "") =
      .ok ⟨"openshift-machine-api", ⟨.v4 ⟨0, 0, 0, 0⟩, 8082⟩, 4, 5, 300, 600⟩ := by
    decide +kernel
  obtain ⟨padded, acceptedPadded⟩ := (read_padded spaced (loneNamespace "")).1.mpr ⟨_, accepted⟩
  have same := ((read_padded spaced (loneNamespace "")).2 _ _ accepted acceptedPadded).1 vacant
  rw [acceptedPadded, same]

/-- A blank around a namespace makes another namespace of it. -/
theorem spaced_namespace :
    let configuration : Configuration :=
      ⟨"machines", ⟨.v4 ⟨0, 0, 0, 0⟩, 8082⟩, 4, 5, 300, 600⟩
    read (loneNamespace "machines") = .ok configuration ∧
      read (spaced.apply (loneNamespace "machines")) =
        .ok { configuration with ns := " machines " } ∧
      { configuration with ns := " machines " } ≠ configuration := by
  decide +kernel

end Configuration

end NodeSync
