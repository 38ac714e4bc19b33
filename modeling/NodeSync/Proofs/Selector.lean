/-
Module: NodeSync.Proofs.Selector
Purpose: What label selectors mean and what is wrong with malformed ones. A well-formed selector
  compiles to conditions that labels meet exactly if they satisfy its pairs and its expressions in
  the standard meaning. Every other one is refused with its first fault: an empty key among the
  pairs, then the first faulty expression, and an unknown operator only if no expression has any
  other fault.
Main exports: Requirement.Holds, Requirement.WellFormed, Requirement.Fault, LabelSelector.Satisfied,
  LabelSelector.WellFormed, LabelSelector.Demands, LabelSelector.FirstFault,
  LabelMatcher.compile_eq_error_iff, LabelMatcher.exists_compile_iff,
  LabelMatcher.meaning_of_compile
-/
import NodeSync.Proofs.Checks
import NodeSync.Proofs.Maps
import NodeSync.Selector

namespace NodeSync

set_option autoImplicit false

/-! ## Meaning and faults -/

namespace Requirement

/-- The operators that compare the value of a key with those of a list. -/
def OnValues (requirement : Requirement) : Prop :=
  requirement.operator = "In" ∨ requirement.operator = "NotIn"

instance (requirement : Requirement) : Decidable requirement.OnValues :=
  inferInstanceAs (Decidable (_ ∨ _))

/-- The operators that ask for the key alone. -/
def OnKey (requirement : Requirement) : Prop :=
  requirement.operator = "Exists" ∨ requirement.operator = "DoesNotExist"

instance (requirement : Requirement) : Decidable requirement.OnKey :=
  inferInstanceAs (Decidable (_ ∨ _))

/-- The standard meaning of an expression. A key that labels do not have has no value, so it is in
no list of values. An unknown operator holds of no labels. -/
def Holds (requirement : Requirement) (labels : Labels) : Prop :=
  (requirement.operator = "In" ∧
    ∃ value ∈ requirement.values.getD [], labels.get? requirement.key = some value) ∨
  (requirement.operator = "NotIn" ∧
    ∀ value ∈ requirement.values.getD [], labels.get? requirement.key ≠ some value) ∨
  (requirement.operator = "Exists" ∧ labels.contains requirement.key = true) ∨
  (requirement.operator = "DoesNotExist" ∧ labels.contains requirement.key = false)

instance (requirement : Requirement) (labels : Labels) : Decidable (requirement.Holds labels) :=
  inferInstanceAs (Decidable (_ ∨ _))

/-- A key, with an operator on values and some of them or with an operator on the key alone. -/
def WellFormed (requirement : Requirement) : Prop :=
  requirement.key ≠ "" ∧
    ((requirement.OnValues ∧ requirement.values.getD [] ≠ []) ∨
      (requirement.OnKey ∧ requirement.values.getD [] = []))

instance (requirement : Requirement) : Decidable requirement.WellFormed :=
  inferInstanceAs (Decidable (_ ∧ _))

/-- What is wrong with an expression whatever its operator means, and the error that says so. -/
inductive Fault (requirement : Requirement) : SelectorError → Prop where
  | emptyKey (empty : requirement.key = "") : Fault requirement .emptyKey
  | missingValues (filled : requirement.key ≠ "") (operator : requirement.OnValues)
      (without : requirement.values.getD [] = []) :
      Fault requirement (.missingValues requirement.key requirement.operator)
  | unexpectedValues (filled : requirement.key ≠ "") (operator : requirement.OnKey)
      (given : requirement.values.getD [] ≠ []) :
      Fault requirement (.unexpectedValues requirement.key requirement.operator)

end Requirement

namespace LabelSelector

/-- Labels satisfy a selector if they have all its pairs and all its expressions hold of them. -/
def Satisfied (selector : LabelSelector) (labels : Labels) : Prop :=
  (∀ pair ∈ selector.pairs, labels.get? pair.1 = some pair.2) ∧
    ∀ requirement ∈ selector.expressions, requirement.Holds labels

instance (selector : LabelSelector) (labels : Labels) : Decidable (selector.Satisfied labels) :=
  inferInstanceAs (Decidable (_ ∧ _))

def WellFormed (selector : LabelSelector) : Prop :=
  (∀ pair ∈ selector.pairs, pair.1 ≠ "") ∧
    ∀ requirement ∈ selector.expressions, requirement.WellFormed

instance (selector : LabelSelector) : Decidable selector.WellFormed :=
  inferInstanceAs (Decidable (_ ∧ _))

/-- A selector asks for something. -/
def Demands (selector : LabelSelector) : Prop := selector.pairs ≠ [] ∨ selector.expressions ≠ []

instance (selector : LabelSelector) : Decidable selector.Demands :=
  inferInstanceAs (Decidable (_ ∨ _))

/-- The first fault of a selector. Expressions with unknown operators may come before a faulty
one. -/
inductive FirstFault (selector : LabelSelector) : SelectorError → Prop where
  | pair {pair : String × String} (inside : pair ∈ selector.pairs) (empty : pair.1 = "") :
      FirstFault selector .emptyKey
  | expression {before after : List Requirement} {requirement : Requirement}
      {error : SelectorError} (filled : ∀ pair ∈ selector.pairs, pair.1 ≠ "")
      (split : selector.expressions = before ++ requirement :: after)
      (sound : ∀ earlier ∈ before, ∀ error, ¬earlier.Fault error)
      (fault : requirement.Fault error) : FirstFault selector error
  | operator {requirement : Requirement} (filled : ∀ pair ∈ selector.pairs, pair.1 ≠ "")
      (sound : ∀ requirement ∈ selector.expressions, ∀ error, ¬requirement.Fault error)
      (inside : requirement ∈ selector.expressions)
      (unknown : ¬requirement.OnValues ∧ ¬requirement.OnKey) :
      FirstFault selector .unknownOperator

end LabelSelector

/-! ## One expression -/

namespace Requirement

variable {requirement : Requirement} {error : SelectorError}

theorem not_onKey_of_onValues (operator : requirement.OnValues) : ¬requirement.OnKey := by
  unfold OnValues OnKey at *
  grind

theorem hasValues_iff : requirement.hasValues = true ↔ requirement.values.getD [] ≠ [] := by
  rw [hasValues, Bool.not_eq_true', List.isEmpty_eq_false_iff]

theorem not_hasValues_iff : ¬requirement.hasValues = true ↔ requirement.values.getD [] = [] := by
  rw [hasValues_iff, Classical.not_not]

/-- The check finds the fault of an expression, if it has one. -/
theorem check_eq_error_iff : requirement.check = .error error ↔ requirement.Fault error := by
  rw [check]
  constructor
  · intro refused
    split at refused
    · cases refused
      exact .emptyKey ‹_›
    · rename_i filled
      split at refused
      · rename_i missing
        cases refused
        exact .missingValues filled missing.1 (not_hasValues_iff.mp missing.2)
      · split at refused
        · rename_i unexpected
          cases refused
          exact .unexpectedValues filled unexpected.1 (hasValues_iff.mp unexpected.2)
        · cases refused
  · intro fault
    cases fault with
    | emptyKey empty => rw [if_pos empty]
    | missingValues filled operator without =>
        rw [if_neg filled, if_pos ⟨operator, not_hasValues_iff.mpr without⟩]
    | unexpectedValues filled operator given =>
        have values := hasValues_iff.mpr given
        rw [if_neg filled, if_neg (fun missing => missing.2 values), if_pos ⟨operator, values⟩]

theorem check_eq_ok_iff : requirement.check = .ok () ↔ ∀ error, ¬requirement.Fault error := by
  simp only [← check_eq_error_iff]
  cases requirement.check with
  | error fault => simp
  | ok done => simp

/-- An expression is well formed if it has no fault and its operator is known. -/
theorem wellFormed_iff : requirement.WellFormed ↔
    (∀ error, ¬requirement.Fault error) ∧ (requirement.OnValues ∨ requirement.OnKey) := by
  constructor
  · rintro ⟨filled, ⟨operator, given⟩ | ⟨operator, without⟩⟩
    · refine ⟨fun error fault => ?_, .inl operator⟩
      cases fault with
      | emptyKey empty => exact filled empty
      | missingValues _ _ without => exact given without
      | unexpectedValues _ other _ => exact not_onKey_of_onValues operator other
    · refine ⟨fun error fault => ?_, .inr operator⟩
      cases fault with
      | emptyKey empty => exact filled empty
      | missingValues _ other _ => exact not_onKey_of_onValues other operator
      | unexpectedValues _ _ given => exact given without
  · rintro ⟨sound, operator⟩
    have filled : requirement.key ≠ "" := fun empty => sound _ (.emptyKey empty)
    refine ⟨filled, operator.imp ?_ ?_⟩
    · intro operator
      exact ⟨operator, fun without => sound _ (.missingValues filled operator without)⟩
    · intro operator
      exact ⟨operator, Classical.not_not.mp fun given =>
        sound _ (.unexpectedValues filled operator given)⟩

/-- An expression with a known operator is turned into a condition of the same meaning. -/
theorem exists_condition (known : requirement.OnValues ∨ requirement.OnKey) :
    ∃ condition, requirement.condition = .ok condition ∧
      ∀ labels, condition.holds labels = true ↔ requirement.Holds labels := by
  rcases known with (operator | operator) | (operator | operator)
  · refine ⟨.oneOf requirement.key (requirement.values.getD []), by simp [condition, operator], ?_⟩
    intro labels
    cases found : labels.get? requirement.key <;> simp [Condition.holds, Holds, operator, found]
  · refine ⟨.noneOf requirement.key (requirement.values.getD []), by simp [condition, operator], ?_⟩
    intro labels
    cases found : labels.get? requirement.key <;>
      simp [Condition.holds, Holds, operator, found, List.forall_mem_ne]
  · refine ⟨.present requirement.key, by simp [condition, operator], ?_⟩
    intro labels
    simp [Condition.holds, Holds, operator]
  · refine ⟨.absent requirement.key, by simp [condition, operator], ?_⟩
    intro labels
    simp [Condition.holds, Holds, operator]

theorem condition_of_unknown (unknown : ¬requirement.OnValues ∧ ¬requirement.OnKey) :
    requirement.condition = .error .unknownOperator := by
  simp only [OnValues, OnKey, not_or] at unknown
  simp [condition, unknown]

end Requirement

/-! ## All expressions -/

section Conditions

variable {requirements : List Requirement}

/-- Expressions with known operators are turned into conditions that all hold exactly if the
expressions do. -/
theorem exists_conditions
    (known : ∀ requirement ∈ requirements, requirement.OnValues ∨ requirement.OnKey) :
    ∃ conditions, requirements.mapM Requirement.condition = .ok conditions ∧
      conditions.length = requirements.length ∧
      ∀ labels, conditions.all (Condition.holds labels) = true ↔
        ∀ requirement ∈ requirements, requirement.Holds labels := by
  induction requirements with
  | nil => exact ⟨[], rfl, rfl, by simp⟩
  | cons requirement rest ih =>
      obtain ⟨knownFirst, knownRest⟩ := List.forall_mem_cons.mp known
      obtain ⟨condition, first, meaning⟩ := Requirement.exists_condition knownFirst
      obtain ⟨conditions, others, length, meanings⟩ := ih knownRest
      refine ⟨condition :: conditions, ?_, congrArg (· + 1) length, fun labels => ?_⟩
      · rw [List.mapM_cons, first, others]
        rfl
      · rw [List.all_cons, Bool.and_eq_true, meaning, meanings, List.forall_mem_cons]

/-- One unknown operator is enough for the error. -/
theorem mapM_condition_of_unknown {requirement : Requirement} (inside : requirement ∈ requirements)
    (unknown : ¬requirement.OnValues ∧ ¬requirement.OnKey) :
    requirements.mapM Requirement.condition = .error .unknownOperator := by
  induction requirements with
  | nil => cases inside
  | cons head rest ih =>
      rw [List.mapM_cons]
      by_cases known : head.OnValues ∨ head.OnKey
      · obtain ⟨condition, first, -⟩ := Requirement.exists_condition known
        rcases List.mem_cons.mp inside with rfl | later
        · exact absurd known (not_or.mpr unknown)
        · rw [first, ih later]
          rfl
      · rw [Requirement.condition_of_unknown (not_or.mp known)]
        rfl

end Conditions

/-! ## Whole selectors -/

namespace LabelMatcher

variable {selector : LabelSelector} {error : SelectorError}

theorem compile_of_emptyKey {pair : String × String} (inside : pair ∈ selector.pairs)
    (empty : pair.1 = "") : compile selector = .error .emptyKey := by
  have found : selector.pairs.any (·.1 == "") = true :=
    List.any_eq_true.mpr ⟨pair, inside, beq_iff_eq.mpr empty⟩
  rw [compile, if_pos found]
  rfl

/-- Without an empty key among the pairs the expressions are checked and turned into conditions. -/
theorem compile_of_filled (filled : ∀ pair ∈ selector.pairs, pair.1 ≠ "") :
    compile selector = (forM selector.expressions Requirement.check).bind fun _ =>
      (selector.expressions.mapM Requirement.condition).map fun conditions =>
        ⟨selector.pairs.map (fun pair => .equals pair.1 pair.2) ++ conditions⟩ := by
  have notFound : ¬selector.pairs.any (·.1 == "") = true := by
    rw [List.any_eq_true]
    rintro ⟨pair, inside, empty⟩
    exact filled pair inside (beq_iff_eq.mp empty)
  rw [compile, if_neg notFound]
  rfl

theorem compile_of_firstFault (fault : selector.FirstFault error) :
    compile selector = .error error := by
  cases fault with
  | pair inside empty => exact compile_of_emptyKey inside empty
  | expression filled split sound fault =>
      have failed : forM selector.expressions Requirement.check = .error error :=
        forM_eq_error_iff.mpr ⟨_, _, _, split,
          fun earlier inside => Requirement.check_eq_ok_iff.mpr (sound earlier inside),
          Requirement.check_eq_error_iff.mpr fault⟩
      rw [compile_of_filled filled, failed]
      rfl
  | operator filled sound inside unknown =>
      have passed : forM selector.expressions Requirement.check = .ok () :=
        forM_eq_ok_iff.mpr fun requirement listed =>
          Requirement.check_eq_ok_iff.mpr (sound requirement listed)
      rw [compile_of_filled filled, passed, mapM_condition_of_unknown inside unknown]
      rfl

/-- A well-formed selector compiles to conditions that say what it means. -/
theorem compile_of_wellFormed (wellFormed : selector.WellFormed) :
    ∃ matcher, compile selector = .ok matcher ∧
      (matcher.isEmpty = false ↔ selector.Demands) ∧
      ∀ labels, matcher.accepts labels = true ↔ selector.Satisfied labels := by
  obtain ⟨filled, expressions⟩ := wellFormed
  have passed : forM selector.expressions Requirement.check = .ok () :=
    forM_eq_ok_iff.mpr fun requirement listed => Requirement.check_eq_ok_iff.mpr
      (Requirement.wellFormed_iff.mp (expressions requirement listed)).1
  obtain ⟨conditions, turned, length, meanings⟩ := exists_conditions fun requirement listed =>
    (Requirement.wellFormed_iff.mp (expressions requirement listed)).2
  refine ⟨_, by rw [compile_of_filled filled, passed, turned]; rfl, ?_, fun labels => ?_⟩
  · have same : conditions = [] ↔ selector.expressions = [] := by
      rw [← List.length_eq_zero_iff, length, List.length_eq_zero_iff]
    simp [isEmpty, LabelSelector.Demands, ← same, Classical.or_iff_not_imp_left]
  · rw [accepts, List.all_append, Bool.and_eq_true, meanings, List.all_map, List.all_eq_true]
    simp [LabelSelector.Satisfied, Condition.holds]

/-- A selector that is not well formed has a first fault. -/
theorem exists_firstFault (malformed : ¬selector.WellFormed) :
    ∃ error, selector.FirstFault error := by
  by_cases filled : ∀ pair ∈ selector.pairs, pair.1 ≠ ""
  · cases checked : forM selector.expressions Requirement.check with
    | error error =>
        obtain ⟨before, requirement, after, split, passed, refused⟩ :=
          forM_eq_error_iff.mp checked
        exact ⟨error, .expression filled split
          (fun earlier inside => Requirement.check_eq_ok_iff.mp (passed earlier inside))
          (Requirement.check_eq_error_iff.mp refused)⟩
    | ok done =>
        have sound := fun requirement inside => Requirement.check_eq_ok_iff.mp
          (forM_eq_ok_iff.mp checked requirement inside)
        have unknown : ∃ requirement ∈ selector.expressions,
            ¬(requirement.OnValues ∨ requirement.OnKey) := by
          apply Classical.byContradiction
          intro known
          refine malformed ⟨filled, fun requirement inside => ?_⟩
          refine Requirement.wellFormed_iff.mpr ⟨sound requirement inside, ?_⟩
          exact Classical.not_not.mp fun unknown => known ⟨requirement, inside, unknown⟩
        obtain ⟨requirement, inside, unknown⟩ := unknown
        exact ⟨_, .operator filled sound inside (not_or.mp unknown)⟩
  · have empty : ∃ pair ∈ selector.pairs, pair.1 = "" := by simpa using filled
    obtain ⟨pair, inside, empty⟩ := empty
    exact ⟨_, .pair inside empty⟩

/-- A selector is refused with its first fault. -/
theorem compile_eq_error_iff : compile selector = .error error ↔ selector.FirstFault error := by
  constructor
  · intro refused
    by_cases wellFormed : selector.WellFormed
    · obtain ⟨matcher, compiled, -⟩ := compile_of_wellFormed wellFormed
      rw [compiled] at refused
      cases refused
    · obtain ⟨first, fault⟩ := exists_firstFault wellFormed
      rw [compile_of_firstFault fault] at refused
      cases refused
      exact fault
  · exact compile_of_firstFault

/-- An unknown operator is not the first fault, although it is listed first. -/
example : compile ⟨none, some [⟨"role", "Matches", none⟩, ⟨"zone", "In", none⟩]⟩ =
    .error (.missingValues "zone" "In") := by
  rfl

/-- A selector compiles if it is well formed. -/
theorem exists_compile_iff :
    (∃ matcher, compile selector = .ok matcher) ↔ selector.WellFormed := by
  constructor
  · rintro ⟨matcher, compiled⟩
    apply Classical.byContradiction
    intro malformed
    obtain ⟨error, fault⟩ := exists_firstFault malformed
    rw [compile_of_firstFault fault] at compiled
    cases compiled
  · intro wellFormed
    obtain ⟨matcher, compiled, -⟩ := compile_of_wellFormed wellFormed
    exact ⟨matcher, compiled⟩

/-- What a compiled selector means. -/
theorem meaning_of_compile {matcher : LabelMatcher} (compiled : compile selector = .ok matcher) :
    (matcher.isEmpty = false ↔ selector.Demands) ∧
      ∀ labels, matcher.accepts labels = true ↔ selector.Satisfied labels := by
  obtain ⟨matcher', compiled', meaning⟩ :=
    compile_of_wellFormed (exists_compile_iff.mp ⟨matcher, compiled⟩)
  rw [compiled] at compiled'
  cases compiled'
  exact meaning

end LabelMatcher

end NodeSync
