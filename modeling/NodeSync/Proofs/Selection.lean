/-
Module: NodeSync.Proofs.Selection
Purpose: Which machines a machine set selects. Two filters look at its selector: the one of the
  passes refuses a malformed selector and checks it against the template first, and the one of the
  events takes a malformed selector for one that matches nothing. Both go by the standard meaning of
  selectors otherwise, except that one that asks for nothing matches nothing.
Main exports: hasMatchingLabels_iff, validateMachineSet_eq_ok_iff, selectMachines_eq_ok_iff,
  mem_selectMachines_iff, isExcluded_of_uncontrolled, compile_reports_firstFault, Machine.BelongsTo,
  selectMachines_belonging
-/
import NodeSync.Proofs.Selector
import NodeSync.Selection

namespace NodeSync

set_option autoImplicit false

/-! ## The two filters -/

section Filters

variable {machineSet : MachineSet} {matcher : LabelMatcher} {machine : Machine}

/-- Labels match if the selector is well formed, has conditions, and the labels meet them. -/
theorem hasMatchingLabels_iff {labels : Labels} : hasMatchingLabels machineSet labels = true ↔
    ∃ matcher, LabelMatcher.compile machineSet.spec.selector = .ok matcher ∧
      matcher.isEmpty = false ∧ matcher.accepts labels = true := by
  cases compiled : LabelMatcher.compile machineSet.spec.selector with
  | error error => simp [hasMatchingLabels, compiled]
  | ok matcher => simp [hasMatchingLabels, compiled]

/-- A pass goes by the same compiled selector, provided that the template meets it. -/
theorem validateMachineSet_eq_ok_iff : validateMachineSet machineSet = .ok matcher ↔
    LabelMatcher.compile machineSet.spec.selector = .ok matcher ∧
      matcher.accepts machineSet.templateMachineLabels = true := by
  cases compiled : LabelMatcher.compile machineSet.spec.selector with
  | error error => simp [validateMachineSet, compiled, bind, Except.bind]
  | ok found =>
      cases fits : found.accepts machineSet.templateMachineLabels with
      | true =>
          have given : validateMachineSet machineSet = .ok found := by
            simp [validateMachineSet, compiled, fits, bind, Except.bind, pure, Except.pure]
          simp only [given, Except.ok.injEq]
          constructor
          · rintro rfl
            exact ⟨rfl, fits⟩
          · exact And.left
      | false =>
          have refused : validateMachineSet machineSet = .error .templateMismatch := by
            simp [validateMachineSet, compiled, fits, bind, Except.bind, throw, throwThe,
              MonadExceptOf.throw]
          simp only [refused, reduceCtorEq, Except.ok.injEq, false_iff, not_and]
          rintro rfl
          simp [fits]

/-- A selection lists the machines that are not excluded. -/
theorem selectMachines_eq_ok_iff {machines selected : List Machine} :
    selectMachines machineSet machines = .ok selected ↔
      ∃ matcher, validateMachineSet machineSet = .ok matcher ∧
        selected = machines.filter fun machine => !isExcluded machineSet matcher machine := by
  rw [selectMachines]
  cases validateMachineSet machineSet with
  | error error => simp [bind, Except.bind]
  | ok matcher => simp [bind, Except.bind, pure, Except.pure, eq_comm]

/-- A machine is selected if it is listed and not excluded. -/
theorem mem_selectMachines_iff {machines selected : List Machine}
    (selects : selectMachines machineSet machines = .ok selected) :
    ∃ matcher, validateMachineSet machineSet = .ok matcher ∧ ∀ machine,
      machine ∈ selected ↔ machine ∈ machines ∧ isExcluded machineSet matcher machine = false := by
  obtain ⟨matcher, validated, rfl⟩ := selectMachines_eq_ok_iff.mp selects
  exact ⟨matcher, validated, fun machine => by simp [List.mem_filter]⟩

/-- A machine without a controller is excluded if it is being deleted or does not match. -/
theorem isExcluded_of_uncontrolled (uncontrolled : machine.metadata.controller? = none) :
    isExcluded machineSet matcher machine = false ↔
      machine.metadata.deletionTimestamp = none ∧ matcher.isEmpty = false ∧
        matcher.accepts machine.objectLabels = true := by
  simp [isExcluded, uncontrolled, and_assoc]

/-- A machine that is not excluded matches. -/
theorem accepts_of_not_excluded (kept : isExcluded machineSet matcher machine = false) :
    matcher.isEmpty = false ∧ matcher.accepts machine.objectLabels = true := by
  obtain ⟨⟨-, filled⟩, accepts⟩ :
      (_ ∧ matcher.isEmpty = false) ∧ matcher.accepts machine.objectLabels = true := by
    simpa only [isExcluded, Bool.or_eq_false_iff, Bool.not_eq_false'] using kept
  exact ⟨filled, accepts⟩

end Filters

/-! ## Selectors by their meaning -/

/-- A selector is refused with its first fault and compiles if it has none, that is, if it is well
formed. Labels match the selector of a set exactly if it compiles, asks for something, and is
satisfied by the labels. -/
theorem compile_reports_firstFault (selector : LabelSelector) :
    (∀ error, LabelMatcher.compile selector = .error error ↔ selector.FirstFault error) ∧
    ((∃ matcher, LabelMatcher.compile selector = .ok matcher) ↔
      ∀ error, ¬selector.FirstFault error) ∧
    (selector.WellFormed ↔ ∀ error, ¬selector.FirstFault error) ∧
    ∀ (machineSet : MachineSet) (labels : Labels), hasMatchingLabels machineSet labels = true ↔
      (∃ matcher, LabelMatcher.compile machineSet.spec.selector = .ok matcher) ∧
        machineSet.spec.selector.Demands ∧ machineSet.spec.selector.Satisfied labels := by
  have sound : selector.WellFormed ↔ ∀ error, ¬selector.FirstFault error := by
    simp only [← LabelMatcher.compile_eq_error_iff, ← LabelMatcher.exists_compile_iff]
    cases LabelMatcher.compile selector with
    | error error => simp
    | ok matcher => simp
  refine ⟨fun error => LabelMatcher.compile_eq_error_iff,
    LabelMatcher.exists_compile_iff.trans sound, sound, ?_⟩
  intro machineSet labels
  rw [hasMatchingLabels_iff]
  constructor
  · rintro ⟨matcher, compiled, filled, accepts⟩
    obtain ⟨demands, meaning⟩ := LabelMatcher.meaning_of_compile compiled
    exact ⟨⟨matcher, compiled⟩, demands.mp filled, (meaning labels).mp accepts⟩
  · rintro ⟨⟨matcher, compiled⟩, asks, satisfied⟩
    obtain ⟨demands, meaning⟩ := LabelMatcher.meaning_of_compile compiled
    exact ⟨matcher, compiled, demands.mpr asks, (meaning labels).mpr satisfied⟩

/-! ## Selected machines -/

/-- What makes a machine one of the machines of a set with the given UID. -/
structure Machine.BelongsTo (machine : Machine) (machineSet : MachineSet) (uid : String) :
    Prop where
  /-- The first owner that is marked as controller, if there is one, is the set. -/
  controller : ∀ before owner after,
    machine.metadata.ownerReferences = some (before ++ owner :: after) →
    (∀ earlier ∈ before, earlier.controller ≠ some true) → owner.controller = some true →
    owner.uid = uid
  lasting : machine.metadata.deletionTimestamp = none
  demands : machineSet.spec.selector.Demands
  satisfied : machineSet.spec.selector.Satisfied machine.objectLabels

section Belonging

variable {machineSet : MachineSet} {matcher : LabelMatcher} {machine : Machine} {uid : String}

/-- The controller is the first owner that is marked as one. -/
theorem ObjectMeta.controller?_eq_some_iff {metadata : ObjectMeta} {owner : OwnerReference} :
    metadata.controller? = some owner ↔ owner.controller = some true ∧ ∃ before after,
      metadata.ownerReferences = some (before ++ owner :: after) ∧
        ∀ earlier ∈ before, earlier.controller ≠ some true := by
  rw [controller?, List.find?_eq_some_iff_append]
  cases metadata.ownerReferences with
  | none => simp
  | some owners => simp

theorem Machine.belongsTo_iff : machine.BelongsTo machineSet uid ↔
    machine.metadata.controller?.all (·.uid == uid) = true ∧
      machine.metadata.deletionTimestamp = none ∧ machineSet.spec.selector.Demands ∧
      machineSet.spec.selector.Satisfied machine.objectLabels := by
  have controlled : machine.metadata.controller?.all (·.uid == uid) = true ↔
      ∀ owner, machine.metadata.controller? = some owner → owner.uid = uid := by
    simp [Option.all_eq_true]
  rw [controlled]
  simp only [ObjectMeta.controller?_eq_some_iff]
  constructor
  · rintro ⟨controller, lasting, demands, satisfied⟩
    refine ⟨?_, lasting, demands, satisfied⟩
    rintro owner ⟨marked, before, after, owners, first⟩
    exact controller before owner after owners first marked
  · rintro ⟨controller, lasting, demands, satisfied⟩
    refine ⟨?_, lasting, demands, satisfied⟩
    intro before owner after owners first marked
    exact controller owner ⟨marked, before, after, owners, first⟩

instance : Decidable (machine.BelongsTo machineSet uid) :=
  decidable_of_iff' _ Machine.belongsTo_iff

/-- What is excluded by a compiled selector does not belong to the set. -/
theorem isExcluded_eq_false_iff (identified : machineSet.metadata.uid = some uid)
    (compiled : LabelMatcher.compile machineSet.spec.selector = .ok matcher) :
    isExcluded machineSet matcher machine = false ↔ machine.BelongsTo machineSet uid := by
  obtain ⟨demands, meaning⟩ := LabelMatcher.meaning_of_compile compiled
  rw [Machine.belongsTo_iff, ← demands, ← meaning]
  cases controlled : machine.metadata.controller? with
  | none => simp [isExcluded, controlled, and_assoc]
  | some owner => simp [isExcluded, isControlledBy, controlled, identified, and_assoc]

/-- A selection goes through exactly if the selector is well formed and the template satisfies it,
which it does if the selector is empty. It lists the machines that belong to the set, as often and
in the order as they are given. -/
theorem selectMachines_belonging (identified : machineSet.metadata.uid = some uid)
    (machines : List Machine) :
    ((∃ selected, selectMachines machineSet machines = .ok selected) ↔
      machineSet.spec.selector.WellFormed ∧
        machineSet.spec.selector.Satisfied machineSet.templateMachineLabels) ∧
    ∀ selected, selectMachines machineSet machines = .ok selected →
      selected = machines.filter fun machine => machine.BelongsTo machineSet uid := by
  constructor
  · constructor
    · rintro ⟨selected, selects⟩
      obtain ⟨matcher, validated, -⟩ := selectMachines_eq_ok_iff.mp selects
      obtain ⟨compiled, fits⟩ := validateMachineSet_eq_ok_iff.mp validated
      exact ⟨LabelMatcher.exists_compile_iff.mp ⟨matcher, compiled⟩,
        ((LabelMatcher.meaning_of_compile compiled).2 _).mp fits⟩
    · rintro ⟨wellFormed, fits⟩
      obtain ⟨matcher, compiled, -, meaning⟩ := LabelMatcher.compile_of_wellFormed wellFormed
      have validated := validateMachineSet_eq_ok_iff.mpr ⟨compiled, (meaning _).mpr fits⟩
      exact ⟨_, selectMachines_eq_ok_iff.mpr ⟨matcher, validated, rfl⟩⟩
  · intro selected selects
    obtain ⟨matcher, validated, rfl⟩ := selectMachines_eq_ok_iff.mp selects
    obtain ⟨compiled, -⟩ := validateMachineSet_eq_ok_iff.mp validated
    apply List.filter_congr
    intro machine _
    rw [Bool.eq_iff_iff, Bool.not_eq_true', isExcluded_eq_false_iff identified compiled,
      decide_eq_true_iff]

end Belonging

/-- A set that wants the machines of one application outside of one zone. -/
def fencedSet : MachineSet where
  metadata := { ObjectMeta.empty with uid := some "u-1" }
  spec := {
    replicas := none
    selector := ⟨some (SortedMap.ofList [("app", "web")]), some [⟨"zone", "NotIn", some ["b"]⟩]⟩
    template := { MachineTemplate.empty with
      metadata := { MachineMetadata.empty with labels := SortedMap.ofList [("app", "web")] } }
    extra := .empty }
  status := none

/-- A machine of the application with the given further labels and owners. -/
def fencedMachine (further : List (String × String)) (owners : List OwnerReference) : Machine where
  metadata := { ObjectMeta.empty with
    labels := some (SortedMap.ofList (("app", "web") :: further))
    ownerReferences := some owners }
  spec := MachineSpec.empty
  status := none

/-- One machine is listed twice. The others are in the fenced zone or have another controller
first. -/
theorem selectMachines_belonging_fencedSet :
    let own := fencedMachine [("tier", "front")]
      [⟨"v1", "Pod", "p", "u-2", none, none⟩, ⟨"v1", "MachineSet", "s", "u-1", some true, none⟩]
    let elsewhere := fencedMachine [("zone", "b")] []
    let foreign := fencedMachine []
      [⟨"v1", "MachineSet", "t", "u-2", some true, none⟩,
        ⟨"v1", "MachineSet", "s", "u-1", some true, none⟩]
    fencedSet.metadata.uid = some "u-1" ∧
      selectMachines fencedSet [own, elsewhere, own, foreign] = .ok [own, own] := by
  intro own elsewhere foreign
  have identified : fencedSet.metadata.uid = some "u-1" := rfl
  obtain ⟨goesThrough, lists⟩ :=
    selectMachines_belonging identified [own, elsewhere, own, foreign]
  obtain ⟨selected, selects⟩ := goesThrough.mpr ⟨by decide, by decide⟩
  have listed : selected = [own, own] := (lists selected selects).trans rfl
  exact ⟨identified, listed ▸ selects⟩

end NodeSync
