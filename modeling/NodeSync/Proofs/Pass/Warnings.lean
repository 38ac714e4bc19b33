/-
Module: NodeSync.Proofs.Pass.Warnings
Purpose: What a pass reports that went through. A machine is given the taints of the template before
  its taints are looked through for repeats, so that the warnings are a function of the template and
  of the selected machines, whatever taints the machines had. All that is asked of the store is that
  it has the set: its objects may be stored under other names or share nodes, and failures may be
  ordered.
Main exports: Pass.Returns, EchoesSpecs, templateWarnings_of_repeats, MemoryStore.outcome_of_pass,
  outcome_follows_template
-/
import NodeSync.Proofs.Pass.Completion
import NodeSync.Proofs.Pass.Conduct

namespace NodeSync

set_option autoImplicit false

open Pass (Ensures)

/-! ## What parts of a pass return -/

/-- Whatever a part of a pass returns, from whatever state it starts, meets a condition. -/
def Pass.Returns {σ α : Type} (environment : Environment σ) (pass : Pass α) (meets : α → Prop) :
    Prop :=
  ∀ state, Ensures environment pass state (fun result _ => meets result) (fun _ _ => True)

open Pass (Returns)

namespace Pass.Returns

variable {σ α β : Type} {environment : Environment σ}

/-- Something is returned, or nothing. -/
theorem anything (pass : Pass α) : Returns environment pass fun _ => True := by
  intro state
  unfold Ensures
  rcases pass.run.run environment state with ⟨_ | result, after⟩ <;> exact trivial

theorem pure {result : α} {meets : α → Prop} (holds : meets result) :
    Returns environment (Pure.pure result : Pass α) meets :=
  fun _ => Ensures.pure holds

theorem bind {pass : Pass α} {next : α → Pass β} {middle : α → Prop} {meets : β → Prop}
    (first : Returns environment pass middle)
    (second : ∀ result, middle result → Returns environment (next result) meets) :
    Returns environment (pass >>= next) meets := by
  intro state
  apply Ensures.bind
  apply (first state).imp
  · exact fun result after reached => second result reached after
  · exact fun _ _ _ => trivial

theorem call {request : Request} {blame : ControllerError → Option FailureReport}
    {meets : request.Answer → Prop}
    (answered : ∀ answer state after,
      environment.answer request state = (some (.ok answer), after) → meets answer) :
    Returns environment (Pass.call request blame) meets := by
  intro state
  apply Ensures.call
  · exact fun _ => trivial
  · exact fun _ _ => trivial
  · exact fun answer after replied => answered answer state after replied
  · exact fun _ _ _ => trivial
  · exact fun _ _ _ _ => trivial

end Pass.Returns

/-- Updates of machines give back the specs that they were given. -/
def EchoesSpecs {σ : Type} (environment : Environment σ) : Prop :=
  ∀ machine updated state after,
    environment.answer (.updateMachine machine) state = (some (.ok updated), after) →
    updated.spec = machine.spec

/-- A store in memory does so, whatever disturbs it. -/
theorem echoesSpecs_disturbed : EchoesSpecs Disturbed.environment := by
  intro machine updated state after replied
  have answered := Disturbed.serve_of_answer replied
  have served := state.store.served (.updateMachine machine)
  generalize state.store.serve (.updateMachine machine) = result at served answered
  cases served with
  | updateMachine found current =>
      cases answered
      rfl
  | refused error => cases answered

section Machines

variable {σ : Type} {environment : Environment σ} {machineSet : MachineSet} {machine : Machine}

/-- A machine has the taints of the template, whether they were written or there already. -/
theorem writeMachineTaints_returns (echoes : EchoesSpecs environment) (template : List Taint)
    (name ns : String) :
    Returns environment (writeMachineTaints machine template name ns)
      (fun written => written.spec.taints = template) := by
  intro state
  apply Ensures.ite
  · exact fun same => Ensures.pure same
  · intro _
    apply Returns.call
    intro updated state after replied
    exact congrArg MachineSpec.taints (echoes _ updated state after replied)

/-- For a machine the fault of the template is returned if the machine has a node. -/
theorem synchroniseMachine_returns (echoes : EchoesSpecs environment) :
    Returns environment (synchroniseMachine machineSet machine)
      (fun warning =>
        warning = machine.nodeName?.bind fun _ => templateWarning? machineSet machine) := by
  rw [synchroniseMachine]
  cases machine.nodeName? with
  | none => exact Returns.pure rfl
  | some nodeName =>
      apply (Returns.anything _).bind
      intro node _
      apply (Returns.anything _).bind
      intro labelled _
      -- Repeats are looked for in the machine that this write leaves.
      apply (writeMachineTaints_returns echoes _ _ _).bind
      intro tainted template
      apply (Returns.anything _).bind
      intro synced _
      apply (Returns.anything _).bind
      intro _ _
      apply Returns.pure
      rw [template]
      rfl

theorem synchroniseMachines_returns (echoes : EchoesSpecs environment) (machines : List Machine) :
    Returns environment (synchroniseMachines machineSet machines)
      (fun warnings => warnings = templateWarnings machineSet machines) := by
  induction machines with
  | nil => exact Returns.pure rfl
  | cons machine rest ih =>
      rw [synchroniseMachines, templateWarnings_cons]
      apply (synchroniseMachine_returns echoes).bind
      rintro warning rfl
      apply ih.bind
      rintro warnings rfl
      exact Returns.pure rfl

end Machines

/-! ## Warnings of a template -/

section Template

variable {machineSet : MachineSet}

theorem templateWarning?_of_repeats (repeats : RepeatsTaint machineSet.templateTaints)
    (machine : Machine) : templateWarning? machineSet machine =
      some ⟨machine.metadata.anyName, (dedupTaints machineSet.templateTaints).duplicates⟩ := by
  rw [templateWarning?, if_neg]
  rw [List.isEmpty_iff, duplicates_dedupTaints_eq_nil_iff]
  exact fun none => none repeats

/-- A template that repeats a taint is reported for every machine with a node. -/
theorem templateWarnings_of_repeats (repeats : RepeatsTaint machineSet.templateTaints)
    (machines : List Machine) : templateWarnings machineSet machines =
      (machines.filter fun machine => machine.nodeName?.isSome).map fun machine =>
        ⟨machine.metadata.anyName, (dedupTaints machineSet.templateTaints).duplicates⟩ := by
  induction machines with
  | nil => rfl
  | cons machine rest ih =>
      rw [templateWarnings_cons, ih, List.filter_cons]
      cases machine.nodeName? with
      | none => rfl
      | some nodeName =>
          change (templateWarning? machineSet machine).toList ++ _ = _
          rw [templateWarning?_of_repeats repeats]
          rfl

/-- A template without repeats is reported for none. -/
theorem templateWarnings_of_distinct (distinct : ¬RepeatsTaint machineSet.templateTaints)
    (machines : List Machine) : templateWarnings machineSet machines = [] := by
  have clean : ∀ machine, templateWarning? machineSet machine = none := by
    intro machine
    rw [templateWarning?, if_pos]
    rw [List.isEmpty_iff]
    exact duplicates_dedupTaints_eq_nil_iff.mpr distinct
  rw [templateWarnings, List.filterMap_eq_nil_iff]
  intro machine _
  rw [clean]
  cases machine.nodeName? <;> rfl

/-- There is something to report exactly if the template repeats a taint and some machine has a
node. -/
theorem templateWarnings_ne_nil_iff {machines : List Machine} :
    templateWarnings machineSet machines ≠ [] ↔ RepeatsTaint machineSet.templateTaints ∧
      ∃ machine ∈ machines, machine.nodeName?.isSome = true := by
  by_cases repeats : RepeatsTaint machineSet.templateTaints
  · simp [templateWarnings_of_repeats repeats, repeats, Option.isSome_iff_ne_none]
  · simp [templateWarnings_of_distinct repeats, repeats]

theorem passOutcome_eq_degraded_iff {warnings reported : List Warning} :
    passOutcome warnings = .degraded reported ↔ reported = warnings ∧ warnings ≠ [] := by
  cases warnings with
  | nil => simp [passOutcome]
  | cons warning rest => simp [passOutcome, eq_comm]

theorem passOutcome_cases (warnings : List Warning) :
    passOutcome warnings = .synced ∨ passOutcome warnings = .degraded warnings := by
  rw [passOutcome]
  split
  · exact .inl rfl
  · exact .inr rfl

end Template

/-! ## Whole passes -/

section WholePass

variable {store after : MemoryStore} {machineSet : MachineSet} {ns name : String}
  {outcome : Outcome}

/-- A machine set that is there is read, unless a failure of the call was ordered. Reading it
changes no machine. -/
theorem Disturbed.answer_getMachineSet (state : Disturbed) {after : Disturbed}
    (fates : state.fates = [])
    (found : state.store.machineSets.get? ⟨ns, name⟩ = some machineSet)
    {reply : Option (Request.getMachineSet ns name).Reply}
    (replied : answer (.getMachineSet ns name) state = (reply, after)) :
    after.store.machines = state.store.machines ∧
      (reply = some (.ok machineSet) ∨ ∃ what, reply = some (.error (.unavailable what))) := by
  rw [answer_of_fates_nil _ fates, MemoryStore.answer] at replied
  split at replied
  · cases replied
    exact ⟨rfl, .inr ⟨_, rfl⟩⟩
  · have served : state.store.serve (.getMachineSet ns name) = (.ok machineSet, state.store) := by
      rw [MemoryStore.serve, found]
      rfl
    rw [served] at replied
    cases replied
    exact ⟨rfl, .inl rfl⟩

/-- The part of a pass after the set was read reports the faults of the template, whatever disturbs
it. -/
theorem synchroniseSet_reports (machineSet : MachineSet) (ns name : String) (state : Disturbed) :
    Ensures Disturbed.environment (synchroniseSet machineSet ns name) state
      (fun outcome _ => ∃ selected,
        selectMachines machineSet (MemoryStore.inNamespace state.store.machines ns) = .ok selected ∧
          outcome = passOutcome (templateWarnings machineSet selected))
      (fun _ _ => True) := by
  apply Ensures.synchroniseSet
  apply Ensures.call
  · exact fun _ => trivial
  · exact fun _ _ => trivial
  · intro listed middle replied
    cases Disturbed.serve_of_answer replied
    refine ⟨fun _ _ => trivial, fun selected selects => ?_⟩
    apply (synchroniseMachines_returns echoesSpecs_disturbed selected middle).imp
    · rintro warnings after rfl
      exact ⟨selected, selects, rfl⟩
    · exact fun _ _ ended => ended
  · exact fun _ _ _ => trivial
  · exact fun _ _ _ _ => trivial

/-- A pass that went through over a set that is there reports the faults of its template. -/
theorem MemoryStore.outcome_of_pass (found : store.machineSets.get? ⟨ns, name⟩ = some machineSet)
    (passed : store.pass ns name = (.ok outcome, after)) :
    ∃ selected, selectMachines machineSet (inNamespace store.machines ns) = .ok selected ∧
      outcome = passOutcome (templateWarnings machineSet selected) := by
  let start : Disturbed := ⟨store, [], false, []⟩
  have read (reply after)
      (replied : Disturbed.answer (.getMachineSet ns name) start = (reply, after)) :=
    Disturbed.answer_getMachineSet start rfl found replied
  have reports : Ensures Disturbed.environment (ExceptT.mk (synchronise ns name)) start
      (fun outcome _ => ∃ selected,
        selectMachines machineSet (inNamespace store.machines ns) = .ok selected ∧
          outcome = passOutcome (templateWarnings machineSet selected))
      (fun _ _ => True) := by
    apply Ensures.synchronise
    · exact fun _ => trivial
    · exact fun _ _ => trivial
    -- The set is there, so that a pass which takes it for gone is ruled out.
    · intro what middle replied
      obtain ⟨-, same | ⟨_, failed⟩⟩ := read _ middle replied
      · cases same
      · cases failed
    · exact fun _ _ _ _ => trivial
    · intro given middle replied
      obtain ⟨machines, same | ⟨_, failed⟩⟩ := read _ middle replied
      · cases same
        have rest := synchroniseSet_reports machineSet ns name middle
        rw [machines] at rest
        exact rest
      · cases failed
  rw [pass, passUnder] at passed
  rcases runPass_of_ensures reports with ⟨given, last, ran, reported⟩ | ⟨cause, last, ran, -⟩
  · rw [ran] at passed
    cases passed
    exact reported
  · rw [ran] at passed
    cases passed

/-- A pass that went through over a set that is there is degraded exactly if the template repeats a
taint and some selected machine has a node. Every selected machine with a node is then warned of,
with the repeats of the template. All other passes that went through are synced. -/
theorem outcome_follows_template (found : store.machineSets.get? ⟨ns, name⟩ = some machineSet)
    (passed : store.pass ns name = (.ok outcome, after)) :
    ∃ selected,
      selectMachines machineSet (MemoryStore.inNamespace store.machines ns) = .ok selected ∧
      ((∃ warnings, outcome = .degraded warnings) ↔
        RepeatsTaint machineSet.templateTaints ∧
          ∃ machine ∈ selected, machine.nodeName?.isSome = true) ∧
      (∀ warnings, outcome = .degraded warnings →
        warnings = (selected.filter fun machine => machine.nodeName?.isSome).map fun machine =>
          ⟨machine.metadata.anyName, (dedupTaints machineSet.templateTaints).duplicates⟩) ∧
      ((∀ warnings, outcome ≠ .degraded warnings) → outcome = .synced) := by
  obtain ⟨selected, selects, rfl⟩ := store.outcome_of_pass found passed
  refine ⟨selected, selects, ?_, ?_, ?_⟩
  · simp only [passOutcome_eq_degraded_iff, exists_eq_left, templateWarnings_ne_nil_iff]
  · intro warnings degraded
    obtain ⟨rfl, faulty⟩ := passOutcome_eq_degraded_iff.mp degraded
    exact templateWarnings_of_repeats (templateWarnings_ne_nil_iff.mp faulty).1 selected
  · intro undegraded
    rcases passOutcome_cases (templateWarnings machineSet selected) with synced | degraded
    · exact synced
    · exact absurd degraded (undegraded _)

end WholePass

namespace SmallCluster

/-- The set of the cluster with a template that lists a taint without a value and with an empty
one. -/
def repeatingSet : MachineSet :=
  let template := machineSet.spec.template
  let taints :=
    [⟨"dedicated", none, "NoSchedule", none⟩, ⟨"dedicated", some "", "NoSchedule", none⟩]
  { machineSet with
    spec := { machineSet.spec with
      template := { template with spec := { template.spec with taints := taints } } } }

/-- The machine of the cluster with a taint that the template does not list. -/
def carryingMachine : Machine := machine.setTaints [⟨"old", none, "NoExecute", none⟩]

/-- A machine of the cluster that has not joined yet. -/
def joiningMachine : Machine :=
  { machine with metadata := { machine.metadata with name := some "web-1" }, status := none }

/-- The cluster with these. -/
def repeatingStore : MemoryStore :=
  { store with
    machineSets := SortedMap.empty.insert ⟨"machines", "web"⟩ repeatingSet
    machines := (SortedMap.empty.insert ⟨"machines", "web-0"⟩ carryingMachine).insert
      ⟨"machines", "web-1"⟩ joiningMachine }

theorem selects_repeatingStore :
    selectMachines repeatingSet (MemoryStore.inNamespace repeatingStore.machines "machines") =
      .ok [carryingMachine, joiningMachine] := by
  rfl

theorem passed_repeatingStore :
    ∃ outcome after, repeatingStore.pass "machines" "web" = (.ok outcome, after) := by
  have names : (repeatingStore.selected repeatingSet "machines").filterMap Machine.nodeName? =
      ["node-0"] := by
    rw [MemoryStore.selected, selects_repeatingStore]
    rfl
  apply pass_of_present
  · exact MemoryStore.placed_of_all (by decide) (by decide) (by decide)
  · exact SortedMap.get?_insert_self _ _ _
  · exact ⟨_, rfl⟩
  · rw [names]
    decide
  · rw [names]
    decide
  · exact fun _ => rfl

end SmallCluster

/-- Both machines are selected, and the one that has joined is warned of. -/
theorem outcome_follows_template_repeatingStore :
    ∃ after, SmallCluster.repeatingStore.pass "machines" "web" =
      (.ok (.degraded [⟨"web-0", [⟨"dedicated", some "", "NoSchedule", none⟩]⟩]), after) := by
  obtain ⟨outcome, after, passed⟩ := SmallCluster.passed_repeatingStore
  have found : SmallCluster.repeatingStore.machineSets.get? ⟨"machines", "web"⟩ =
      some SmallCluster.repeatingSet := SortedMap.get?_insert_self _ _ _
  obtain ⟨selected, selects, degraded, warned, -⟩ := outcome_follows_template found passed
  rw [SmallCluster.selects_repeatingStore] at selects
  cases selects
  have repeats : RepeatsTaint SmallCluster.repeatingSet.templateTaints := by decide
  obtain ⟨warnings, rfl⟩ :=
    degraded.mpr ⟨repeats, SmallCluster.carryingMachine, List.mem_cons_self, rfl⟩
  have listed : warnings = [⟨"web-0", [⟨"dedicated", some "", "NoSchedule", none⟩]⟩] :=
    (warned warnings rfl).trans rfl
  exact ⟨after, listed ▸ passed⟩

end NodeSync
