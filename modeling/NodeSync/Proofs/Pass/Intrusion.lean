/-
Module: NodeSync.Proofs.Pass.Intrusion
Purpose: A label that somebody puts on a node while a pass has the node at hand. The pass cannot
  write the node any more, so that the label is there when it ends, and a pass that had the node to
  write does not go through. What later passes make of the label depends on the machine, which may
  have been written by then: if it carries the key, the label counts as one of theirs, and it stays
  only if the template gives it no other value.
Main exports: MachineSet.wanted?, MemoryStore.label?, Intrusion, NodeWrite.bears, Sheltered,
  Aftermath, Thwarted, Withstands, intruding_label_kept, intruding_label_overridden
-/
import NodeSync.Proofs.Pass.Propriety
import NodeSync.Proofs.Pass.Recovery

namespace NodeSync

set_option autoImplicit false

/-! ## Labels that a template leaves as they are -/

/-- The value that the template gives a label, unless its key cannot be recorded. -/
def MachineSet.wanted? (machineSet : MachineSet) (key : String) : Option String :=
  if Provenance.hasSeparator key then none else machineSet.templateNodeLabels.get? key

/-- The value of a label of a stored node. -/
def MemoryStore.label? (store : MemoryStore) (nodeName key : String) : Option String :=
  (store.nodes.get? nodeName).bind fun node => node.labelMap.get? key

/-- A node carries a label. If the template gives it no value, the annotation does not list it. -/
structure Node.Bears (wish : Option String) (key value : String) (node : Node) : Prop where
  carried : node.labelMap.get? key = some value
  unlisted : wish = none → node.ownedKeys.contains key = false

section Labels

variable {machineSet : MachineSet} {machine : Machine} {node revised : Node} {key value : String}
  {wish : Option String}

theorem hasSeparator_of_wanted? (wanted : machineSet.wanted? key = some value) :
    Provenance.hasSeparator key = false := by
  rw [MachineSet.wanted?] at wanted
  cases separated : Provenance.hasSeparator key with
  | false => rfl
  | true =>
      rw [separated] at wanted
      cases wanted

theorem get?_expectedLabels_eq_wanted? :
    (expectedLabels machineSet machine node).get? key =
      if mayLabel machine node key then machineSet.wanted? key else none := by
  rw [get?_expectedLabels, MachineSet.wanted?]
  cases separated : Provenance.hasSeparator key with
  | true => simp [mayLabel, separated]
  | false => rfl

/-- A label that the template gives no other value survives every write of a pass to the node. -/
theorem NodeWrite.bears (write : NodeWrite machineSet machine node revised)
    (wanted : machineSet.wanted? key = wish) (harmless : ∀ other, wish = some other → other = value)
    (bears : node.Bears wish key value) : revised.Bears wish key value := by
  have expected : (expectedLabels machineSet machine node).get? key =
      if mayLabel machine node key then wish else none := by
    rw [get?_expectedLabels_eq_wanted?, wanted]
  cases wish with
  | none =>
      have unexpected : (expectedLabels machineSet machine node).contains key = false := by
        rw [SortedMap.contains_eq_false_iff, expected, ite_self]
      refine ⟨?_, fun _ => ?_⟩
      · rw [write.labelMap_eq, syncNodeLabels_get?_of_foreign (bears.unlisted rfl) unexpected,
          bears.carried]
      · rw [write.ownedKeys_eq, Bool.eq_false_iff, Ne,
          contains_ownedKeys_syncNodeLabels hasSeparator_of_mem_expectedLabels, unexpected]
        simp
  | some other =>
      cases harmless other rfl
      refine ⟨?_, fun none => nomatch none⟩
      cases may : mayLabel machine node key with
      | true =>
          rw [write.labelMap_eq, syncNodeLabels_labelMap, SortedMap.get?_override, expected, may]
          rfl
      | false =>
          -- Somebody else's key is not listed, so that it is kept.
          have plain := hasSeparator_of_wanted? wanted
          have unlisted : node.ownedKeys.contains key = false := by
            simp only [mayLabel, plain, Bool.not_false, Bool.true_and, Bool.or_eq_false_iff] at may
            exact may.2
          rw [may] at expected
          rw [write.labelMap_eq, syncNodeLabels_get?_of_foreign unlisted
            (SortedMap.contains_eq_false_iff.mpr expected), bears.carried]

/-- A node that a pass has not to write has every label that the template gives it, unless it has
another one in its place. -/
theorem ne_none_of_not_nodeUpdateDue (idle : ¬NodeUpdateDue machineSet machine node)
    (wanted : (machineSet.wanted? key).isSome = true) : node.labelMap.get? key ≠ none := by
  intro lacking
  obtain ⟨value, wanted⟩ := Option.isSome_iff_exists.mp wanted
  have plain := hasSeparator_of_wanted? wanted
  have may : mayLabel machine node key = true := by
    simp [mayLabel, plain, SortedMap.contains_eq_false_iff.mpr lacking]
  have expected : (expectedLabels machineSet machine node).get? key = some value := by
    rw [get?_expectedLabels_eq_wanted?, may, wanted]
    rfl
  have agrees := not_not.mp fun disagrees => idle (.inl disagrees)
  rw [(Node.agreesWith_iff.mp agrees).2 key value expected] at lacking
  cases lacking

end Labels

/-! ## Calls after the label was put on the node -/

section Calls

variable {setKey : ObjectKey} {nodeName key value : String} {wish : Option String}
  {before after : MemoryStore} {request : Request} {reply : Option request.Reply}
  {older : List Happening}

/-- The template, as the pass has read it and as it is stored, gives a label one value or none. -/
structure Wished (setKey : ObjectKey) (key : String) (wish : Option String)
    (journal : List Happening) (store : MemoryStore) : Prop where
  stored : ∀ machineSet, store.machineSets.get? setKey = some machineSet →
    machineSet.wanted? key = wish
  read : ∀ machineSet, setRead? journal = some machineSet → machineSet.wanted? key = wish

theorem Wished.call (wished : Wished setKey key wish older before)
    (allowed : Allowed setKey before older request) (met : Met before after request reply) :
    Wished setKey key wish (.call before request reply :: older) after := by
  constructor
  · have same : after.machineSets = before.machineSets := by
      rcases met.left with left | ⟨pending, left⟩
      · rw [left, before.serve_machineSets request]
      · rw [left]
        rfl
    rw [same]
    exact wished.stored
  · intro machineSet read
    cases allowed with
    | getMachineSet =>
        rcases reply with _ | error | answer
        · exact wished.read machineSet read
        · exact wished.read machineSet read
        · cases read
          have served := met.served machineSet rfl
          rw [MemoryStore.serve] at served
          cases found : before.machineSets.get? ⟨setKey.ns, setKey.name⟩ with
          | none =>
              rw [found] at served
              cases served
          | some stored =>
              rw [found] at served
              cases served
              exact wished.stored machineSet found
    | _ => exact wished.read machineSet read

/-- What a call makes of a stored node. Only an update of the node changes it, and then the node is
what was to be written, but for its stamps and its status. -/
theorem Met.node (met : Met before after request reply) (nodeName : String) :
    after.nodes.get? nodeName = before.nodes.get? nodeName ∨
      ∃ revised answer stored version, request = .updateNode revised ∧
        (before.serve (.updateNode revised)).1 = .ok answer ∧
        revised.metadata.name = some nodeName ∧
        after.nodes.get? nodeName = some ((revised.replacing stored).withVersion version) := by
  rcases met.left with left | ⟨pending, left⟩
  · have served := before.served request
    rw [left]
    generalize whole : before.serve request = result at served ⊢
    cases served with
    | @updateNode name revised stored named found current =>
        by_cases here : nodeName = name
        · subst here
          exact .inr ⟨revised, _, stored, some before.freshVersion, rfl, congrArg Prod.fst whole,
            named, SortedMap.get?_insert_self _ _ _⟩
        · exact .inl (SortedMap.get?_insert_of_ne _ here _)
    | _ => exact .inl rfl
  · exact .inl (by rw [left]; rfl)

/-- A label that the template gives no other value is on the node. -/
structure Sheltered (setKey : ObjectKey) (nodeName key value : String) (wish : Option String)
    (journal : List Happening) (store : MemoryStore) : Prop
    extends Wished setKey key wish journal store where
  node : ∃ node, store.nodes.get? nodeName = some node ∧ node.Bears wish key value

/-- It stays there, whatever a pass does. -/
theorem Sheltered.call (harmless : ∀ other, wish = some other → other = value)
    (sheltered : Sheltered setKey nodeName key value wish older before)
    (allowed : Allowed setKey before older request) (met : Met before after request reply) :
    Sheltered setKey nodeName key value wish (.call before request reply :: older) after := by
  refine ⟨sheltered.toWished.call allowed met, ?_⟩
  obtain ⟨node, there, bears⟩ := sheltered.node
  rcases met.node nodeName with same | ⟨revised, answer, stored, version, rfl, served, named, left⟩
  · exact ⟨node, same.trans there, bears⟩
  · cases allowed with
    | @updateNode machineSet machine name copy _ handling write atHand replaces =>
        obtain ⟨named', there'⟩ := replaces answer served
        cases named.symm.trans named'
        cases there.symm.trans there'
        have kept := write.bears (sheltered.read machineSet handling.read) harmless bears
        exact ⟨_, left, kept.carried, kept.unlisted⟩

/-- What has become of a node that was at hand when somebody else changed it: it is as it was left
then, no copy of it was had since, and the pass is still at the machine that it was at, or the pass
had nothing to write on the node. -/
inductive Aftermath (nodeName : String) (machineSet : MachineSet) (machine : Machine)
    (node changed : Node) (journal : List Happening) (store : MemoryStore) : Prop where
  | pending {current : Machine} (stored : store.nodes.get? nodeName = some changed)
      (atHand : atHand? journal = some (nodeName, node)) (hit : HitSince (.node nodeName) journal)
      (handling : Handling journal machineSet current nodeName)
      (expected : expectedLabels machineSet current node = expectedLabels machineSet machine node)
  | idle (idle : ¬NodeUpdateDue machineSet machine node)

/-- No call of a pass changes that. Its next update of the node has no success, and it reads no
other node before it has nothing to write on this one. -/
theorem Aftermath.call {machineSet : MachineSet} {machine : Machine} {node changed : Node}
    (differ : changed ≠ node)
    (aftermath : Aftermath nodeName machineSet machine node changed older before)
    (allowed : Allowed setKey before older request) (met : Met before after request reply) :
    Aftermath nodeName machineSet machine node changed (.call before request reply :: older)
      after := by
  cases aftermath with
  | idle idle => exact .idle idle
  | pending stored atHand hit handling expected =>
      -- The copy at hand is not the node that is stored.
      have unserved : ∀ revised answer, request = .updateNode revised →
          (before.serve (.updateNode revised)).1 ≠ .ok answer := by
        rintro revised answer rfl served
        cases allowed with
        | updateNode handling' write own replaces =>
            obtain ⟨rfl, rfl⟩ := own nodeName node atHand
            exact differ (Option.some.inj (stored.symm.trans (replaces answer served).2))
      have stored' : after.nodes.get? nodeName = some changed := by
        rcases met.node nodeName with same | ⟨revised, answer, -, -, made, served, -⟩
        · exact same.trans stored
        · exact absurd served (unserved revised answer made)
      by_cases succeeds : ∃ answer, reply = some (.ok answer)
      · obtain ⟨answer, rfl⟩ := succeeds
        cases allowed with
        | getMachineSet first => exact nomatch first.symm.trans handling.read
        | listMachines ns first => exact nomatch first.symm.trans atHand
        | getNode read next copied provisioned through =>
            obtain ⟨_, _, handling', idle⟩ := through nodeName node atHand
            obtain ⟨rfl, rfl⟩ := handling.unique handling'
            exact .idle (mt (nodeUpdateDue_congr expected).mpr idle)
        | updateMachine handling' write own updated =>
            obtain ⟨rfl, rfl⟩ := own nodeName node atHand
            obtain ⟨rfl, rfl⟩ := handling.unique handling'
            obtain ⟨version, rfl⟩ := updated answer (met.served answer rfl)
            exact .pending stored' atHand ⟨by simp [Happening.shown?], hit⟩
              (handling.updateMachine write.revises version)
              (write.expectedLabels_eq.trans expected)
        | updateNode => exact absurd (met.served answer rfl) (unserved _ answer rfl)
      · have failed : ∀ answer, reply ≠ some (.ok answer) := fun answer same =>
          succeeds ⟨answer, same⟩
        exact .pending stored' ((atHand?_of_failed failed).trans atHand)
          ⟨shown?_of_failed failed, hit⟩ ((Handling.failed_iff failed).mpr handling) expected

end Calls

/-! ## Passes -/

/-- While a pass has a node at hand, somebody else puts a label on it. The node had none of that key
when the pass read it, nor does it have one just before the event, and its annotation does not list
the key. The template gives the label the same value, or none, before and after. -/
structure Intrusion (setKey : ObjectKey) (nodeName key value : String) (wish : Option String)
    (node : Node) (before : MemoryStore) (event : Event) (older : List Happening) : Prop where
  read : (setRead? older).map (MachineSet.wanted? · key) = some wish
  stored : ∀ machineSet, (before.apply event).machineSets.get? setKey = some machineSet →
    machineSet.wanted? key = wish
  atHand : atHand? older = some (nodeName, node)
  lacking : node.labelMap.get? key = none
  absent : before.label? nodeName key = none
  added : (before.apply event).label? nodeName key = some value
  unlisted : ∀ changed, (before.apply event).nodes.get? nodeName = some changed →
    changed.ownedKeys.contains key = false

section Passes

variable {setKey : ObjectKey} {nodeName key value ns name : String} {wish : Option String}
  {machineSet : MachineSet} {machine : Machine} {node changed : Node}
  {before start store last : MemoryStore} {event : Event} {journal calls older : List Happening}

theorem label?_eq_some_iff : store.label? nodeName key = some value ↔
    ∃ node, store.nodes.get? nodeName = some node ∧ node.labelMap.get? key = some value :=
  Option.bind_eq_some_iff

theorem Sheltered.label? (sheltered : Sheltered setKey nodeName key value wish journal store) :
    store.label? nodeName key = some value := by
  obtain ⟨node, there, bears⟩ := sheltered.node
  exact label?_eq_some_iff.mpr ⟨node, there, bears.carried⟩

/-- A store where a node has a label that it lacks in another store holds another node. -/
theorem item?_ne_of_label? (absent : store.label? nodeName key = none)
    (added : last.label? nodeName key = some value) :
    last.item? (.node nodeName) ≠ store.item? (.node nodeName) := by
  intro same
  have nodes : last.nodes.get? nodeName = store.nodes.get? nodeName :=
    Option.map_injective (fun _ _ same => Item.node.inj same) same
  rw [MemoryStore.label?, nodes, ← MemoryStore.label?, absent] at added
  cases added

namespace Intrusion

theorem wished (intrusion : Intrusion setKey nodeName key value wish node before event older) :
    Wished setKey key wish (.event before event :: older) (before.apply event) where
  stored := intrusion.stored
  read machineSet read := by
    have wanted := intrusion.read
    rw [show setRead? older = some machineSet from read] at wanted
    exact Option.some.inj wanted

/-- The calls after the event, if the template gives the label no other value. -/
theorem sheltered (intrusion : Intrusion setKey nodeName key value wish node before event older)
    (harmless : ∀ other, wish = some other → other = value)
    (leads : Leads start journal last) (proper : Proper setKey journal)
    (whole : journal = calls ++ .event before event :: older)
    (alone : ∀ before event, .event before event ∉ calls) :
    Sheltered setKey nodeName key value wish journal last := by
  apply leads.along (Sheltered setKey nodeName key value wish) proper whole alone
  · intro middle here
    cases here
    obtain ⟨changed, there, carried⟩ := label?_eq_some_iff.mp intrusion.added
    exact ⟨intrusion.wished, changed, there, carried, fun _ => intrusion.unlisted changed there⟩
  · exact fun _ _ _ _ _ allowed met sheltered => sheltered.call harmless allowed met

/-- The calls after the event, whatever value the template gives the label. -/
theorem aftermath (intrusion : Intrusion setKey nodeName key value wish node before event older)
    (handling : Handling older machineSet machine nodeName)
    (there : (before.apply event).nodes.get? nodeName = some changed)
    (carried : changed.labelMap.get? key = some value)
    (leads : Leads start journal last) (proper : Proper setKey journal)
    (whole : journal = calls ++ .event before event :: older)
    (alone : ∀ before event, .event before event ∉ calls) :
    Aftermath nodeName machineSet machine node changed journal last := by
  have differ : changed ≠ node := by
    rintro rfl
    rw [intrusion.lacking] at carried
    cases carried
  have hit := item?_ne_of_label? intrusion.absent intrusion.added
  apply leads.along (Aftermath nodeName machineSet machine node changed) proper whole alone
  · intro middle here
    cases here
    exact .pending there intrusion.atHand
      (.inr ⟨isSome_lastCopy?_of_atHand? intrusion.atHand, hit⟩) (handling.event event) rfl
  · exact fun _ _ _ _ _ allowed met aftermath => aftermath.call differ allowed met

/-- Unless the pass had nothing to write on it, it has had no copy of the node since. -/
theorem hitSince (intrusion : Intrusion setKey nodeName key value wish node before event older)
    (handling : Handling older machineSet machine nodeName)
    (due : NodeUpdateDue machineSet machine node)
    (leads : Leads start journal last) (proper : Proper setKey journal)
    (whole : journal = calls ++ .event before event :: older)
    (alone : ∀ before event, .event before event ∉ calls)
    {later : List Happening} (earlier : later <:+ journal)
    (since : .event before event :: older <:+ later) : HitSince (.node nodeName) later := by
  obtain ⟨changed, there, carried⟩ := label?_eq_some_iff.mp intrusion.added
  obtain ⟨middle, leads'⟩ := leads.of_suffix earlier
  obtain ⟨fewer, rfl⟩ := since
  cases intrusion.aftermath handling there carried leads' (proper.of_suffix earlier) rfl
    (alone_of_suffix whole alone earlier) with
  | pending stored atHand hit => exact hit
  | idle idle => exact absurd due idle

end Intrusion

/-- If the template gives the label another value, there was something to write on the node, so that
it is as it was left. -/
theorem Aftermath.stored
    (aftermath : Aftermath nodeName machineSet machine node changed journal store)
    (wanted : machineSet.wanted? key = wish) (lacking : node.labelMap.get? key = none)
    (harmful : ¬∀ other, wish = some other → other = value) :
    store.nodes.get? nodeName = some changed := by
  cases aftermath with
  | pending stored => exact stored
  | idle idle =>
      cases wish with
      | none => exact absurd (fun _ none => nomatch none) harmful
      | some other =>
          have carries := ne_none_of_not_nodeUpdateDue idle (by rw [wanted]; rfl)
          exact absurd lacking carries

/-- A label that the template gives no other value, after a further pass. -/
theorem Sheltered.passUnder (harmless : ∀ other, wish = some other → other = value)
    (versioned : store.Versioned) (stamped : store.Stamped)
    (sheltered : Sheltered ⟨ns, name⟩ nodeName key value wish [] store) (fates : List Fate) :
    Sheltered ⟨ns, name⟩ nodeName key value wish [] (store.passUnder fates ns name).2 := by
  obtain ⟨same, alone⟩ := store.passUnder_eq_contestedPass fates ns name
  have proper := (contestedPass_proper fates [] ns name versioned stamped).1
  have kept := (leads_contestedPass store fates [] ns name).along
    (Sheltered ⟨ns, name⟩ nodeName key value wish) proper (List.append_nil _).symm alone
    (fun middle here => by cases here; exact sheltered)
    fun _ _ _ _ _ allowed met sheltered => sheltered.call harmless allowed met
  rw [same]
  exact ⟨⟨kept.stored, fun _ read => nomatch read⟩, kept.node⟩

/-- After any number of further passes. -/
theorem Sheltered.passesUnder (harmless : ∀ other, wish = some other → other = value)
    (versioned : store.Versioned) (stamped : store.Stamped)
    (sheltered : Sheltered ⟨ns, name⟩ nodeName key value wish [] store)
    (passes : List (List Fate)) :
    Sheltered ⟨ns, name⟩ nodeName key value wish [] (store.passesUnder passes ns name) := by
  induction passes generalizing store with
  | nil => exact sheltered
  | cons fates rest ih =>
      exact ih (versioned.passUnder fates ns name)
        ((store.evolves_passUnder fates ns name).stamped stamped)
        (sheltered.passUnder harmless versioned stamped fates)

/-- A label that nobody claims, after any number of passes. -/
theorem foreign_passesUnder (versioned : store.Versioned)
    (foreign : store.Foreign key nodeName value) (passes : List (List Fate)) (ns name : String) :
    (store.passesUnder passes ns name).Foreign key nodeName value := by
  induction passes generalizing store with
  | nil => exact foreign
  | cons fates rest ih =>
      have guarded := guarded_passUnder versioned foreign fates ns name
      exact ih guarded.versioned guarded.foreign

end Passes

/-- What becomes of a pass that had a node to write when somebody else changed it. -/
structure Thwarted (fates : List Fate) (nodeName : String) (node : Node) (since : List Happening)
    (ended : Except ControllerError Outcome × Contested) : Prop where
  /-- It does not go through. -/
  failed : ∀ outcome, ended.1 ≠ .ok outcome
  /-- An update of the node that it still makes is overtaken. -/
  overtaken : ∀ before request reply older item,
    .call before request reply :: older <:+ ended.2.journal → since <:+ older →
    request.update? = some (.node nodeName, item) →
    Overtaken fates ended.1 ended.2.store before request reply
  /-- If nobody disturbs its calls, it ends with an update, and that with a conflict. Only a failure
  that was ordered comes before the conflict. -/
  conflict : fates = [] → node.metadata.name = some nodeName → ∃ before request reply older,
    ended.2.journal = .call before request reply :: older ∧ request.update?.isSome = true ∧
      (before.pendingFailures request.operation = 0 →
        ∃ what, ended.1 = .error (.store (.conflict what))) ∧
      (0 < before.pendingFailures request.operation → ended.1 =
        .error (.store (.unavailable ("injected failure for " ++ request.operation.name))))

/-- What becomes of a label that somebody has put on a node that a pass had at hand, and of the
pass. -/
structure Withstands (fates : List Fate) (ns name nodeName key value : String)
    (wish : Option String) (node : Node) (since : List Happening)
    (ended : Except ControllerError Outcome × Contested) : Prop where
  /-- It is on the node when the pass has ended. -/
  kept : ended.2.ready.store.label? nodeName key = some value
  /-- The pass was at a machine of this node. If it had the node to write, it is stopped. -/
  stopped : ∃ machineSet machine, Handling since machineSet machine nodeName ∧
    (NodeUpdateDue machineSet machine node → Thwarted fates nodeName node since ended)
  /-- It stays there as long as nobody comes to wish it otherwise: the template gives it no other
  value, or no machine of the node carries the key by then. -/
  lasting : (∀ other, wish = some other → other = value) ∨
      (∀ place machine, ended.2.ready.store.machines.get? place = some machine →
        machine.refName? = some nodeName → machine.nodeLabels.contains key = false) →
    ∀ passes, (ended.2.ready.store.passesUnder passes ns name).label? nodeName key = some value

section Stopped

variable {store before : MemoryStore} {fates : List Fate} {turns : List (List Event)}
  {ns name nodeName key value : String} {wish : Option String} {machineSet : MachineSet}
  {machine : Machine} {node : Node} {event : Event} {calls older : List Happening}

/-- A pass that nobody disturbs ends with an update if it ends with an error while it has a node to
write. -/
theorem Broken.update {cause : ControllerError} {state : Contested} {setKey : ObjectKey}
    (broken : Broken (fates = []) setKey cause state) (quiet : fates = [])
    (handling : Handling state.journal machineSet machine nodeName)
    (atHand : atHand? state.journal = some (nodeName, node))
    (named : node.metadata.name = some nodeName) (due : NodeUpdateDue machineSet machine node) :
    ∃ before request error older slot item,
      state.journal = .call before request (some (.error error)) :: older ∧
        (before.answer request).1 = .error error ∧ cause = .store error ∧
        request.update? = some (slot, item) ∧ (lastCopy? slot older).isSome = true := by
  obtain ⟨before, request, error, older, journal, answered, caused⟩ :=
    broken.last quiet (by rw [atHand]; rfl)
  have failed : ∀ answer, some (Except.error error : request.Reply) ≠ some (.ok answer) := nofun
  have proper := broken.proper
  rw [journal] at atHand handling proper
  rw [atHand?_of_failed failed] at atHand
  replace handling := (Handling.failed_iff failed).mp handling
  refine ⟨before, request, error, older, ?_⟩
  cases proper with
  | call reply proper allowed =>
      cases allowed with
      | getMachineSet first => exact nomatch first.symm.trans handling.read
      | listMachines ns first => exact nomatch first.symm.trans atHand
      | getNode read next copied provisioned through =>
          obtain ⟨_, _, handling', idle⟩ := through nodeName node atHand
          obtain ⟨rfl, rfl⟩ := handling.unique handling'
          exact absurd due idle
      | @updateMachine _ copy revised _ _ handling' write own updated =>
          have place : revised.place = copy.place := write.revises.place
          refine ⟨.machine revised.place, .machine revised, journal, answered, caused, rfl, ?_⟩
          rw [place, handling'.copied]
          rfl
      | @updateNode _ _ _ _ revised handling' write own replaces =>
          obtain ⟨rfl, rfl⟩ := own nodeName node atHand
          refine ⟨.node nodeName, .node revised, journal, answered, caused, ?_,
            isSome_lastCopy?_of_atHand? atHand⟩
          rw [Request.update?, write.revises.name, named]
          rfl

/-- A pass that had the node to write is stopped. -/
theorem Intrusion.thwarted
    (intrusion : Intrusion ⟨ns, name⟩ nodeName key value wish node before event older)
    (handling : Handling older machineSet machine nodeName)
    (due : NodeUpdateDue machineSet machine node) (reachable : store.Reachable)
    (journal : (store.contestedPass fates turns ns name).2.ready.journal =
      calls ++ .event before event :: older)
    (alone : ∀ before event, .event before event ∉ calls) :
    Thwarted fates nodeName node (.event before event :: older)
      (store.contestedPass fates turns ns name) := by
  have leads := (leads_contestedPass store fates turns ns name).ready
  obtain ⟨proper, goesThrough, broken⟩ := contestedPass_proper fates turns ns name
    (MemoryStore.versioned_of_reachable reachable) (MemoryStore.stamped_of_reachable reachable)
  obtain ⟨changed, there, carried⟩ := label?_eq_some_iff.mp intrusion.added
  cases intrusion.aftermath handling there carried leads proper.ready journal alone with
  | idle idle => exact absurd due idle
  | @pending current stored atHand hit handling' expected =>
      replace handling' := Handling.ready_iff.mp handling'
      rw [atHand?_ready] at atHand
      have due' : NodeUpdateDue machineSet current node := (nodeUpdateDue_congr expected).mpr due
      have failed : ∀ outcome, (store.contestedPass fates turns ns name).1 ≠ .ok outcome := by
        intro outcome ok
        obtain ⟨_, _, handling'', idle⟩ := goesThrough outcome ok nodeName node atHand
        obtain ⟨rfl, rfl⟩ := handling'.unique handling''
        exact idle due'
      refine ⟨failed, fun before' request reply older' item made since updates => ?_,
        fun quiet named => ?_⟩
      · have earlier := ((List.suffix_cons _ _).trans made).trans (Contested.suffix_ready _)
        exact contestedPass_overtaken reachable made updates
          (intrusion.hitSince handling due leads proper.ready journal alone earlier since)
      · cases result : (store.contestedPass fates turns ns name).1 with
        | ok outcome => exact absurd result (failed outcome)
        | error cause =>
            obtain ⟨before', request, error, older', slot, item, last, answered, rfl, updates,
              seen⟩ := (broken cause result).update quiet handling' atHand named due'
            have made := List.suffix_refl (store.contestedPass fates turns ns name).2.journal
            nth_rewrite 1 [last] at made
            obtain ⟨-, -, upToDate, -⟩ := contestedPass_update reachable made updates
            refine ⟨before', request, _, older', last, by rw [updates]; rfl, fun none => ?_,
              fun some => ?_⟩
            · rw [MemoryStore.answer_of_unordered none] at answered
              obtain ⟨what, rfl⟩ := upToDate.refuses seen error answered
              exact ⟨what, rfl⟩
            · rw [MemoryStore.answer, if_pos some] at answered
              cases answered
              rfl

end Stopped

/-- A test whether the last event of a journal is such an intrusion. -/
def intrudes? (setKey : ObjectKey) (nodeName key value : String) (wish : Option String) :
    List Happening → Bool
  | .call _ _ _ :: older => intrudes? setKey nodeName key value wish older
  | .event before event :: older =>
      (setRead? older).map (MachineSet.wanted? · key) == some wish &&
        ((before.apply event).machineSets.get? setKey).all
          (fun machineSet => machineSet.wanted? key == wish) &&
        (atHand? older).any
          (fun read => read.1 == nodeName && read.2.labelMap.get? key == none) &&
        before.label? nodeName key == none &&
        (before.apply event).label? nodeName key == some value &&
        ((before.apply event).nodes.get? nodeName).all
          (fun changed => !changed.ownedKeys.contains key)
  | [] => false

theorem exists_of_intrudes? {setKey : ObjectKey} {nodeName key value : String}
    {wish : Option String} {journal : List Happening}
    (test : intrudes? setKey nodeName key value wish journal = true) :
    ∃ node before event calls older, journal = calls ++ .event before event :: older ∧
      (∀ before event, .event before event ∉ calls) ∧
      Intrusion setKey nodeName key value wish node before event older := by
  induction journal with
  | nil => cases test
  | cons happening older ih =>
      cases happening with
      | call before request reply =>
          obtain ⟨node, before', event, calls, oldest, rfl, alone, intrusion⟩ := ih test
          refine ⟨node, before', event, .call before request reply :: calls, oldest, rfl, ?_,
            intrusion⟩
          intro before event listed
          rcases List.mem_cons.mp listed with same | earlier
          · cases same
          · exact alone before event earlier
      | event before event =>
          simp only [intrudes?, Bool.and_eq_true, beq_iff_eq] at test
          obtain ⟨⟨⟨⟨⟨read, stored⟩, atHand⟩, absent⟩, added⟩, unlisted⟩ := test
          cases read' : atHand? older with
          | none =>
              rw [read'] at atHand
              cases atHand
          | some copy =>
              rcases copy with ⟨name, node⟩
              simp only [read', Option.any_some, Bool.and_eq_true, beq_iff_eq] at atHand
              obtain ⟨rfl, lacking⟩ := atHand
              refine ⟨node, before, event, [], older, rfl, fun _ _ => List.not_mem_nil, read, ?_,
                read', lacking, absent, added, ?_⟩
              · intro machineSet found
                simpa [found] using stored
              · intro changed found
                simpa [found] using unlisted

/-- A label that somebody else puts on a node while a pass has the node at hand, as the last thing
that happens to the store but for the calls of the pass, is there when the pass has ended. If the
pass had the node to write, given the machine that it was at and the node as it has read it, it does
not go through: an update of the node is overtaken, and if nobody disturbs the calls of the pass, it
ends with a conflict, unless a failure of its last update was ordered. Any number of further passes
leave the label alone, if the template gives it no other value, or if no machine of the node carries
its key when the pass has ended. -/
theorem intruding_label_kept {store : MemoryStore} (reachable : store.Reachable)
    {fates : List Fate} {turns : List (List Event)} {ns name nodeName key value : String}
    {wish : Option String} {node : Node} {before : MemoryStore} {event : Event}
    {calls older : List Happening}
    (journal : (store.contestedPass fates turns ns name).2.ready.journal =
      calls ++ .event before event :: older)
    (alone : ∀ before event, .event before event ∉ calls)
    (intrusion : Intrusion ⟨ns, name⟩ nodeName key value wish node before event older) :
    Withstands fates ns name nodeName key value wish node (.event before event :: older)
      (store.contestedPass fates turns ns name) := by
  have leads := (leads_contestedPass store fates turns ns name).ready
  have watched := (watched_contestedPass fates turns ns name reachable).ready
  have proper := (contestedPass_proper fates turns ns name
    (MemoryStore.versioned_of_reachable reachable)
    (MemoryStore.stamped_of_reachable reachable)).1.ready
  obtain ⟨changed, there, carried⟩ := label?_eq_some_iff.mp intrusion.added
  have since : .event before event :: older <:+
      (store.contestedPass fates turns ns name).2.ready.journal := ⟨calls, journal.symm⟩
  obtain ⟨_, begun⟩ := leads.of_suffix ((List.suffix_cons _ _).trans since)
  obtain ⟨machineSet, machine, handling⟩ := exists_handling begun
    (proper.of_suffix ((List.suffix_cons _ _).trans since)) intrusion.atHand
  have aftermath := intrusion.aftermath handling there carried leads proper journal alone
  have wanted : machineSet.wanted? key = wish := intrusion.wished.read machineSet handling.read
  refine ⟨?_, ⟨machineSet, machine, handling.event event, fun due =>
    intrusion.thwarted handling due reachable journal alone⟩, fun spared passes => ?_⟩
  · by_cases harmless : ∀ other, wish = some other → other = value
    · exact (intrusion.sheltered harmless leads proper journal alone).label?
    · have stored := aftermath.stored wanted intrusion.lacking harmless
      exact label?_eq_some_iff.mpr ⟨changed, stored, carried⟩
  · by_cases harmless : ∀ other, wish = some other → other = value
    · have sheltered := intrusion.sheltered harmless leads proper journal alone
      have later : Sheltered ⟨ns, name⟩ nodeName key value wish []
          (store.contestedPass fates turns ns name).2.ready.store :=
        ⟨⟨sheltered.stored, fun _ read => nomatch read⟩, sheltered.node⟩
      exact (later.passesUnder harmless watched.versioned watched.stamped passes).label?
    · have stored := aftermath.stored wanted intrusion.lacking harmless
      have foreign : (store.contestedPass fates turns ns name).2.ready.store.Foreign key nodeName
          value :=
        ⟨⟨changed, stored, carried, intrusion.unlisted changed there⟩,
          spared.resolve_left harmless⟩
      obtain ⟨node', there', carried', -⟩ :=
        (foreign_passesUnder watched.versioned foreign passes ns name).node
      exact label?_eq_some_iff.mpr ⟨node', there', carried'⟩

namespace SmallCluster

/-- While a pass over the small cluster runs, the node gets a label of the template, with another
value, before the pass writes it for the first time. -/
def intruders : List (List Event) :=
  [[], [], [], [], [], [.editNode "node-0" fun node => { node with metadata := { node.metadata with
    labels := some (node.labelMap.insert "tier" "back") } }]]

end SmallCluster

/-- A label that the template does not give the node of the small cluster. -/
theorem intruding_label_kept_smallCluster :
    ∃ node before event older, .event before event :: older <:+
        (SmallCluster.registered.contestedPass [] SmallCluster.rivals "machines"
          "web").2.ready.journal ∧
      Withstands [] "machines" "web" "node-0" "rack" "r1" none node (.event before event :: older)
        (SmallCluster.registered.contestedPass [] SmallCluster.rivals "machines" "web") := by
  have test : intrudes? ⟨"machines", "web"⟩ "node-0" "rack" "r1" none
      (SmallCluster.registered.contestedPass [] SmallCluster.rivals "machines"
        "web").2.ready.journal = true := by decide +kernel
  obtain ⟨node, before, event, calls, older, journal, alone, intrusion⟩ :=
    exists_of_intrudes? test
  exact ⟨node, before, event, older, ⟨calls, journal.symm⟩,
    intruding_label_kept SmallCluster.reachable journal alone intrusion⟩

/-- Whether a pass has ended with a conflict. -/
def endsWithConflict : Except ControllerError Outcome → Bool
  | .error (.store (.conflict _)) => true
  | _ => false

/-- A label that the template gives another value is overridden by the next pass, once the machine
carries its key: the pass that could not write the node had put it there. And a pass that had the
node to write ends with another error than a conflict, if a failure of the update was ordered. -/
theorem intruding_label_overridden :
    SmallCluster.registered.Reachable ∧
    (∃ node before event calls older,
      (SmallCluster.registered.contestedPass [] SmallCluster.intruders "machines"
        "web").2.ready.journal = calls ++ .event before event :: older ∧
      (∀ before event, .event before event ∉ calls) ∧
      Intrusion ⟨"machines", "web"⟩ "node-0" "tier" "back" (some "front") node before event older) ∧
    (∀ place machine, SmallCluster.registered.machines.get? place = some machine →
      machine.nodeLabels.contains "tier" = false) ∧
    endsWithConflict (SmallCluster.registered.contestedPass [] SmallCluster.intruders "machines"
      "web").1 = true ∧
    ((SmallCluster.registered.contestedPass [] SmallCluster.intruders "machines"
      "web").2.ready.store.pass "machines" "web").2.label? "node-0" "tier" = some "front" ∧
    SmallCluster.jammed.Reachable ∧
    (∃ node before event calls older,
      (SmallCluster.jammed.contestedPass [] SmallCluster.rivals "machines" "web").2.ready.journal =
        calls ++ .event before event :: older ∧
      (∀ before event, .event before event ∉ calls) ∧
      Intrusion ⟨"machines", "web"⟩ "node-0" "rack" "r1" none node before event older) ∧
    overtakes? (.node "node-0") (SmallCluster.jammed.contestedPass [] SmallCluster.rivals
      "machines" "web").2.journal = true ∧
    endsWithConflict (SmallCluster.jammed.contestedPass [] SmallCluster.rivals "machines"
      "web").1 = false := by
  refine ⟨SmallCluster.reachable, exists_of_intrudes? (by decide +kernel), ?_, by decide +kernel,
    by decide +kernel, SmallCluster.reachable_jammed, exists_of_intrudes? (by decide +kernel),
    by decide +kernel, by decide +kernel⟩
  intro place machine there
  obtain ⟨rfl, rfl⟩ := SmallCluster.get?_singleton there
  rfl

end NodeSync
