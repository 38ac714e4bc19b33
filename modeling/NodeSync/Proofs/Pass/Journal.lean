/-
Module: NodeSync.Proofs.Pass.Journal
Purpose: A store that other clients change between the calls of a program, with a journal of all
  that happens. From the journal one reads which copy of an object the program had last, and whether
  the object was changed by others since. The copies stay known by their stamps whatever happens,
  and a copy of an object that was changed since is not what is stored.
Main exports: Happening, Contested, Contested.environment, Happening.shown?, lastCopy?, HitSince,
  Watched, Watched.answer
-/
import NodeSync.Proofs.Store.Stamps

namespace NodeSync

set_option autoImplicit false

/-! ## The environment -/

/-- What happens while a program runs: an event, with the store that it met, or a call of the
program, with the store that it met and the reply. -/
inductive Happening where
  | event (before : MemoryStore) (event : Event)
  | call (before : MemoryStore) (request : Request) (reply : Option request.Reply)

/-- A disturbed store, and what other clients do. -/
structure Contested where
  base : Disturbed
  /-- What happens before each of the next calls. -/
  turns : List (List Event)
  /-- What has happened, newest first. -/
  journal : List Happening

namespace Contested

/-- The store as it is now. -/
abbrev store (state : Contested) : MemoryStore := state.base.store

/-- An event happens. -/
def befall (state : Contested) (event : Event) : Contested :=
  { state with
    base := { state.base with store := state.store.apply event }
    journal := .event state.store event :: state.journal }

/-- The others have their turn. -/
def ready (state : Contested) : Contested :=
  (state.turns.head?.getD []).foldl befall { state with turns := state.turns.tail }

/-- A call that meets the store as it is now. -/
def meet (request : Request) (state : Contested) : Option request.Reply × Contested :=
  let replied := Disturbed.answer request state.base
  (replied.1, { state with
    base := replied.2
    journal := .call state.store request replied.1 :: state.journal })

/-- The reply to a call. The others have their turn before it. -/
def answer (request : Request) (state : Contested) : Option request.Reply × Contested :=
  meet request state.ready

def environment : Environment Contested where
  cancelled state := state.base.cancelled
  answer := answer
  report failure state := { state with base := Disturbed.environment.report failure state.base }

/-- What the events keep holds after the turn of the others. -/
theorem ready_preserves (invariant : Contested → Prop) {state : Contested}
    (start : ∀ turns, invariant { state with turns := turns })
    (step : ∀ state event, invariant state → invariant (befall state event)) :
    invariant state.ready := by
  have all : ∀ (events : List Event) (state : Contested), invariant state →
      invariant (events.foldl befall state) := by
    intro events
    induction events with
    | nil => exact fun state holds => holds
    | cons event rest ih =>
        exact fun state holds => ih (state.befall event) (step state event holds)
  exact all _ _ (start state.turns.tail)

/-- The others only add to the journal in their turn. -/
theorem suffix_ready (state : Contested) : state.journal <:+ state.ready.journal :=
  ready_preserves (fun after => state.journal <:+ after.journal)
    (fun _ => List.suffix_refl _) (fun _ _ earlier => earlier.trans (List.suffix_cons _ _))

theorem meet_eq {request : Request} {state : Contested} {reply : Option request.Reply}
    {base : Disturbed} (replied : Disturbed.answer request state.base = (reply, base)) :
    meet request state = (reply,
      { state with
        base := base
        journal := .call state.store request reply :: state.journal }) := by
  rw [meet, replied]

end Contested

/-! ## Reading the journal -/

/-- The object that a call shows in a slot: one that it reads, or the one that it has written. -/
def Happening.shown? (slot : Slot) : Happening → Option Item
  | .call _ (.getMachineSet ns name) (some (.ok machineSet)) =>
      if slot = .machineSet ⟨ns, name⟩ then some (.machineSet machineSet) else none
  | .call _ (.listMachines _) (some (.ok machines)) =>
      (List.find? (fun machine => slot = .machine (Machine.place machine)) machines).map .machine
  | .call _ (.getNode name) (some (.ok node)) =>
      if slot = .node name then some (.node node) else none
  | .call _ (.updateMachine _) (some (.ok machine)) =>
      if slot = .machine (Machine.place machine) then some (.machine machine) else none
  | .call _ (.updateNode _) (some (.ok node)) =>
      if (Node.metadata node).name.map .node = some slot then some (.node node) else none
  | _ => none

/-- The copy of the object in a slot that the program has last read or written itself. -/
def lastCopy? (slot : Slot) : List Happening → Option Item
  | [] => none
  | happening :: older => (happening.shown? slot).or (lastCopy? slot older)

/-- The object in a slot was changed by others after the program had read or written it. -/
def HitSince (slot : Slot) : List Happening → Prop
  | [] => False
  | .event before event :: older =>
      HitSince slot older ∨
        (lastCopy? slot older).isSome = true ∧ (before.apply event).item? slot ≠ before.item? slot
  | .call before request reply :: older =>
      (Happening.call before request reply).shown? slot = none ∧ HitSince slot older

/-- A test of that by the stamps of the objects. -/
def hitSince? (slot : Slot) : List Happening → Bool
  | [] => false
  | .event before event :: older =>
      hitSince? slot older ||
        ((lastCopy? slot older).isSome &&
          (((before.apply event).item? slot).bind Item.version !=
            (before.item? slot).bind Item.version))
  | .call before request reply :: older =>
      ((Happening.call before request reply).shown? slot).isNone && hitSince? slot older

section Journal

theorem hitSince_of_hitSince? {slot : Slot} {journal : List Happening}
    (test : hitSince? slot journal = true) : HitSince slot journal := by
  induction journal with
  | nil => cases test
  | cons happening older ih =>
      cases happening with
      | event before event =>
          rcases (Bool.or_eq_true _ _).mp test with earlier | now
          · exact .inl (ih earlier)
          · obtain ⟨copied, stamps⟩ := (Bool.and_eq_true _ _).mp now
            refine .inr ⟨copied, fun same => ?_⟩
            rw [same, bne_self_eq_false] at stamps
            cases stamps
      | call before request reply =>
          obtain ⟨unshown, earlier⟩ := (Bool.and_eq_true _ _).mp test
          exact ⟨Option.isNone_iff_eq_none.mp unshown, ih earlier⟩

theorem shown?_listMachines (before : MemoryStore) (ns : String) (machines : List Machine)
    (slot : Slot) :
    (Happening.call before (.listMachines ns) (some (.ok machines))).shown? slot =
      (machines.find? fun machine => slot = .machine machine.place).map .machine := rfl

theorem shown?_getNode (before : MemoryStore) (name : String) (node : Node) (slot : Slot) :
    (Happening.call before (.getNode name) (some (.ok node))).shown? slot =
      if slot = .node name then some (.node node) else none := rfl

theorem shown?_updateMachine (before : MemoryStore) (machine updated : Machine) (slot : Slot) :
    (Happening.call before (.updateMachine machine) (some (.ok updated))).shown? slot =
      if slot = .machine updated.place then some (.machine updated) else none := rfl

theorem shown?_updateNode (before : MemoryStore) (node updated : Node) (slot : Slot) :
    (Happening.call before (.updateNode node) (some (.ok updated))).shown? slot =
      if updated.metadata.name.map .node = some slot then some (.node updated) else none := rfl

variable {slot : Slot} {journal older : List Happening} {before : MemoryStore} {request : Request}
  {copy : Item}

/-- The turn of the others does not change which copies the program had last. -/
theorem lastCopy?_ready (state : Contested) (slot : Slot) :
    lastCopy? slot state.ready.journal = lastCopy? slot state.journal :=
  Contested.ready_preserves
    (fun after => lastCopy? slot after.journal = lastCopy? slot state.journal) (fun _ => rfl)
    (fun _ _ same => same)

/-- A call without success shows nothing. -/
theorem shown?_of_failed {reply : Option request.Reply}
    (failed : ∀ answer, reply ≠ some (.ok answer)) :
    (Happening.call before request reply).shown? slot = none := by
  rcases reply with _ | error | answer
  · cases request <;> rfl
  · cases request <;> rfl
  · exact absurd rfl (failed answer)

/-- Only an object that the program has a copy of is changed since. -/
theorem HitSince.isSome_lastCopy? (hit : HitSince slot journal) :
    (lastCopy? slot journal).isSome = true := by
  induction journal with
  | nil => exact hit.elim
  | cons happening older ih =>
      cases happening with
      | event before event =>
          rcases hit with earlier | ⟨copied, -⟩
          · exact ih earlier
          · exact copied
      | call before request reply =>
          rw [lastCopy?, hit.1]
          exact ih hit.2

end Journal

/-- What a call shows is stored after it. -/
theorem MemoryStore.item?_of_shown {store : MemoryStore} {request : Request} {slot : Slot}
    {copy : Item} {answer : request.Answer} (versioned : store.Versioned)
    (succeeds : (store.serve request).1 = .ok answer)
    (shows : (Happening.call store request (some (.ok answer))).shown? slot = some copy) :
    (store.serve request).2.item? slot = some copy := by
  have served := store.served request
  generalize store.serve request = result at served succeeds ⊢
  cases served with
  | readMachineSet found =>
      cases succeeds
      obtain ⟨rfl, same⟩ := Option.ite_none_right_eq_some.mp shows
      cases same
      exact congrArg (Option.map Item.machineSet) found
  | listMachineSets => cases shows
  | listMachines ns =>
      cases succeeds
      obtain ⟨machine, first, rfl⟩ := Option.map_eq_some_iff.mp shows
      have own : slot = .machine machine.place := by simpa using List.find?_some first
      obtain ⟨key, found, -⟩ := mem_inNamespace (List.mem_of_find?_eq_some first)
      rw [own, versioned.machines key machine found]
      exact congrArg (Option.map Item.machine) found
  | readNode found =>
      cases succeeds
      obtain ⟨rfl, same⟩ := Option.ite_none_right_eq_some.mp shows
      cases same
      exact congrArg (Option.map Item.node) found
  | updateMachine =>
      cases succeeds
      obtain ⟨rfl, same⟩ := Option.ite_none_right_eq_some.mp shows
      cases same
      exact congrArg (Option.map Item.machine) (SortedMap.get?_insert_self _ _ _)
  | updateNode named =>
      cases succeeds
      obtain ⟨own, same⟩ := Option.ite_none_right_eq_some.mp shows
      cases same
      obtain ⟨name, named', rfl⟩ := Option.map_eq_some_iff.mp own
      cases named.symm.trans named'
      exact congrArg (Option.map Item.node) (SortedMap.get?_insert_self _ _ _)
  | refused => cases succeeds

/-! ## Copies stay known -/

/-- Every copy that the program had last is known by its stamp. Machines and nodes that it has seen
are still there, but in the place of an object that was changed since there is another one. -/
structure Watched (state : Contested) : Prop where
  versioned : state.store.Versioned
  stamped : state.store.Stamped
  known : ∀ slot copy, lastCopy? slot state.journal = some copy → state.store.Known slot copy
  present : ∀ slot, (∀ key, slot ≠ .machineSet key) →
    (lastCopy? slot state.journal).isSome = true → (state.store.item? slot).isSome = true
  changed : ∀ slot copy, lastCopy? slot state.journal = some copy →
    HitSince slot state.journal → state.store.item? slot ≠ some copy

namespace Watched

variable {state : Contested}

/-- At the start of a program. -/
theorem fresh {store : MemoryStore} (versioned : store.Versioned) (stamped : store.Stamped)
    (fates : List Fate) (turns : List (List Event)) :
    Watched ⟨⟨store, fates, false, []⟩, turns, []⟩ where
  versioned := versioned
  stamped := stamped
  known _ _ copied := nomatch copied
  present _ _ copied := nomatch copied
  changed _ _ copied := nomatch copied

theorem start {store : MemoryStore} (reachable : store.Reachable) (fates : List Fate)
    (turns : List (List Event)) : Watched ⟨⟨store, fates, false, []⟩, turns, []⟩ :=
  fresh (MemoryStore.versioned_of_reachable reachable)
    (MemoryStore.stamped_of_reachable reachable) fates turns

/-- The store and the journal are all that matters. -/
theorem of_eq {other : Contested} (watched : Watched state) (store : other.store = state.store)
    (journal : other.journal = state.journal) : Watched other := by
  obtain ⟨versioned, stamped, known, present, changed⟩ := watched
  rw [← store] at versioned stamped
  rw [← store, ← journal] at known present changed
  exact ⟨versioned, stamped, known, present, changed⟩

/-- An event. -/
theorem befall (watched : Watched state) (event : Event) : Watched (state.befall event) := by
  have evolves := MemoryStore.evolves_apply state.store event
  refine ⟨watched.versioned.apply event, evolves.stamped watched.stamped, ?_, ?_, ?_⟩
  · exact fun slot copy copied => evolves.known (watched.known slot copy copied)
  · exact fun slot lasting copied => evolves.isSome lasting (watched.present slot lasting copied)
  · intro slot copy copied hit
    have known := watched.known slot copy copied
    rcases hit with earlier | ⟨-, now⟩
    · exact evolves.item_ne known (watched.changed slot copy copied earlier)
    · exact evolves.item_ne_of_hit known now

/-- The turn of the others. -/
theorem ready (watched : Watched state) : Watched state.ready :=
  Contested.ready_preserves Watched (fun _ => watched.of_eq rfl rfl)
    (fun _ event watched => watched.befall event)

/-- A call, if what it shows is stored after it. -/
theorem of_call (watched : Watched state) {request : Request} {reply : Option request.Reply}
    {after : Contested} (journal : after.journal = .call state.store request reply :: state.journal)
    (versioned : after.store.Versioned) (step : MemoryStore.Changed state.store after.store)
    (shows : ∀ slot copy, (Happening.call state.store request reply).shown? slot = some copy →
      after.store.item? slot = some copy) : Watched after := by
  have stamped := step.stamped watched.stamped
  refine ⟨versioned, stamped, ?_, ?_, ?_⟩
  · intro slot copy copied
    rw [journal, lastCopy?] at copied
    cases shown : (Happening.call state.store request reply).shown? slot with
    | some item =>
        rw [shown] at copied
        cases copied
        exact stamped slot copy (shows slot copy shown)
    | none =>
        rw [shown] at copied
        exact step.known (watched.known slot copy copied)
  · intro slot lasting copied
    rw [journal, lastCopy?] at copied
    cases shown : (Happening.call state.store request reply).shown? slot with
    | some item =>
        rw [shows slot item shown]
        rfl
    | none =>
        rw [shown] at copied
        exact step.isSome lasting (watched.present slot lasting copied)
  · intro slot copy copied hit
    rw [journal] at copied hit
    obtain ⟨unshown, hit⟩ := hit
    rw [lastCopy?, unshown] at copied
    have evolves : MemoryStore.Evolves state.store after.store := .single step
    exact evolves.item_ne (watched.known slot copy copied) (watched.changed slot copy copied hit)

/-- A call without success. It may have been carried out. -/
theorem of_failed (watched : Watched state) {request : Request} {reply : Option request.Reply}
    {base : Disturbed} (failed : ∀ answer, reply ≠ some (.ok answer))
    (left : Disturbed.Left request state.base base) :
    Watched { state with
      base := base
      journal := .call state.store request reply :: state.journal } := by
  have unshown : ∀ slot copy,
      (Happening.call state.store request reply).shown? slot = some copy →
        base.store.item? slot = some copy := by
    intro slot copy shown
    rw [shown?_of_failed failed] at shown
    cases shown
  rcases left with left | ⟨pending, left⟩
  · apply watched.of_call rfl
    · rw [Contested.store, left]
      exact watched.versioned.serve request
    · change state.store.Changed base.store
      rw [left]
      exact MemoryStore.changed_serve state.store request
    · exact unshown
  · apply watched.of_call rfl
    · rw [Contested.store, left]
      exact watched.versioned.of_nodes_eq rfl (Nat.le_refl _) watched.versioned.machines
    · change state.store.Changed base.store
      rw [left]
      exact MemoryStore.changed_withFailures state.store pending
    · exact unshown

/-- A call that the store answers. -/
theorem of_served (watched : Watched state) {request : Request} {base : Disturbed}
    (left : base.store = (state.store.serve request).2) :
    Watched { state with
      base := base
      journal := .call state.store request (some (state.store.serve request).1) ::
        state.journal } := by
  cases succeeds : (state.store.serve request).1 with
  | error error => exact watched.of_failed (fun _ impossible => nomatch impossible) (.inl left)
  | ok answer =>
      apply watched.of_call rfl
      · rw [Contested.store, left]
        exact watched.versioned.serve request
      · change state.store.Changed base.store
        rw [left]
        exact MemoryStore.changed_serve state.store request
      · intro slot copy shown
        rw [Contested.store, left]
        exact MemoryStore.item?_of_shown watched.versioned succeeds shown

/-- A call that meets the store. -/
theorem meet (watched : Watched state) (request : Request) :
    Watched (Contested.meet request state).2 := by
  rcases Disturbed.answer_cases request state.base with answered | ⟨-, failure | silence⟩
  · obtain ⟨base, replied, left, -⟩ := answered
    rw [Contested.meet_eq replied]
    exact watched.of_served left
  · obtain ⟨error, base, replied, left⟩ := failure
    rw [Contested.meet_eq replied]
    exact watched.of_failed (fun _ impossible => nomatch impossible) left
  · obtain ⟨base, replied, left⟩ := silence
    rw [Contested.meet_eq replied]
    exact watched.of_failed (fun _ impossible => nomatch impossible) left

/-- A call, after the turn of the others. -/
theorem answer (watched : Watched state) (request : Request) :
    Watched (Contested.answer request state).2 :=
  watched.ready.meet request

end Watched

end NodeSync
