/-
Module: NodeSync.Backoff
Purpose: The delays after repeated failures. They follow the Fibonacci numbers from a minimum and
  stay at a maximum once they reach it; sums beyond 64 bits count as the largest 64-bit number.
Main exports: Backoff, Backoff.start, Backoff.next, Backoff.reset
-/
namespace NodeSync

set_option autoImplicit false

/-- A sum of 64-bit numbers that stays at the largest one where it would not fit. -/
def addSaturating (first second : UInt64) : UInt64 :=
  if first.toNat + second.toNat < UInt64.size then first + second else .ofNat (UInt64.size - 1)

/-- The state of a sequence of delays, all in seconds. -/
structure Backoff where
  minimum : UInt64
  previous : UInt64
  current : UInt64
  maximum : UInt64
deriving Repr, Inhabited, DecidableEq

namespace Backoff

/-- Before the first delay. -/
def start (minimum maximum : UInt64) : Backoff :=
  ⟨minimum, 0, min minimum maximum, maximum⟩

/-- The delay that is due, and the state after it. -/
def next (backoff : Backoff) : UInt64 × Backoff :=
  (backoff.current,
    { backoff with
      previous := backoff.current
      current := min (addSaturating backoff.previous backoff.current) backoff.maximum })

/-- Back to the first delay. -/
def reset (backoff : Backoff) : Backoff := start backoff.minimum backoff.maximum

end Backoff

end NodeSync
