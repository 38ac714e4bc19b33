/-
Module: NodeSync.Proofs.Backoff
Purpose: The delays after failures in a row, in closed form. Delay number n since the start or the
  last reset is the minimum times the n-th Fibonacci number, or the maximum where that is less. The
  state keeps capped numbers and adds them up to the largest 64-bit number only, but neither shows:
  a sum of capped numbers that is capped again is the capped sum.
Main exports: toNat_addSaturating, fibonacciDelay, Backoff.delayAfter, Backoff.Reached,
  Backoff.Call, Backoff.answers, Backoff.sinceReset, Backoff.reached_afterCalls,
  Backoff.delays_follow_fibonacci
-/
import Mathlib.Data.List.Induction
import Mathlib.Data.Nat.Fib.Basic
import NodeSync.Backoff

namespace NodeSync

set_option autoImplicit false

theorem toNat_addSaturating (first second : UInt64) :
    (addSaturating first second).toNat = min (UInt64.size - 1) (first.toNat + second.toNat) := by
  rw [addSaturating]
  split
  · rename_i fits
    rw [UInt64.toNat_add, Nat.mod_eq_of_lt fits, Nat.min_eq_right (Nat.le_sub_one_of_lt fits)]
  · rename_i exceeds
    rw [Nat.min_eq_left (by omega)]
    rfl

/-! ## Capped multiples -/

/-- The delay of a number, the first one being number 1: a Fibonacci multiple of the minimum that is
capped at the maximum. The product is one of unbounded numbers. -/
def fibonacciDelay (minimum maximum : UInt64) (number : Nat) : Nat :=
  min maximum.toNat (minimum.toNat * Nat.fib number)

section Multiples

variable {minimum maximum : UInt64}

theorem fibonacciDelay_le_maximum (number : Nat) :
    fibonacciDelay minimum maximum number ≤ maximum.toNat :=
  Nat.min_le_left _ _

theorem fibonacciDelay_mono {number number' : Nat} (le : number ≤ number') :
    fibonacciDelay minimum maximum number ≤ fibonacciDelay minimum maximum number' := by
  have multiples : minimum.toNat * Nat.fib number ≤ minimum.toNat * Nat.fib number' :=
    Nat.mul_le_mul_left _ (Nat.fib_mono le)
  exact Nat.le_min.mpr ⟨Nat.min_le_left _ _, Nat.le_trans (Nat.min_le_right _ _) multiples⟩

/-- The capped sum of two delays in a row is the delay after them, whether or not one of them was
capped before. -/
theorem fibonacciDelay_add_two (number : Nat) :
    fibonacciDelay minimum maximum (number + 2) =
      min maximum.toNat
        (fibonacciDelay minimum maximum number + fibonacciDelay minimum maximum (number + 1)) := by
  rw [fibonacciDelay, fibonacciDelay, fibonacciDelay, Nat.fib_add_two, Nat.mul_add]
  omega

end Multiples

namespace Backoff

/-! ## Delays one after the other -/

/-- The state after a number of delays. -/
def after (backoff : Backoff) : Nat → Backoff
  | 0 => backoff
  | count + 1 => (backoff.after count).next.2

/-- The delay that comes after a number of others. -/
def delayAfter (backoff : Backoff) (count : Nat) : UInt64 := (backoff.after count).next.1

/-- The bounds stay, so that starting over always leads to the same first delay. -/
theorem reset_after (minimum maximum : UInt64) (count : Nat) :
    ((start minimum maximum).after count).reset = start minimum maximum := by
  have bounds : ((start minimum maximum).after count).minimum = minimum ∧
      ((start minimum maximum).after count).maximum = maximum := by
    induction count with
    | zero => exact ⟨rfl, rfl⟩
    | succ count ih => simpa [after, next] using ih
  rw [reset, bounds.1, bounds.2]

/-- A number of delays has been given since a start with the given bounds. What is kept are the
delay that was given last and the one that is due; before the first delay the former is 0. -/
structure Reached (minimum maximum : UInt64) (count : Nat) (backoff : Backoff) : Prop where
  minimum_eq : backoff.minimum = minimum
  maximum_eq : backoff.maximum = maximum
  previous : backoff.previous.toNat = fibonacciDelay minimum maximum count
  current : backoff.current.toNat = fibonacciDelay minimum maximum (count + 1)

namespace Reached

variable {minimum maximum : UInt64} {count : Nat} {backoff : Backoff}

theorem start (minimum maximum : UInt64) : Reached minimum maximum 0 (start minimum maximum) where
  minimum_eq := rfl
  maximum_eq := rfl
  previous := by simp [Backoff.start, fibonacciDelay]
  current := by
    rw [Backoff.start, UInt64.toNat_min, Nat.min_comm, fibonacciDelay, Nat.fib_one, Nat.mul_one]

/-- The saturation of the sum is hidden by the cap, since the maximum is a 64-bit number. -/
theorem next (reached : Reached minimum maximum count backoff) :
    Reached minimum maximum (count + 1) backoff.next.2 where
  minimum_eq := reached.minimum_eq
  maximum_eq := reached.maximum_eq
  previous := reached.current
  current := by
    have bounded : maximum.toNat ≤ UInt64.size - 1 := Nat.le_sub_one_of_lt maximum.toNat_lt_size
    change (min (addSaturating backoff.previous backoff.current) backoff.maximum).toNat = _
    rw [UInt64.toNat_min, toNat_addSaturating, reached.previous, reached.current,
      reached.maximum_eq, fibonacciDelay_add_two]
    omega

theorem reset (reached : Reached minimum maximum count backoff) :
    Reached minimum maximum 0 backoff.reset := by
  rw [Backoff.reset, reached.minimum_eq, reached.maximum_eq]
  exact Reached.start minimum maximum

/-- The delay that is due. -/
theorem toNat_next (reached : Reached minimum maximum count backoff) :
    backoff.next.1.toNat = fibonacciDelay minimum maximum (count + 1) :=
  reached.current

end Reached

/-! ## Sequences of calls -/

/-- A call: a delay is asked for, as a number of seconds or as a duration of so many seconds, or the
sequence is started over. -/
inductive Call where
  | seconds
  | duration
  | reset
deriving Repr, Inhabited, DecidableEq

/-- What a call returns, delays in seconds, and the state after it. -/
def Call.perform (backoff : Backoff) : Call → Option UInt64 × Backoff
  | .seconds | .duration => (some backoff.next.1, backoff.next.2)
  | .reset => (none, backoff.reset)

/-- What calls return one after the other. -/
def answers (backoff : Backoff) : List Call → List (Option UInt64)
  | [] => []
  | call :: rest => (call.perform backoff).1 :: (call.perform backoff).2.answers rest

/-- The state after calls. -/
def afterCalls (backoff : Backoff) (calls : List Call) : Backoff :=
  calls.foldl (fun backoff call => (call.perform backoff).2) backoff

/-- How many delays were asked for since the last reset, or since the beginning if there is none. -/
def sinceReset (calls : List Call) : Nat := (calls.reverse.takeWhile (· ≠ .reset)).length

section Calls

variable {minimum maximum : UInt64} {backoff : Backoff} {calls more : List Call} {call : Call}

/-- A call returns what it returns in the state that the calls before it have left. -/
theorem getElem?_answers (backoff : Backoff) (calls : List Call) (index : Nat) :
    (backoff.answers calls)[index]? =
      calls[index]?.map fun call => (call.perform (backoff.afterCalls (calls.take index))).1 := by
  induction calls generalizing backoff index with
  | nil => rfl
  | cons call rest ih =>
      cases index with
      | zero => rfl
      | succ index => exact ih (call.perform backoff).2 index

theorem sinceReset_append_reset : sinceReset (calls ++ [.reset]) = 0 := by
  simp [sinceReset]

/-- Calls other than resets ask for one delay each. -/
theorem sinceReset_append (delays : .reset ∉ more) :
    sinceReset (calls ++ more) = sinceReset calls + more.length := by
  have none : ∀ call ∈ more.reverse, decide (call ≠ .reset) = true := by
    intro call member
    rw [List.mem_reverse] at member
    exact decide_eq_true fun same => delays (same ▸ member)
  rw [sinceReset, List.reverse_append, List.takeWhile_append_of_pos none, List.length_append,
    List.length_reverse, Nat.add_comm, sinceReset]

/-- A call that asks for a delay is answered by the one that is due. -/
theorem perform_of_ne (delay : call ≠ .reset) :
    call.perform backoff = (some backoff.next.1, backoff.next.2) := by
  cases call with
  | seconds => rfl
  | duration => rfl
  | reset => exact absurd rfl delay

/-- By induction on the calls, the last one first: the state counts the delays since the last
reset. -/
theorem reached_afterCalls (minimum maximum : UInt64) (calls : List Call) :
    Reached minimum maximum (sinceReset calls) ((start minimum maximum).afterCalls calls) := by
  induction calls using List.reverseRecOn with
  | nil => exact Reached.start minimum maximum
  | append_singleton calls call ih =>
      rw [afterCalls, List.foldl_concat]
      by_cases again : call = .reset
      · subst again
        rw [sinceReset_append_reset]
        exact ih.reset
      · rw [perform_of_ne again, sinceReset_append (by simpa using Ne.symm again)]
        exact ih.next

/-- The answer to a call that asks for a delay. Its number counts the delay itself. -/
theorem exists_delay (minimum maximum : UInt64) {index : Nat} (made : calls[index]? = some call)
    (delay : call ≠ .reset) :
    ∃ seconds, ((start minimum maximum).answers calls)[index]? = some (some seconds) ∧
      seconds.toNat =
        fibonacciDelay minimum maximum (sinceReset (calls.take (index + 1))) := by
  have state := reached_afterCalls minimum maximum (calls.take index)
  refine ⟨((start minimum maximum).afterCalls (calls.take index)).next.1, ?_, ?_⟩
  · rw [getElem?_answers, made, Option.map_some, perform_of_ne delay]
  · rw [List.take_add_one, made, Option.toList_some,
      sinceReset_append (by simpa using Ne.symm delay)]
    exact state.toNat_next

/-- Conversely, only a call that asks for a delay is answered by one. -/
theorem exists_of_answer {index : Nat} {seconds : UInt64}
    (answered : (backoff.answers calls)[index]? = some (some seconds)) :
    ∃ call, calls[index]? = some call ∧ call ≠ .reset := by
  rw [getElem?_answers] at answered
  obtain ⟨call, made, returned⟩ := Option.map_eq_some_iff.mp answered
  refine ⟨call, made, ?_⟩
  rintro rfl
  cases returned

/-- Without a reset in between, the number of delays only grows. -/
theorem sinceReset_take_le {earlier later : Nat} (order : earlier ≤ later)
    (between : ∀ index, earlier < index → index ≤ later → calls[index]? ≠ some .reset) :
    sinceReset (calls.take (earlier + 1)) ≤ sinceReset (calls.take (later + 1)) := by
  have split : calls.take (later + 1) =
      calls.take (earlier + 1) ++ (calls.take (later + 1)).drop (earlier + 1) := by
    have shorter : calls.take (earlier + 1) = (calls.take (later + 1)).take (earlier + 1) := by
      rw [List.take_take, Nat.min_eq_left (Nat.succ_le_succ order)]
    rw [shorter, List.take_append_drop]
  have delays : Call.reset ∉ (calls.take (later + 1)).drop (earlier + 1) := by
    intro member
    obtain ⟨offset, found⟩ := List.mem_iff_getElem?.mp member
    rw [List.getElem?_drop, List.getElem?_take] at found
    split at found
    · exact between (earlier + 1 + offset) (by omega) (by omega) found
    · cases found
  rw [split, sinceReset_append delays]
  exact Nat.le_add_right _ _

end Calls

/-- Whatever the bounds and the calls, delay number n since the start or the last reset is the
smaller one of the maximum and the minimum times the n-th Fibonacci number. So delays never exceed
the maximum, and they never decrease unless a reset comes between them. -/
theorem delays_follow_fibonacci (minimum maximum : UInt64) (calls : List Call) :
    (∀ (index : Nat) (call : Call), calls[index]? = some call → call ≠ .reset →
      ∃ delay, ((start minimum maximum).answers calls)[index]? = some (some delay) ∧
        delay.toNat = min maximum.toNat
          (minimum.toNat * Nat.fib (sinceReset (calls.take (index + 1)))) ∧
        delay ≤ maximum) ∧
    ∀ (earlier later : Nat) (delay delay' : UInt64), earlier ≤ later →
      (∀ index, earlier < index → index ≤ later → calls[index]? ≠ some .reset) →
      ((start minimum maximum).answers calls)[earlier]? = some (some delay) →
      ((start minimum maximum).answers calls)[later]? = some (some delay') →
      delay ≤ delay' := by
  constructor
  · intro index call made asks
    obtain ⟨delay, answered, value⟩ := exists_delay minimum maximum made asks
    refine ⟨delay, answered, value, UInt64.le_iff_toNat_le.mpr ?_⟩
    rw [value]
    exact fibonacciDelay_le_maximum _
  · intro earlier later delay delay' order between first second
    have value : ∀ index delay,
        ((start minimum maximum).answers calls)[index]? = some (some delay) →
        delay.toNat =
          fibonacciDelay minimum maximum (sinceReset (calls.take (index + 1))) := by
      intro index delay answered
      obtain ⟨call, made, asks⟩ := exists_of_answer answered
      obtain ⟨delay', answered', value⟩ := exists_delay minimum maximum made asks
      rw [answered] at answered'
      cases answered'
      exact value
    rw [UInt64.le_iff_toNat_le, value earlier delay first, value later delay' second]
    exact fibonacciDelay_mono (sinceReset_take_le order between)

/-- The third delay would be one too large for 64 bits; a reset before the first one leaves no
trace. -/
theorem delays_follow_fibonacci_nearLimit : ∃ delay delay' : UInt64,
    ((start 0x8000000000000000 0xffffffffffffffff).answers
      [.duration, .reset, .seconds, .duration, .seconds])[3]? = some (some delay) ∧
    ((start 0x8000000000000000 0xffffffffffffffff).answers
      [.duration, .reset, .seconds, .duration, .seconds])[4]? = some (some delay') ∧
    delay.toNat = 2 ^ 63 ∧ delay'.toNat = 2 ^ 64 - 1 ∧ delay ≤ delay' := by
  obtain ⟨numbers, grow⟩ := delays_follow_fibonacci 0x8000000000000000 0xffffffffffffffff
    [.duration, .reset, .seconds, .duration, .seconds]
  obtain ⟨delay, first, value, -⟩ := numbers 3 .duration rfl (by decide)
  obtain ⟨delay', second, value', -⟩ := numbers 4 .seconds rfl (by decide)
  have between : ∀ index, 3 < index → index ≤ 4 →
      [Call.duration, .reset, .seconds, .duration, .seconds][index]? ≠ some .reset := by
    intro index after before
    obtain rfl : index = 4 := Nat.le_antisymm before after
    decide
  exact ⟨delay, delay', first, second, value.trans (by decide), value'.trans (by decide),
    grow 3 4 delay delay' (by decide) between first second⟩

example : (start 5 30).answers (List.replicate 7 .seconds) =
    [5, 5, 10, 15, 25, 30, 30].map some := by decide

end Backoff

end NodeSync
