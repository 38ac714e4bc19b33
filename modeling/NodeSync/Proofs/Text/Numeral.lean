/-
Module: NodeSync.Proofs.Text.Numeral
Purpose: Digits and the numbers that they denote. The text of a number denotes that number, and a
  numeral under a bound is read as the number that it denotes. Where it cannot be read its leading
  digits decide: if they take the number past the bound it is too large, whatever follows them.
Main exports: digitsValue_eq_ofDigitChars, digitsValue_toDigits, decimal_injective, Denotes,
  unsignedPart, NumeralFault, readNumeral_eq_ok_iff, readNumeral_eq_error_iff
-/
import Mathlib.Algebra.Group.Nat.Defs
import Mathlib.Data.List.TakeWhile
import NodeSync.Text.Numeral

namespace NodeSync.Text

set_option autoImplicit false

/-! ## Digits -/

theorem isDigit_eq (c : Char) : isDigit c = c.isDigit := by
  rw [Bool.eq_iff_iff, isDigit, digitValue?, Char.isDigit]
  split <;> simp_all [Char.le_def, UInt32.le_iff_toNat_le]

/-- Digits have the value that they have in the standard library. -/
theorem digitsValue_eq_ofDigitChars {digits : List Char}
    (all : ∀ c ∈ digits, isDigit c = true) (start : Nat) :
    digitsValue start digits = Nat.ofDigitChars 10 digits start := by
  induction digits generalizing start with
  | nil => rfl
  | cons c rest ih =>
      obtain ⟨first, others⟩ := List.forall_mem_cons.mp all
      obtain ⟨digit, value⟩ := Option.isSome_iff_exists.mp first
      have isDigit : digit = c.toNat - '0'.toNat := by
        rw [digitValue?] at value
        split at value
        · exact (Option.some.inj value).symm
        · cases value
      have next := ih others (start * 10 + digit)
      rw [digitsValue] at next ⊢
      rw [List.foldl_cons, value, Option.getD_some, next, Nat.ofDigitChars_cons, isDigit,
        Nat.mul_comm]

theorem isDigit_of_mem_zeroPadded {width n : Nat} {c : Char}
    (inside : c ∈ zeroPadded width (Nat.toDigits 10 n)) : isDigit c = true := by
  rcases List.mem_append.mp inside with zero | digit
  · rw [List.eq_of_mem_replicate zero]
    rfl
  · rw [isDigit_eq]
    exact Nat.isDigit_of_mem_toDigits (by decide) (by decide) digit

/-- Zeros in front of a number do not change it. -/
theorem digitsValue_zeroPadded (width n : Nat) :
    digitsValue 0 (zeroPadded width (Nat.toDigits 10 n)) = n := by
  rw [digitsValue_eq_ofDigitChars fun _ inside => isDigit_of_mem_zeroPadded inside, zeroPadded,
    Nat.ofDigitChars_append, Nat.ofDigitChars_replicate_zero, Nat.mul_zero,
    Nat.ofDigitChars_ten_toDigits]

/-- A number is padded to the width exactly, if it fits in. -/
theorem length_zeroPadded (width : Nat) {n : Nat} (fits : n < 10 ^ width) (filled : 0 < width) :
    (zeroPadded width (Nat.toDigits 10 n)).length = width := by
  have short := (Nat.length_toDigits_le_iff (by decide) filled).mpr fits
  simp [zeroPadded]
  omega

theorem zeroPadded_ne_nil (width n : Nat) : zeroPadded width (Nat.toDigits 10 n) ≠ [] := by
  simp [zeroPadded, Nat.toDigits_ne_nil]

theorem digitValue?_lt {c : Char} {digit : Nat} (value : digitValue? c = some digit) :
    digit < 10 := by
  rw [digitValue?] at value
  split at value
  · rename_i within
    have high : c.toNat ≤ '9'.toNat := within.2
    cases value
    simp at high ⊢
    omega
  · cases value

/-- So many digits denote so large a number at most. -/
theorem digitsValue_lt (start : Nat) (digits : List Char) :
    digitsValue start digits < (start + 1) * 10 ^ digits.length := by
  induction digits generalizing start with
  | nil => simp [digitsValue]
  | cons c rest ih =>
      have small : (digitValue? c).getD 0 < 10 := by
        cases value : digitValue? c with
        | none => decide
        | some digit => exact digitValue?_lt value
      calc digitsValue start (c :: rest)
          < (start * 10 + (digitValue? c).getD 0 + 1) * 10 ^ rest.length := ih _
        _ ≤ ((start + 1) * 10) * 10 ^ rest.length := Nat.mul_le_mul_right _ (by omega)
        _ = (start + 1) * 10 ^ (c :: rest).length := by
            rw [List.length_cons, Nat.pow_succ', Nat.mul_assoc]

theorem isDigit_of_mem_toDigits {n : Nat} {c : Char} (inside : c ∈ Nat.toDigits 10 n) :
    isDigit c = true := by
  rw [isDigit_eq]
  exact Nat.isDigit_of_mem_toDigits (by decide) (by decide) inside

/-- The digits of a number denote it. -/
theorem digitsValue_toDigits (n : Nat) : digitsValue 0 (Nat.toDigits 10 n) = n := by
  rw [digitsValue_eq_ofDigitChars fun _ => isDigit_of_mem_toDigits, Nat.ofDigitChars_ten_toDigits]

/-- A number of several digits does not start with a zero. -/
theorem head?_toDigits {n : Nat} (several : 10 ≤ n) : (Nat.toDigits 10 n).head? ≠ some '0' := by
  induction n using Nat.strongRecOn with
  | ind n ih =>
      rw [Nat.toDigits_eq_if (by decide), if_neg (by omega),
        List.head?_append, Option.or_of_isSome (by simp [Nat.toDigits_ne_nil])]
      by_cases small : n / 10 < 10
      · rw [Nat.toDigits_of_lt_base small]
        intro zero
        have values : ∀ digit < 10, digit ≠ 0 → Nat.digitChar digit ≠ '0' := by decide
        exact values _ small (by omega) (Option.some.inj zero)
      · exact ih (n / 10) (by omega) (by omega)

/-- Further digits make a number no smaller. -/
theorem le_digitsValue (start : Nat) (digits : List Char) : start ≤ digitsValue start digits := by
  induction digits generalizing start with
  | nil => exact Nat.le_refl start
  | cons c rest ih => exact Nat.le_trans (by omega) (ih (start * 10 + (digitValue? c).getD 0))

/-- Numbers with the same decimal text are the same. -/
theorem decimal_injective {number number' : Nat}
    (same : decimal number = decimal number') : number = number' := by
  have digits : Nat.toDigits 10 number = Nat.toDigits 10 number' := String.ofList_injective same
  rw [← Nat.ofDigitChars_ten_toDigits (n := number), digits, Nat.ofDigitChars_ten_toDigits]

/-! ## Reading under a bound -/

/-- The number that a numeral denotes: an optional `+`, then at least one digit and digits only. -/
inductive Denotes : List Char → Nat → Prop where
  | plain {digits : List Char} (filled : digits ≠ []) (all : ∀ c ∈ digits, c.isDigit = true) :
      Denotes digits (Nat.ofDigitChars 10 digits 0)
  | signed {digits : List Char} (filled : digits ≠ []) (all : ∀ c ∈ digits, c.isDigit = true) :
      Denotes ('+' :: digits) (Nat.ofDigitChars 10 digits 0)

/-- What follows the optional `+`. -/
def unsignedPart : List Char → List Char
  | '+' :: digits => digits
  | digits => digits

/-- The number that the leading digits of a text denote. -/
def leadingNumber (text : List Char) : Nat :=
  Nat.ofDigitChars 10 (text.takeWhile Char.isDigit) 0

/-- Why a text is no numeral under a bound. That its leading digits exceed the bound comes before
what is wrong with the characters after them. -/
inductive NumeralFault (bound : Nat) : List Char → NumeralError → Prop where
  | empty : NumeralFault bound [] .empty
  | tooLarge {text : List Char} (exceeds : bound < leadingNumber (unsignedPart text)) :
      NumeralFault bound text .tooLarge
  | invalidDigit {text : List Char} (filled : text ≠ [])
      (fits : leadingNumber (unsignedPart text) ≤ bound)
      (other : unsignedPart text = [] ∨ ∃ c ∈ unsignedPart text, c.isDigit = false) :
      NumeralFault bound text .invalidDigit

section Reading

variable {bound start value : Nat} {text digits : List Char} {error : NumeralError}

theorem isDigit_eq_isDigit : isDigit = Char.isDigit := funext isDigit_eq

/-- The digits in front are read first. The number read so far only grows, so that it is enough to
compare the whole of it with the bound. -/
theorem readDigits_eq (small : start ≤ bound) : readDigits bound start digits =
    if bound < digitsValue start (digits.takeWhile isDigit) then .error .tooLarge
    else if digits.all isDigit = true then .ok (digitsValue start digits)
    else .error .invalidDigit := by
  induction digits generalizing start with
  | nil => simp [readDigits, digitsValue, small]
  | cons c rest ih =>
      rw [readDigits]
      cases read : digitValue? c with
      | none =>
          have other : isDigit c = false := by simp [isDigit, read]
          simp [other, digitsValue, small]
      | some digit =>
          have decimal : isDigit c = true := by simp [isDigit, read]
          have next (tail : List Char) : digitsValue start (c :: tail) =
              digitsValue (start * 10 + digit) tail := by
            simp [digitsValue, read]
          rw [List.takeWhile_cons_of_pos decimal, next, next, List.all_cons, decimal,
            Bool.true_and]
          dsimp only
          split
          · rename_i fits
            exact ih fits
          · rename_i exceeds
            have more := le_digitsValue (start * 10 + digit) (rest.takeWhile isDigit)
            rw [if_pos (by omega)]

theorem unsignedPart_of_ne {c : Char} (other : c ≠ '+') (rest : List Char) :
    unsignedPart (c :: rest) = c :: rest := by
  rw [unsignedPart]
  rintro digits ⟨⟩
  exact other rfl

theorem unsignedPart_of_digits (all : ∀ c ∈ digits, c.isDigit = true) :
    unsignedPart digits = digits := by
  cases digits with
  | nil => rfl
  | cons c rest =>
      apply unsignedPart_of_ne
      rintro rfl
      cases all '+' List.mem_cons_self

/-- A text denotes a number if digits are left of it without the sign. -/
theorem denotes_iff : Denotes text value ↔
    unsignedPart text ≠ [] ∧ (∀ c ∈ unsignedPart text, c.isDigit = true) ∧
      Nat.ofDigitChars 10 (unsignedPart text) 0 = value := by
  constructor
  · intro denotes
    cases denotes with
    | plain filled all => rw [unsignedPart_of_digits all]; exact ⟨filled, all, rfl⟩
    | signed filled all => exact ⟨filled, all, rfl⟩
  · rintro ⟨filled, all, rfl⟩
    cases text with
    | nil => exact absurd rfl filled
    | cons c rest =>
        by_cases sign : c = '+'
        · subst sign
          exact .signed filled all
        · rw [unsignedPart_of_ne sign] at filled all ⊢
          exact .plain filled all

theorem digitsValue_takeWhile (digits : List Char) :
    digitsValue 0 (digits.takeWhile isDigit) = leadingNumber digits := by
  rw [digitsValue_eq_ofDigitChars fun _ inside => List.mem_takeWhile_imp inside,
    isDigit_eq_isDigit, leadingNumber]

/-- Where only digits follow, they are all leading ones. -/
theorem leadingNumber_of_digits (all : ∀ c ∈ digits, c.isDigit = true) :
    leadingNumber digits = Nat.ofDigitChars 10 digits 0 := by
  rw [leadingNumber, List.takeWhile_eq_self_iff.mpr all]

/-- A text with characters is read without its sign; a sign alone is no digit. -/
theorem readNumeral_of_filled (filled : text ≠ []) : readNumeral bound text =
    if unsignedPart text = [] then .error .invalidDigit
    else readDigits bound 0 (unsignedPart text) := by
  cases text with
  | nil => exact absurd rfl filled
  | cons c rest =>
      by_cases sign : c = '+'
      · subst sign
        cases rest with
        | nil => rfl
        | cons d rest => rfl
      · rw [unsignedPart_of_ne sign, if_neg (List.cons_ne_nil c rest), readNumeral]
        · exact List.cons_ne_nil c rest
        · exact fun same => sign (List.cons.inj same).1
        · exact fun _ same => sign (List.cons.inj same).1

/-- The leading digits are compared with the bound before anything else is looked at. -/
theorem readNumeral_eq (filled : text ≠ []) : readNumeral bound text =
    if bound < leadingNumber (unsignedPart text) then .error .tooLarge
    else if unsignedPart text ≠ [] ∧ (unsignedPart text).all Char.isDigit = true then
      .ok (Nat.ofDigitChars 10 (unsignedPart text) 0)
    else .error .invalidDigit := by
  rw [readNumeral_of_filled filled, readDigits_eq (Nat.zero_le bound), digitsValue_takeWhile,
    isDigit_eq_isDigit]
  by_cases none : unsignedPart text = []
  · simp [none, leadingNumber]
  · simp only [ne_eq, none, not_false_eq_true, true_and, if_false]
    split
    · rfl
    · split
      · rename_i digits
        rw [digitsValue_eq_ofDigitChars fun c inside =>
          isDigit_eq c ▸ List.all_eq_true.mp digits c inside]
      · rfl

/-- A numeral is read exactly as the number that it denotes, if that is within the bound. -/
theorem readNumeral_eq_ok_iff :
    readNumeral bound text = .ok value ↔ Denotes text value ∧ value ≤ bound := by
  rw [denotes_iff, ← List.all_eq_true]
  by_cases filled : text = []
  · subst filled
    simp [readNumeral, unsignedPart]
  · rw [readNumeral_eq filled]
    by_cases digits : unsignedPart text ≠ [] ∧ (unsignedPart text).all Char.isDigit = true
    · rw [leadingNumber_of_digits (List.all_eq_true.mp digits.2), if_pos digits]
      constructor
      · intro read
        split at read
        · cases read
        · rename_i fits
          cases read
          exact ⟨⟨digits.1, digits.2, rfl⟩, Nat.le_of_not_lt fits⟩
      · rintro ⟨⟨-, -, rfl⟩, fits⟩
        rw [if_neg (Nat.not_lt.mpr fits)]
    · rw [if_neg digits]
      refine iff_of_false (fun read => ?_) fun denotes => digits ⟨denotes.1.1, denotes.1.2.1⟩
      split at read <;> cases read

/-- A text that is not read has the fault that is reported. -/
theorem readNumeral_eq_error_iff :
    readNumeral bound text = .error error ↔ NumeralFault bound text error := by
  constructor
  · intro refused
    by_cases filled : text = []
    · subst filled
      cases refused
      exact .empty
    · rw [readNumeral_eq filled] at refused
      split at refused
      · cases refused
        exact .tooLarge ‹_›
      · rename_i fits
        split at refused
        · cases refused
        · rename_i other
          cases refused
          refine .invalidDigit filled (Nat.le_of_not_lt fits) ?_
          simpa [Classical.or_iff_not_imp_left] using other
  · intro fault
    cases fault with
    | empty => rfl
    | tooLarge exceeds =>
        have filled : text ≠ [] := by
          rintro rfl
          simp [leadingNumber, unsignedPart] at exceeds
        rw [readNumeral_eq filled, if_pos exceeds]
    | invalidDigit filled fits other =>
        rw [readNumeral_eq filled, if_neg (Nat.not_lt.mpr fits), if_neg]
        simpa [Classical.or_iff_not_imp_left] using other

end Reading

end NodeSync.Text
