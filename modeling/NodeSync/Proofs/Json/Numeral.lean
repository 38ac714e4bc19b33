/-
Module: NodeSync.Proofs.Json.Numeral
Purpose: The texts of numbers. An integer of 64 bits is read from its text as it is, and a double is
  lasting if it is. No character of a numeral ends a word, so that the text of a number stays in one
  piece wherever it stands.
Main exports: endsWord, Numeral.isNumeralChar_of_read?, Numeral.number?_signedDecimal,
  Number.IsLasting, Number.IsLasting.word?
-/
import Mathlib.Data.List.TakeWhile
import NodeSync.Json.Printer
import NodeSync.Json.Token
import NodeSync.Json.Transfer
import NodeSync.Proofs.Text.Numeral

namespace NodeSync

open NodeSync.Text NodeSync.Json

set_option autoImplicit false

/-! ## The characters of a numeral -/

namespace Json

/-- Whether a character may stand in a numeral. -/
def isNumeralChar (c : Char) : Bool := isDigit c || "+-.eE".toList.contains c

/-- Whether a character ends the word before it. -/
def endsWord (c : Char) : Bool := isSpace c || c = '"' || (delimiter? c).isSome

theorem mem_of_endsWord {c : Char} (ends : endsWord c = true) :
    c ∈ [' ', '\t', '\n', '\r', '"', '\x7b', '\x7d', '[', ']', ':', ','] := by
  simp only [endsWord, isSpace, Bool.or_eq_true, beq_iff_eq, decide_eq_true_eq] at ends
  rcases ends with (blank | quote) | delimiter
  · rcases blank with ((rfl | rfl) | rfl) | rfl <;> decide
  · subst quote
    decide
  · unfold delimiter? at delimiter
    split at delimiter <;> first | decide | cases delimiter

/-- A numeral is one word. -/
theorem endsWord_of_isNumeralChar {c : Char} (numeral : isNumeralChar c = true) :
    endsWord c = false := by
  have outside : [' ', '\t', '\n', '\r', '"', '\x7b', '\x7d', '[', ']', ':', ','].any
      isNumeralChar = false := by decide
  rw [Bool.eq_false_iff]
  exact fun ends => List.any_eq_false.mp outside c (mem_of_endsWord ends) numeral

namespace Numeral

theorem isNumeralChar_of_isDigit {c : Char} (digit : isDigit c = true) :
    isNumeralChar c = true := by
  rw [isNumeralChar, digit, Bool.true_or]

theorem isNumeralChar_of_mem_takeWhile {c : Char} {cs : List Char}
    (inside : c ∈ cs.takeWhile isDigit) : isNumeralChar c = true :=
  isNumeralChar_of_isDigit (List.mem_takeWhile_imp inside)

theorem isNumeralChar_of_exponent? {cs : List Char} {exponent : Int}
    (read : exponent? cs = some exponent) : ∀ c ∈ cs, isNumeralChar c = true := by
  unfold exponent? at read
  have digits {negative : Bool} {rest : List Char}
      (found : (if rest.isEmpty || !rest.all isDigit then none
        else some (if negative then -(digitsValue 0 rest : Int) else digitsValue 0 rest)) =
          some exponent) : ∀ c ∈ rest, isNumeralChar c = true := by
    split at found
    · cases found
    · rename_i filled
      simp only [Bool.or_eq_true, Bool.not_eq_true', not_or, Bool.not_eq_false] at filled
      exact fun c inside => isNumeralChar_of_isDigit (List.all_eq_true.mp filled.2 c inside)
  split at read
  rename_i negative rest split_eq
  split at split_eq
  · cases split_eq
    exact List.forall_mem_cons.mpr ⟨rfl, digits read⟩
  · cases split_eq
    exact List.forall_mem_cons.mpr ⟨rfl, digits read⟩
  · cases split_eq
    exact digits read

theorem isNumeralChar_of_suffix? {cs : List Char} {exponent : Option Int}
    (read : suffix? cs = some exponent) : ∀ c ∈ cs, isNumeralChar c = true := by
  cases cs with
  | nil => exact nofun
  | cons mark rest =>
      rw [suffix?] at read
      split at read
      · rename_i marked
        obtain ⟨value, found, -⟩ := Option.map_eq_some_iff.mp read
        refine List.forall_mem_cons.mpr ⟨?_, isNumeralChar_of_exponent? found⟩
        rcases marked with rfl | rfl <;> rfl
      · cases read

/-- A numeral without its sign has at least one digit and no other characters than those of a
numeral. -/
theorem isNumeralChar_of_unsigned? {negative : Bool} {cs : List Char} {numeral : Numeral}
    (read : unsigned? negative cs = some numeral) :
    cs ≠ [] ∧ ∀ c ∈ cs, isNumeralChar c = true := by
  unfold unsigned? at read
  dsimp only at read
  split at read
  · cases read
  · rename_i filled
    simp only [Bool.or_eq_true, not_or] at filled
    have some_digit : cs ≠ [] := by
      rintro rfl
      exact filled.1 rfl
    refine ⟨some_digit, ?_⟩
    rw [← List.takeWhile_append_dropWhile (p := isDigit) (l := cs)]
    refine List.forall_mem_append.mpr ⟨fun _ => isNumeralChar_of_mem_takeWhile, ?_⟩
    split at read
    · rename_i rest split_eq
      rw [split_eq]
      split at read
      · cases read
      · obtain ⟨exponent, found, -⟩ := Option.map_eq_some_iff.mp read
        refine List.forall_mem_cons.mpr ⟨rfl, ?_⟩
        rw [← List.takeWhile_append_dropWhile (p := isDigit) (l := rest)]
        exact List.forall_mem_append.mpr
          ⟨fun _ => isNumeralChar_of_mem_takeWhile, isNumeralChar_of_suffix? found⟩
    · obtain ⟨exponent, found, -⟩ := Option.map_eq_some_iff.mp read
      exact isNumeralChar_of_suffix? found

/-- What is read as a numeral consists of the characters of numerals. -/
theorem isNumeralChar_of_read? {cs : List Char} {numeral : Numeral}
    (read : read? cs = some numeral) : cs ≠ [] ∧ ∀ c ∈ cs, isNumeralChar c = true := by
  unfold read? at read
  split at read
  · obtain ⟨-, all⟩ := isNumeralChar_of_unsigned? read
    exact ⟨List.cons_ne_nil _ _, List.forall_mem_cons.mpr ⟨rfl, all⟩⟩
  · exact isNumeralChar_of_unsigned? read

end Numeral

end Json

/-! ## Integers -/

namespace Json.Numeral

/-- Digits that make up a number of 64 bits are all taken. -/
theorem takeDigits_eq {start : Nat} {digits : List Char}
    (small : digitsValue start digits < UInt64.size) :
    takeDigits start digits = (digitsValue start digits, []) := by
  induction digits generalizing start with
  | nil => rfl
  | cons c rest ih =>
      have next : start * 10 + (digitValue? c).getD 0 < UInt64.size :=
        lt_of_le_of_lt (le_digitsValue _ rest) small
      rw [takeDigits]
      exact (if_pos next).trans (ih small)

/-- The digits of a number are read as a numeral with no fraction and no exponent. -/
theorem unsigned?_toDigits (negative : Bool) (n : Nat) :
    unsigned? negative (Nat.toDigits 10 n) = some ⟨negative, Nat.toDigits 10 n, [], none⟩ := by
  have all : ∀ c ∈ Nat.toDigits 10 n, isDigit c = true := fun _ => isDigit_of_mem_toDigits
  have whole : (Nat.toDigits 10 n).takeWhile isDigit = Nat.toDigits 10 n :=
    List.takeWhile_eq_self_iff.mpr all
  have rest : (Nat.toDigits 10 n).dropWhile isDigit = [] := List.dropWhile_eq_nil_iff.mpr all
  have plain : ((Nat.toDigits 10 n).isEmpty || ((Nat.toDigits 10 n).length > 1 &&
      (Nat.toDigits 10 n).head? == some '0')) = false := by
    by_cases several : 10 ≤ n
    · simp [Nat.toDigits_ne_nil, head?_toDigits several]
    · simp [Nat.toDigits_of_lt_base (Nat.lt_of_not_le several)]
  simp [unsigned?, whole, rest, plain, suffix?]

/-- The text of an integer is the numeral of its digits. -/
theorem read?_signedDecimal (value : Int) : read? (signedDecimal value).toList =
    some ⟨decide (value < 0), Nat.toDigits 10 value.natAbs, [], none⟩ := by
  by_cases negative : value < 0
  · simp [signedDecimal, decimal, negative, read?, unsigned?_toDigits]
  · obtain ⟨c, others, digits⟩ := List.exists_cons_of_ne_nil
      (Nat.toDigits_ne_nil (n := value.natAbs) (b := 10))
    have digit : isDigit c = true := isDigit_of_mem_toDigits (digits ▸ List.mem_cons_self)
    have unsigned := unsigned?_toDigits false value.natAbs
    have first : c ≠ '-' := by
      rintro rfl
      cases digit
    simp only [signedDecimal, decimal, negative, if_false, String.toList_append,
      String.toList_ofList]
    rw [digits] at unsigned ⊢
    simpa [read?, first] using unsigned

/-- An integer of 64 bits is read from its text as it is. -/
theorem number?_signedDecimal {value : Int} (low : -9223372036854775808 ≤ value)
    (high : value < 18446744073709551616) :
    (read? (signedDecimal value).toList).bind number? = some (.integer value) := by
  have small : digitsValue 0 (Nat.toDigits 10 value.natAbs) < UInt64.size := by
    rw [digitsValue_toDigits]
    change value.natAbs < 18446744073709551616
    omega
  have taken := takeDigits_eq small
  rw [digitsValue_toDigits] at taken
  have integer : integer? (decide (value < 0)) (Nat.toDigits 10 value.natAbs) = some value := by
    rw [integer?, taken]
    by_cases negative : value < 0
    · have bounds : value.natAbs ≠ 0 ∧ value.natAbs ≤ 9223372036854775808 := by omega
      have same : -(value.natAbs : Int) = value := by omega
      simp only [negative, decide_true, Bool.not_true, Bool.false_eq_true, if_false, if_pos bounds,
        same]
    · have same : (value.natAbs : Int) = value := by omega
      simp only [negative, decide_false, Bool.not_false, if_true, same]
  rw [read?_signedDecimal, Option.bind_some, number?]
  simp only [integer]

end Json.Numeral

/-! ## Lasting numbers -/

namespace Number

/-- A number that outlasts being written and read: an integer of 64 bits, or a double whose shortest
decimal stands for itself. -/
def IsLasting : Number → Prop
  | .integer value => -9223372036854775808 ≤ value ∧ value < 18446744073709551616
  | .double value =>
      (Numeral.read? (Number.double value).print.toList).bind Numeral.number? = some (.double value)

instance : DecidablePred IsLasting
  | .integer _ => inferInstanceAs (Decidable (_ ∧ _))
  | .double _ => inferInstanceAs (Decidable (_ = _))

variable {number : Number}

/-- A number that lasts is read again from its print. -/
theorem IsLasting.again (lasting : number.IsLasting) :
    (Numeral.read? number.print.toList).bind Numeral.number? = some number := by
  cases number with
  | integer value => exact Numeral.number?_signedDecimal lasting.1 lasting.2
  | double value => exact lasting

/-- It is not changed by being handed over either. -/
theorem IsLasting.transferred (lasting : number.IsLasting) : number.transferred = number := by
  cases number with
  | integer => rfl
  | double value => exact congrArg (Option.getD · _) lasting

/-- The text of a lasting number is a word that says the number. -/
theorem IsLasting.word? (lasting : number.IsLasting) :
    Json.word? number.print.toList = some (.number number) := by
  obtain ⟨numeral, read, found⟩ := Option.bind_eq_some_iff.mp lasting.again
  have other {word : String} (unread : Numeral.read? word.toList = none) :
      number.print.toList ≠ word.toList := by
    intro same
    rw [same, unread] at read
    cases read
  rw [Json.word?, if_neg (other (by decide)), if_neg (other (by decide)),
    if_neg (other (by decide)), read, Option.map_some, found]

/-- No character of the text ends the word. -/
theorem IsLasting.any_endsWord (lasting : number.IsLasting) :
    number.print.toList.any endsWord = false := by
  obtain ⟨numeral, read, -⟩ := Option.bind_eq_some_iff.mp lasting.again
  exact List.any_eq_false.mpr fun c inside => Bool.eq_false_iff.mp
    (endsWord_of_isNumeralChar ((Numeral.isNumeralChar_of_read? read).2 c inside))

theorem IsLasting.print_ne_nil (lasting : number.IsLasting) : number.print.toList ≠ [] := by
  obtain ⟨numeral, read, -⟩ := Option.bind_eq_some_iff.mp lasting.again
  exact (Numeral.isNumeralChar_of_read? read).1

end Number

end NodeSync
