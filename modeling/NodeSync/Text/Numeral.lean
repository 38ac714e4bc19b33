/-
Module: NodeSync.Text.Numeral
Purpose: Numerals: the decimal and hexadecimal text of a natural number, and the reading of an
  unsigned decimal numeral under an upper bound. A numeral may carry one leading `+` and leading
  zeros; nothing else beside the digits is allowed.
Main exports: decimal, signedDecimal, hexadecimal, NumeralError, readNumeral
-/
namespace NodeSync.Text

set_option autoImplicit false

/-- The decimal text of a number, without leading zeros. -/
def decimal (n : Nat) : String := String.ofList (Nat.toDigits 10 n)

/-- The decimal text of an integer. -/
def signedDecimal (n : Int) : String := (if n < 0 then "-" else "") ++ decimal n.natAbs

/-- The lower-case hexadecimal text of a number, without leading zeros. -/
def hexadecimal (n : Nat) : String := String.ofList (Nat.toDigits 16 n)

/-- Why a text is no numeral of the wanted range. -/
inductive NumeralError where
  | empty
  | invalidDigit
  | tooLarge
deriving Repr, Inhabited, DecidableEq

def NumeralError.message : NumeralError → String
  | .empty => "cannot parse integer from empty string"
  | .invalidDigit => "invalid digit found in string"
  | .tooLarge => "number too large to fit in target type"

/-- The value of an ASCII decimal digit. -/
def digitValue? (c : Char) : Option Nat :=
  if '0' ≤ c ∧ c ≤ '9' then some (c.toNat - '0'.toNat) else none

def isDigit (c : Char) : Bool := (digitValue? c).isSome

/-- The value of a run of decimal digits, read on top of a value read so far. -/
def digitsValue (start : Nat) (digits : List Char) : Nat :=
  digits.foldl (fun value c => value * 10 + (digitValue? c).getD 0) start

def powerOfTen (exponent : Nat) : Nat := Nat.pow 10 exponent

/-- Digits with as many zeros in front as make up a width. -/
def zeroPadded (width : Nat) (digits : List Char) : List Char :=
  List.replicate (width - digits.length) '0' ++ digits

/-- The value of an ASCII hexadecimal digit of either case. -/
def hexDigitValue? (c : Char) : Option Nat :=
  if '0' ≤ c ∧ c ≤ '9' then some (c.toNat - '0'.toNat)
  else if 'a' ≤ c ∧ c ≤ 'f' then some (c.toNat - 'a'.toNat + 10)
  else if 'A' ≤ c ∧ c ≤ 'F' then some (c.toNat - 'A'.toNat + 10)
  else none

/-- Reads digits from the left on top of a value read so far; the first character that is no
digit or takes the value past the bound decides the error. -/
def readDigits (bound : Nat) : Nat → List Char → Except NumeralError Nat
  | value, [] => .ok value
  | value, c :: rest =>
      match digitValue? c with
      | none => .error .invalidDigit
      | some digit =>
          if value * 10 + digit ≤ bound then readDigits bound (value * 10 + digit) rest
          else .error .tooLarge

/-- Reads an unsigned decimal numeral of at most `bound`. -/
def readNumeral (bound : Nat) : List Char → Except NumeralError Nat
  | [] => .error .empty
  | ['+'] => .error .invalidDigit
  | '+' :: digits => readDigits bound 0 digits
  | digits => readDigits bound 0 digits

end NodeSync.Text
