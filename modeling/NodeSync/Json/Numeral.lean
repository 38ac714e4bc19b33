/-
Module: NodeSync.Json.Numeral
Purpose: The numerals of JSON texts and the numbers that they stand for. Integers of 64 bits are
  exact. Every other numeral is read into double precision from the leading digits that make up an
  integer of 64 bits; later digits count only by their places.
Main exports: Numeral, Numeral.read?, Numeral.number?
-/
import NodeSync.Json.Value
import NodeSync.Text.Numeral

namespace NodeSync.Json

open NodeSync.Text

set_option autoImplicit false

/-- A numeral: an optional minus sign, the whole part, the fraction after the point, and the
exponent after the mark `e` or `E`. -/
structure Numeral where
  negative : Bool
  whole : List Char
  /-- Empty if there is no point. -/
  fraction : List Char
  exponent : Option Int
deriving Repr, Inhabited, DecidableEq

namespace Numeral

/-- An exponent, with an optional sign. -/
def exponent? (cs : List Char) : Option Int :=
  let (negative, digits) : Bool × List Char :=
    match cs with
    | '-' :: rest => (true, rest)
    | '+' :: rest => (false, rest)
    | rest => (false, rest)
  if digits.isEmpty || !digits.all isDigit then none
  else some (if negative then -(digitsValue 0 digits : Int) else digitsValue 0 digits)

/-- The exponent behind the digits, or nothing. -/
def suffix? : List Char → Option (Option Int)
  | [] => some none
  | mark :: rest => if mark = 'e' ∨ mark = 'E' then (exponent? rest).map some else none

/-- Reads a numeral without its sign. The whole part has no superfluous zero in front, and a point
has digits on both sides. -/
def unsigned? (negative : Bool) (cs : List Char) : Option Numeral :=
  let whole := cs.takeWhile isDigit
  if whole.isEmpty || (whole.length > 1 && whole.head? == some '0') then none
  else
    match cs.dropWhile isDigit with
    | '.' :: rest =>
        let fraction := rest.takeWhile isDigit
        if fraction.isEmpty then none
        else (suffix? (rest.dropWhile isDigit)).map (⟨negative, whole, fraction, ·⟩)
    | rest => (suffix? rest).map (⟨negative, whole, [], ·⟩)

/-- Reads a numeral. -/
def read? : List Char → Option Numeral
  | '-' :: rest => unsigned? true rest
  | cs => unsigned? false cs

/-- Takes digits into a number as long as it fits into 64 bits: the number, and the digits that are
left. -/
def takeDigits : Nat → List Char → Nat × List Char
  | value, [] => (value, [])
  | value, c :: rest =>
      let next := value * 10 + (digitValue? c).getD 0
      if next < UInt64.size then takeDigits next rest else (value, c :: rest)

/-- The integer of 64 bits that a numeral without fraction and exponent is; minus zero is none. -/
def integer? (negative : Bool) (whole : List Char) : Option Int :=
  match takeDigits 0 whole with
  | (value, []) =>
      if !negative then some value
      else if value ≠ 0 ∧ value ≤ 9223372036854775808 then some (-(value : Int))
      else none
  | _ => none

/-- The double that a numeral stands for. -/
def double? (numeral : Numeral) : Option Double :=
  let (leading, wholeRest) := takeDigits 0 numeral.whole
  let (significand, fractionRest) := takeDigits leading numeral.fraction
  let places := numeral.fraction.length - fractionRest.length
  Double.ofDecimal? numeral.negative significand
    ((wholeRest.length : Int) - places + numeral.exponent.getD 0)

/-- The number that a numeral stands for; `none` beyond the greatest double. -/
def number? (numeral : Numeral) : Option Number :=
  let integer := match numeral.fraction, numeral.exponent with
    | [], none => integer? numeral.negative numeral.whole
    | _, _ => none
  match integer with
  | some value => some (.integer value)
  | none => numeral.double?.map .double

end Numeral

end NodeSync.Json
