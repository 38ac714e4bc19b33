/-
Module: NodeSync.Json.Printer
Purpose: The compact text of a JSON value: no white space between tokens, integers exact, doubles by
  their shortest decimal, and only the quote, the backslash and control characters escaped.
Main exports: Json.print
-/
import NodeSync.Double.Shortest
import NodeSync.Json.Value
import NodeSync.Text.Numeral

namespace NodeSync

open NodeSync.Text

set_option autoImplicit false

/-- The text of a decimal. A point stands within the first sixteen places or after at most four
zeros, and is kept where no digit follows it; further away the first digit stands alone before the
point and an exponent with its sign behind the digits. -/
def Decimal.print (decimal : Decimal) : String :=
  let digits := decimal.digits
  let point : Int := digits.length + decimal.exponent
  let text : List Char :=
    if 0 ≤ decimal.exponent ∧ point ≤ 16 then
      digits ++ List.replicate decimal.exponent.toNat '0' ++ ['.', '0']
    else if 0 < point ∧ point ≤ 16 then
      digits.take point.toNat ++ ['.'] ++ digits.drop point.toNat
    else if -5 < point ∧ point ≤ 0 then
      ['0', '.'] ++ List.replicate point.natAbs '0' ++ digits
    else
      let fraction := if digits.length ≤ 1 then [] else '.' :: digits.drop 1
      digits.take 1 ++ fraction ++ ['e'] ++ signed (point - 1)
  String.ofList text
where
  signed (value : Int) : List Char :=
    (if value < 0 then '-' else '+') :: Nat.toDigits 10 value.natAbs

/-- The text of a number. A double has a point or an exponent, so that it is not taken for an
integer. -/
def Number.print : Number → String
  | .integer value => signedDecimal value
  | .double value => (if value.negative then "-" else "") ++ value.shortest.print

namespace Json

/-- The written form of one character between the quotes. -/
def escapeChar (c : Char) : List Char :=
  if c = '"' then ['\\', '"']
  else if c = '\\' then ['\\', '\\']
  else if c = '\n' then ['\\', 'n']
  else if c = '\r' then ['\\', 'r']
  else if c = '\t' then ['\\', 't']
  else if c = '\x08' then ['\\', 'b']
  else if c = '\x0c' then ['\\', 'f']
  else if c.toNat < 0x20 then
    ['\\', 'u'] ++ zeroPadded 4 (Nat.toDigits 16 c.toNat)
  else [c]

/-- A text between double quotes. -/
def printText (s : String) : String :=
  String.ofList (['"'] ++ s.toList.flatMap escapeChar ++ ['"'])

mutual

/-- The text of a value. -/
def print : Json → String
  | .null => "null"
  | .bool value => if value then "true" else "false"
  | .number value => value.print
  | .string value => printText value
  | .array items => "[" ++ ",".intercalate (printItems items) ++ "]"
  | .object fields => "\x7b" ++ ",".intercalate (printFields fields) ++ "\x7d"

/-- The texts of the items of an array. -/
def printItems : List Json → List String
  | [] => []
  | item :: rest => print item :: printItems rest

/-- The texts of the fields of an object. -/
def printFields : List (String × Json) → List String
  | [] => []
  | (name, value) :: rest => (printText name ++ ":" ++ print value) :: printFields rest

end

end Json

end NodeSync
