/-
Module: NodeSync.Double.Shortest
Purpose: The shortest decimal of a double: the fewest digits that no other double is nearer to, and
  of those the nearest ones. For one digit, then two and so on, the two neighbours of the value
  among the decimals of so many digits are tried, in exact arithmetic.
Main exports: Decimal, Double.neighbour?, Double.shortest
-/
import NodeSync.Double
import NodeSync.Text.Numeral

namespace NodeSync

open NodeSync.Text

set_option autoImplicit false

/-- A decimal number without a sign: an integer of the given digits times a power of ten. -/
structure Decimal where
  digits : List Char
  exponent : Int
deriving Repr, Inhabited, DecidableEq

/-- The same number without zeros at the end of its digits. -/
def Decimal.trimmed (decimal : Decimal) : Decimal :=
  let zeros := (decimal.digits.reverse.takeWhile (· == '0')).length
  ⟨decimal.digits.take (decimal.digits.length - zeros), decimal.exponent + zeros⟩

namespace Double

def powerOfTwo (exponent : Nat) : Nat := Nat.pow 2 exponent

/-- Whether the double below is only half as far away as the one above. -/
def isNarrowBelow (value : Double) : Bool :=
  value.mantissa == leadingBit && value.exponent > -1074

/-- Of the multiples of `10 ^ places` on both sides of a value, the nearest one that reads back as
the value, divided by that power. The decimals that read back reach half way to the neighbouring
doubles, to the ends themselves if the mantissa is even. All lengths are counted in quarters of
the last place of the mantissa. -/
def neighbour? (value : Double) (places : Int) : Option Nat :=
  let quarter := value.exponent - 2
  let scale := powerOfTwo quarter.toNat * powerOfTen (-places).toNat
  let unit := powerOfTen places.toNat * powerOfTwo (-quarter).toNat
  let exact := 4 * value.mantissa * scale
  let low := (4 * value.mantissa - if value.isNarrowBelow then 1 else 2) * scale
  let high := (4 * value.mantissa + 2) * scale
  let readsBack (multiple : Nat) : Bool :=
    if value.mantissa % 2 = 0 then low ≤ multiple * unit && multiple * unit ≤ high
    else low < multiple * unit && multiple * unit < high
  let below := exact / unit
  let rest := exact % unit
  let isNearBelow := 2 * rest < unit || (2 * rest == unit && below % 2 == 0)
  if readsBack below && (isNearBelow || !readsBack (below + 1)) then some below
  else if readsBack (below + 1) then some (below + 1)
  else none

/-- The places before the point of a value other than zero, negative where zeros follow the
point. No double is as small as `10 ^ -400`. -/
def wholePlaces (value : Double) : Int :=
  let scaled := value.mantissa * powerOfTwo value.exponent.toNat * powerOfTen 400 /
    powerOfTwo (-value.exponent).toNat
  ((Nat.toDigits 10 scaled).length : Int) - 400

/-- The decimal that equals a value. -/
def exactDecimal (value : Double) : Decimal :=
  let fives := Nat.pow 5 (-value.exponent).toNat
  ⟨Nat.toDigits 10 (value.mantissa * powerOfTwo value.exponent.toNat * fives),
    min value.exponent 0⟩

/-- The shortest decimal of the magnitude of a value. Seventeen digits always suffice. -/
def shortest (value : Double) : Decimal :=
  if value.mantissa = 0 then ⟨['0'], 0⟩
  else
    let whole := value.wholePlaces
    let found := (List.range 17).findSome? fun count =>
      let places := whole - (count + 1 : Nat)
      (value.neighbour? places).map fun multiple => Decimal.mk (Nat.toDigits 10 multiple) places
    (found.getD value.exactDecimal).trimmed

end Double

end NodeSync
