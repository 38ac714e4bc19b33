/-
Module: NodeSync.Double
Purpose: Finite numbers in double precision, as a sign, a mantissa and a power of two, and the
  number that a decimal significand with a power of ten stands for.
Main exports: Double, Double.ofFloat?, Double.nearest, Double.ofDecimal?
-/
namespace NodeSync

set_option autoImplicit false

/-- A finite number in double precision, `mantissa * 2 ^ exponent`. Zero has a sign too. -/
structure Double where
  negative : Bool
  mantissa : Nat
  exponent : Int
deriving Repr, Inhabited, DecidableEq

namespace Double

/-- The bit of the mantissa that normal numbers have in front of their stored bits. -/
def leadingBit : Nat := 4503599627370496

/-- The finite number that a float is. -/
def ofFloat? (value : Float) : Option Double :=
  let bits := value.toBits.toNat
  let stored := bits % leadingBit
  let scale := bits / leadingBit % 2048
  let negative := bits / leadingBit / 2048 == 1
  if scale = 2047 then none
  else if scale = 0 then some ⟨negative, stored, -1074⟩
  else some ⟨negative, leadingBit + stored, (scale : Int) - 1075⟩

/-- The double nearest to a whole number, of two the one with the even mantissa. Numbers that fit a
mantissa stay as they are. -/
def nearest (number : Nat) : Double :=
  let places := Nat.log2 number - 52
  let unit := Nat.pow 2 places
  let mantissa := number / unit
  let rest := 2 * (number % unit)
  let roundsUp := unit < rest || (rest == unit && mantissa % 2 == 1)
  let rounded := if roundsUp then mantissa + 1 else mantissa
  if rounded = 2 * leadingBit then ⟨false, leadingBit, places + 1⟩
  else ⟨false, rounded, places⟩

/-- The greatest power of ten that one multiplication or division takes. -/
def maxPlaces : Nat := 308

/-- The float next to a power of ten of at most `maxPlaces`. -/
def floatPower (places : Nat) : Float := Float.ofScientific 1 false places

/-- Divides by a power of ten, rounding after every `maxPlaces` places. -/
def divideByPower (value : Float) (places : Nat) : Float :=
  if places ≤ maxPlaces then value / floatPower places
  else if value == 0 then value
  else divideByPower (value / floatPower maxPlaces) (places - maxPlaces)
termination_by places
decreasing_by simp only [maxPlaces] at *; omega

/-- Multiplies by a power of ten; a power too great for one multiplication leaves only zero
finite. -/
def multiplyByPower? (value : Float) (places : Nat) : Option Float :=
  if places ≤ maxPlaces then some (value * floatPower places)
  else if value == 0 then some value
  else none

/-- The number of a sign, a significand and a power of ten: the significand is rounded to a float
first, and the power is multiplied or divided in. There is none beyond the greatest double. -/
def ofDecimal? (negative : Bool) (significand : Nat) (exponent : Int) : Option Double := do
  let start := Float.ofScientific significand false 0
  let scaled ←
    if exponent < 0 then some (divideByPower start exponent.natAbs)
    else multiplyByPower? start exponent.natAbs
  let magnitude ← ofFloat? scaled
  some { magnitude with negative := negative }

end Double

end NodeSync
