/-
Module: NodeSync.Timestamp
Purpose: Points of time and their texts. A timestamp is written in UTC with whole seconds. It is
  read from RFC 3339 text with any offset and fraction; white space may stand between the parts,
  and a blank may stand for the `T`.
Main exports: Timestamp, Timestamp.print, Timestamp.read?
-/
import NodeSync.Calendar
import NodeSync.Text.Blank
import NodeSync.Text.Numeral

namespace NodeSync

open NodeSync.Text

set_option autoImplicit false

/-- A point of time: whole seconds since 1970-01-01T00:00:00Z and a fraction. A fraction of a
second or more lies in the leap second that follows. -/
structure Timestamp where
  second : Int
  nanosecond : Nat
deriving Repr, Inhabited, DecidableEq

namespace Timestamp

/-- The nanoseconds of a second. -/
def nanosecondsPerSecond : Nat := 1000000000

/-- A decimal text of at least `width` characters, filled up with zeros in front. -/
def padded (width n : Nat) : String := String.ofList (zeroPadded width (Nat.toDigits 10 n))

/-- Four digits for the years 0 to 9999, and a sign before other years. -/
def printYear (year : Int) : String :=
  if 0 ≤ year ∧ year ≤ 9999 then padded 4 year.toNat
  else (if year < 0 then "-" else "+") ++ padded 4 year.natAbs

/-- The text in UTC with whole seconds; the fraction is cut off. -/
def print (time : Timestamp) : String :=
  let date := Date.ofDayNumber (time.second / 86400)
  let ofDay := (time.second % 86400).toNat
  let leap := if time.nanosecond < nanosecondsPerSecond then 0 else 1
  printYear date.year ++ "-" ++ padded 2 date.month ++ "-" ++ padded 2 date.day ++ "T" ++
    padded 2 (ofDay / 3600) ++ ":" ++ padded 2 (ofDay / 60 % 60) ++ ":" ++
    padded 2 (ofDay % 60 + leap) ++ "Z"

/-- A part of a text, with the rest behind it. -/
abbrev Part (α : Type) := List Char → Option (α × List Char)

def skipBlank (cs : List Char) : List Char := cs.dropWhile isBlank

/-- A run of one digit at least and of `width` at most. -/
def digits? (width : Nat) : Part Nat := fun cs =>
  let digits := (cs.take width).takeWhile isDigit
  if digits.isEmpty then none else some (digitsValue 0 digits, cs.drop digits.length)

/-- White space and then a number of at most two digits. -/
def two? : Part Nat := fun cs => digits? 2 (skipBlank cs)

/-- White space and then a year, of at most four digits unless it has a sign. -/
def year? : Part Int := fun cs =>
  match skipBlank cs with
  | '-' :: rest => (digits? rest.length rest).map fun (year, rest) => (-(year : Int), rest)
  | '+' :: rest => (digits? rest.length rest).map fun (year, rest) => ((year : Int), rest)
  | rest => (digits? 4 rest).map fun (year, rest) => ((year : Int), rest)

/-- White space and then a given character. -/
def mark? (mark : Char) : Part Unit := fun cs =>
  match skipBlank cs with
  | c :: rest => if c = mark then some ((), rest) else none
  | [] => none

/-- The fraction of a second in nanoseconds, zero if there is none; digits after the ninth are
passed over. -/
def fraction? : Part Nat
  | '.' :: rest =>
      let digits := rest.takeWhile isDigit
      if digits.isEmpty then none
      else
        let kept := digits.take 9
        some (digitsValue 0 kept * powerOfTen (9 - kept.length), rest.dropWhile isDigit)
  | cs => some (0, cs)

/-- The offset from UTC in seconds. -/
def offset? : Part Int := fun cs =>
  match cs with
  | 'Z' :: rest => some (0, rest)
  | 'z' :: rest => some (0, rest)
  | [] => none
  | sign :: rest =>
      if (cs.take 3).map Char.toUpper = ['U', 'T', 'C'] then some (0, cs.drop 3)
      else if sign ≠ '+' ∧ sign ≠ '-' ∧ sign ≠ '\u2212' then none
      else
        match rest with
        | h₁ :: h₂ :: rest =>
            match rest.dropWhile (fun c => c == ':' || isBlank c) with
            | m₁ :: m₂ :: rest =>
                match digitValue? h₁, digitValue? h₂, digitValue? m₁, digitValue? m₂ with
                | some a, some b, some c, some d =>
                    if 6 ≤ c then none
                    else
                      let seconds : Int := (a * 10 + b) * 3600 + (c * 10 + d) * 60
                      some (if sign = '+' then seconds else -seconds, rest)
                | _, _, _, _ => none
            | _ => none
        | _ => none

/-- The date in front of a time of day. -/
def date? : Part Date := fun cs => do
  let (year, cs) ← year? cs
  let ((), cs) ← mark? '-' cs
  let (month, cs) ← two? cs
  let ((), cs) ← mark? '-' cs
  let (day, cs) ← two? cs
  some (⟨year, month, day⟩, cs)

/-- The separator of date and time of day. -/
def separator? : Part Unit
  | c :: rest => if c = 'T' ∨ c = 't' ∨ c = ' ' then some ((), rest) else none
  | [] => none

/-- A time of day, in seconds from midnight and nanoseconds; second 60 is the leap second. -/
def timeOfDay? : Part (Nat × Nat) := fun cs => do
  let (hour, cs) ← two? cs
  let ((), cs) ← mark? ':' cs
  let (minute, cs) ← two? cs
  let ((), cs) ← mark? ':' cs
  let (second, cs) ← two? cs
  let (nanosecond, cs) ← fraction? cs
  if 23 < hour ∨ 59 < minute ∨ 60 < second then none
  else if second = 60 then
    some ((hour * 3600 + minute * 60 + 59, nanosecond + nanosecondsPerSecond), cs)
  else some ((hour * 3600 + minute * 60 + second, nanosecond), cs)

/-- The years in which a text may name a date. -/
def firstYear : Int := -262143

def lastYear : Int := 262142

/-- Whether a second, in UTC, lies in one of these years. -/
def isWithinYears (second : Int) : Bool :=
  Date.dayNumber ⟨firstYear, 1, 1⟩ * 86400 ≤ second &&
    second < (Date.dayNumber ⟨lastYear, 12, 31⟩ + 1) * 86400

/-- The point of time that a text names. Both the date as it is written and the one in UTC have to
lie within the years. -/
def read? (s : String) : Option Timestamp := do
  let (date, cs) ← date? s.toList
  let ((), cs) ← separator? cs
  let ((ofDay, nanosecond), cs) ← timeOfDay? cs
  let (offset, cs) ← offset? (skipBlank cs)
  let second := date.dayNumber * 86400 + ofDay - offset
  if !(skipBlank cs).isEmpty || !date.isValid || date.year < firstYear || lastYear < date.year ||
      86400 ≤ offset || offset ≤ -86400 || !isWithinYears second then none
  else some ⟨second, nanosecond⟩

end Timestamp

end NodeSync
