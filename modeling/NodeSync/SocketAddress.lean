/-
Module: NodeSync.SocketAddress
Purpose: Addresses that a server listens on, and their texts: `a.b.c.d:port` for IPv4, and
  `[groups]:port` or `[groups%scope]:port` for IPv6. An IPv6 address is written with its longest
  run of zero groups left out; when it is read, any run may be left out, and its last two groups
  may be written as an IPv4 address.
Main exports: IPv4, IPv6, Host, SocketAddress, SocketAddress.read?, SocketAddress.print
-/
import NodeSync.Text.Numeral
import NodeSync.Text.Pieces

namespace NodeSync

open NodeSync.Text

set_option autoImplicit false

/-- A decimal number of at least one digit and of at most `bound`; leading zeros are allowed, a
sign is not. -/
def readUnsigned? (bound : Nat) : List Char → Option Nat
  | [] => none
  | digits =>
      match readDigits bound 0 digits with
      | .ok value => some value
      | .error _ => none

/-- An address of four octets. -/
structure IPv4 where
  first : UInt8
  second : UInt8
  third : UInt8
  fourth : UInt8
deriving Repr, Inhabited, DecidableEq

namespace IPv4

/-- One octet: a number up to 255 without superfluous zeros. -/
def readOctet? (digits : List Char) : Option UInt8 :=
  if digits.length > 1 ∧ digits.head? = some '0' then none
  else (readUnsigned? 255 digits).map UInt8.ofNat

def read? (cs : List Char) : Option IPv4 :=
  match pieces '.' cs with
  | [a, b, c, d] => do
      some ⟨← readOctet? a, ← readOctet? b, ← readOctet? c, ← readOctet? d⟩
  | _ => none

def print (address : IPv4) : String :=
  decimal address.first.toNat ++ "." ++ decimal address.second.toNat ++ "." ++
    decimal address.third.toNat ++ "." ++ decimal address.fourth.toNat

/-- The address as the last two groups of an IPv6 address. -/
def groups (address : IPv4) : List UInt16 :=
  [.ofNat (address.first.toNat * 256 + address.second.toNat),
    .ofNat (address.third.toNat * 256 + address.fourth.toNat)]

/-- The address whose last two groups are the given ones. -/
def ofGroups (high low : UInt16) : IPv4 :=
  ⟨.ofNat (high.toNat / 256), .ofNat (high.toNat % 256),
    .ofNat (low.toNat / 256), .ofNat (low.toNat % 256)⟩

end IPv4

/-- An address of eight groups of 16 bits. -/
structure IPv6 where
  groups : List UInt16
  length_eq : groups.length = 8
deriving Repr, DecidableEq

namespace IPv6

/-- The address made of the given groups. -/
def ofGroups? (groups : List UInt16) : Option IPv6 :=
  if h : groups.length = 8 then some ⟨groups, h⟩ else none

/-- One group: up to four hexadecimal digits. -/
def readGroup? (digits : List Char) : Option UInt16 :=
  if digits.isEmpty ∨ digits.length > 4 then none
  else
    (digits.mapM hexDigitValue?).map fun values =>
      .ofNat (values.foldl (fun total value => total * 16 + value) 0)

/-- The groups of the parts between colons; if `embedded`, the last part may be an IPv4 address. -/
def readParts? (embedded : Bool) : List (List Char) → Option (List UInt16)
  | [] => some []
  | [last] =>
      match readGroup? last with
      | some group => some [group]
      | none => if embedded then (IPv4.read? last).map IPv4.groups else none
  | part :: rest => do
      let group ← readGroup? part
      let groups ← readParts? embedded rest
      some (group :: groups)

/-- The groups of a text, none if it is empty. -/
def readGroups? (embedded : Bool) (cs : List Char) : Option (List UInt16) :=
  if cs.isEmpty then some [] else readParts? embedded (pieces ':' cs)

/-- The parts before and after the first two colons in a row. -/
def splitGap? : List Char → Option (List Char × List Char)
  | ':' :: ':' :: rest => some ([], rest)
  | c :: rest => (splitGap? rest).map fun (before, after) => (c :: before, after)
  | [] => none

/-- Reads eight groups, of which a run of at least one zero may be left out. -/
def read? (cs : List Char) : Option IPv6 :=
  match splitGap? cs with
  | none => (readGroups? true cs).bind ofGroups?
  | some (before, after) => do
      let head ← readGroups? false before
      let tail ← readGroups? true after
      if head.length + tail.length ≤ 7 then
        ofGroups? (head ++ List.replicate (8 - head.length - tail.length) 0 ++ tail)
      else none

/-- The length of the run of zeros in front. -/
def leadingZeros (groups : List UInt16) : Nat := (groups.takeWhile (· == 0)).length

/-- The first of the longest runs of zeros, as its start and its length. -/
def longestZeroRun (groups : List UInt16) : Nat × Nat :=
  (List.range groups.length).foldl
    (fun best start =>
      let length := leadingZeros (groups.drop start)
      if best.2 < length then (start, length) else best)
    (0, 0)

/-- Groups in writing, with colons between them. -/
def printGroups (groups : List UInt16) : String :=
  ":".intercalate (groups.map fun group => hexadecimal group.toNat)

/-- The IPv4 address that is written into the address after five zero groups and `ffff`. -/
def mapped? (address : IPv6) : Option IPv4 :=
  match address.groups with
  | [0, 0, 0, 0, 0, 0xffff, high, low] => some (IPv4.ofGroups high low)
  | _ => none

/-- A run of zeros is left out if it has two groups at least. -/
def print (address : IPv6) : String :=
  match address.mapped? with
  | some inner => "::ffff:" ++ inner.print
  | none =>
      let (start, length) := longestZeroRun address.groups
      if 2 ≤ length then
        printGroups (address.groups.take start) ++ "::" ++
          printGroups (address.groups.drop (start + length))
      else printGroups address.groups

end IPv6

/-- Where a server listens. The scope tells apart links on which one IPv6 address may occur. -/
inductive Host where
  | v4 (address : IPv4)
  | v6 (address : IPv6) (scope : UInt32)
deriving Repr, DecidableEq

/-- An address with a port. -/
structure SocketAddress where
  host : Host
  port : UInt16
deriving Repr, DecidableEq

namespace SocketAddress

def readPort? (digits : List Char) : Option UInt16 :=
  (readUnsigned? 65535 digits).map UInt16.ofNat

/-- Reads what stands between the brackets of an IPv6 address. -/
def readBracketed? (cs : List Char) : Option Host :=
  match splitFirst? '%' cs with
  | none => (IPv6.read? cs).map (.v6 · 0)
  | some (address, scope) => do
      let address ← IPv6.read? address
      let scope ← readUnsigned? (UInt32.size - 1) scope
      some (.v6 address (.ofNat scope))

def read? (cs : List Char) : Option SocketAddress :=
  match cs with
  | '[' :: rest =>
      match splitFirst? ']' rest with
      | some (inside, ':' :: port) => do some ⟨← readBracketed? inside, ← readPort? port⟩
      | _ => none
  | _ =>
      match splitFirst? ':' cs with
      | some (address, port) => do some ⟨.v4 (← IPv4.read? address), ← readPort? port⟩
      | none => none

def print (address : SocketAddress) : String :=
  let port := decimal address.port.toNat
  match address.host with
  | .v4 inner => inner.print ++ ":" ++ port
  | .v6 inner scope =>
      let scope := if scope = 0 then "" else "%" ++ decimal scope.toNat
      "[" ++ inner.print ++ scope ++ "]:" ++ port

end SocketAddress

end NodeSync
