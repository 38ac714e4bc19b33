/-
Module: NodeSync.Http.Target
Purpose: The targets of HTTP requests: a path with perhaps a query. A target is written as a path
  that starts with a slash, or with a scheme and an authority in front of it; an authority alone
  names no path. A fragment is not sent. A text with a character that may not stand in a target is
  none.
Main exports: Target, Target.read?, Target.print
-/
import NodeSync.Http.Authority
import NodeSync.Text.Pieces

namespace NodeSync.Http

open NodeSync.Text

set_option autoImplicit false

/-- What a request asks for. -/
structure Target where
  path : String
  query : Option String
deriving Repr, Inhabited, DecidableEq

/-- Whether a character may stand in a path. -/
def isPathChar (c : Char) : Bool :=
  let code := c.toNat
  code == 0x21 || code == 0x22 || (0x24 ≤ code && code ≤ 0x3b) || code == 0x3d ||
    (0x40 ≤ code && code ≤ 0x5f) || (0x61 ≤ code && code ≠ 0x7f)

/-- Whether a character may stand in a query. -/
def isQueryChar (c : Char) : Bool :=
  let code := c.toNat
  code == 0x21 || (0x24 ≤ code && code ≤ 0x3b) || code == 0x3d || (0x3f ≤ code && code ≠ 0x7f)

/-- Whether a character may stand in a scheme. -/
def isSchemeChar (c : Char) : Bool := c.isAlphanum || c == '+' || c == '-' || c == '.' || c == '~'

namespace Target

/-- The longest target, in bytes. -/
def maxSize : Nat := 65534

/-- The longest scheme. -/
def maxScheme : Nat := 64

/-- A text without its fragment. -/
def dropFragment (cs : List Char) : List Char := cs.takeWhile (· ≠ '#')

/-- Splits a text into path and query and checks their characters. -/
def pathAndQuery? (cs : List Char) : Option Target :=
  let kept := dropFragment cs
  let (path, query) := match splitFirst? '?' kept with
    | none => (kept, none)
    | some (path, query) => (path, some query)
  if path.all isPathChar && (query.getD []).all isQueryChar then
    some ⟨String.ofList path, query.map String.ofList⟩
  else none

/-- What follows a scheme and its mark `://`, if there is one. -/
def afterScheme? (cs : List Char) : Option (List Char) :=
  match cs.dropWhile isSchemeChar with
  | ':' :: '/' :: '/' :: rest =>
      if (cs.takeWhile isSchemeChar).length ≤ maxScheme then some rest else none
  | _ => none

/-- Reads what follows a scheme: an authority and then a path, the root if there is none. -/
def afterAuthority? (cs : List Char) : Option Target :=
  let (authority, rest) := splitAuthority cs
  if isAuthority authority then
    (pathAndQuery? rest).map fun target =>
      if target.path = "" then { target with path := "/" } else target
  else none

/-- Reads a target. A star asks for no single thing, nor does an authority without a scheme. -/
def read? (s : String) : Option Target :=
  if maxSize < s.utf8ByteSize then none
  else
    match s.toList with
    | ['*'] => some ⟨"*", none⟩
    | '/' :: rest => pathAndQuery? ('/' :: rest)
    | cs =>
        match afterScheme? cs with
        | some rest => afterAuthority? rest
        | none => if isAuthority cs then some ⟨"", none⟩ else none

/-- The target as it is sent. -/
def print (target : Target) : String :=
  target.path ++ match target.query with
    | none => ""
    | some query => "?" ++ query

end Target

end NodeSync.Http
