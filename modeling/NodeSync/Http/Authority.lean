/-
Module: NodeSync.Http.Authority
Purpose: The authority in a target: who is asked, perhaps with user data in front of an `@` and a
  port behind a colon. Only its form is checked here.
Main exports: isAuthority, splitAuthority
-/
namespace NodeSync.Http

set_option autoImplicit false

/-- Whether a character may stand in an authority; a percent sign is judged by its place. -/
def isAuthorityChar (c : Char) : Bool :=
  c.isAlphanum || "!$&'()*+,-.:;=@[]_~%".toList.contains c

/-- Whether a character ends an authority. -/
def endsAuthority (c : Char) : Bool := c == '/' || c == '?' || c == '#'

/-- The authority in front of a text, and the rest. -/
def splitAuthority (cs : List Char) : List Char × List Char :=
  (cs.takeWhile (!endsAuthority ·), cs.dropWhile (!endsAuthority ·))

/-- What has been read of an authority. -/
structure AuthorityReader where
  /-- The colons of the part that may be a host with its port. -/
  colons : Nat
  /-- Whether the host is between square brackets, and whether they are closed. -/
  opened : Bool
  closed : Bool
  /-- Whether that part has a percent sign. -/
  percent : Bool
  /-- Whether the last character was an `@`. -/
  atSign : Bool
deriving Repr, Inhabited, DecidableEq

namespace AuthorityReader

/-- Before the first character. -/
def initial : AuthorityReader := ⟨0, false, false, false, false⟩

/-- The most colons of one part: those of an address of eight groups and one before the port. -/
def maxColons : Nat := 8

/-- Reads one character. An `@` ends the user data and a square bracket an address; colons and
percent signs in there do not count for the host. -/
def step (reader : AuthorityReader) (c : Char) : Option AuthorityReader :=
  let next := { reader with atSign := c == '@' }
  if c = ':' then
    if reader.colons < maxColons then some { next with colons := reader.colons + 1 } else none
  else if c = '[' then
    if reader.percent || reader.opened then none else some { next with opened := true }
  else if c = ']' then
    if !reader.opened || reader.closed then none
    else some { next with closed := true, colons := 0, percent := false }
  else if c = '@' then some { next with colons := 0, percent := false }
  else if c = '%' then some { next with percent := true }
  else if isAuthorityChar c then some next
  else none

/-- Whether an authority may end here. -/
def isFinished (reader : AuthorityReader) : Bool :=
  reader.opened == reader.closed && reader.colons ≤ 1 && !reader.atSign && !reader.percent

end AuthorityReader

/-- Whether a text is an authority. -/
def isAuthority (cs : List Char) : Bool :=
  match cs.foldlM AuthorityReader.step AuthorityReader.initial with
  | some reader => reader.isFinished && !cs.isEmpty
  | none => false

end NodeSync.Http
