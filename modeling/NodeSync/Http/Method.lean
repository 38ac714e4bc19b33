/-
Module: NodeSync.Http.Method
Purpose: The methods of HTTP requests. Only the methods that read something are told apart by
  themselves.
Main exports: Method, Method.read?
-/
namespace NodeSync.Http

set_option autoImplicit false

/-- What a request wants done. -/
inductive Method where
  | get
  /-- Like `get`, but without the content. -/
  | head
  | other (name : String)
deriving Repr, Inhabited, DecidableEq

namespace Method

/-- Whether a character may stand in the name of a method. -/
def isNameChar (c : Char) : Bool := c.isAlphanum || "!#$%&'*+-.^_|~\x60".toList.contains c

/-- The method of a given name; a name with other characters, or none, is no method. -/
def read? (name : String) : Option Method :=
  if name = "GET" then some .get
  else if name = "HEAD" then some .head
  else if name ≠ "" ∧ name.toList.all isNameChar then some (.other name)
  else none

end Method

end NodeSync.Http
