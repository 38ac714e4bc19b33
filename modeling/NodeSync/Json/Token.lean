/-
Module: NodeSync.Json.Token
Purpose: Splitting a JSON text into tokens by one pass over its characters. Text between double
  quotes is unescaped on the way; every other run of characters between delimiters is a word,
  which has to be `null`, `true`, `false` or a number.
Main exports: Token, tokens?
-/
import NodeSync.Json.Document
import NodeSync.Json.Numeral
import NodeSync.Text.Surrogate

namespace NodeSync.Json

open NodeSync.Text

set_option autoImplicit false

/-- The smallest parts of a JSON text. -/
inductive Token where
  | openObject
  | closeObject
  | openArray
  | closeArray
  | colon
  | comma
  /-- A text, missing where its escapes make up no Unicode. -/
  | text (value : Option String)
  | word (value : Document)
deriving Inhabited

/-- The white space between tokens. -/
def isSpace (c : Char) : Bool := c == ' ' || c == '\t' || c == '\n' || c == '\r'

/-- The token that a delimiter is by itself. -/
def delimiter? : Char → Option Token
  | '\x7b' => some .openObject
  | '\x7d' => some .closeObject
  | '[' => some .openArray
  | ']' => some .closeArray
  | ':' => some .colon
  | ',' => some .comma
  | _ => none

/-- What a word says; a number beyond double precision has no value. -/
def word? (cs : List Char) : Option Document :=
  if cs = "null".toList then some .null
  else if cs = "true".toList then some (.bool true)
  else if cs = "false".toList then some (.bool false)
  else (Numeral.read? cs).map fun numeral =>
    match numeral.number? with
    | some value => .number value
    | none => .unreadable

/-- What the characters since the last finished token have been. Texts are gathered as code points,
for an escape may be one half of a pair of surrogates. -/
inductive Pending where
  | nothing
  | word (reversed : List Char)
  | text (reversed : List Nat)
  /-- A text, just after a backslash. -/
  | escape (reversed : List Nat)
  /-- A text, inside the four hexadecimal digits of an escape. -/
  | code (reversed : List Nat) (value : Nat) (missing : Nat)
deriving Inhabited

/-- The reading of a text so far: finished tokens, last first, and the unfinished one. -/
structure Lexer where
  reversed : List Token
  pending : Pending
deriving Inhabited

/-- The character of a one-letter escape. -/
def shortEscape? : Char → Option Char
  | '"' => some '"'
  | '\\' => some '\\'
  | '/' => some '/'
  | 'b' => some '\x08'
  | 'f' => some '\x0c'
  | 'n' => some '\n'
  | 'r' => some '\r'
  | 't' => some '\t'
  | _ => none

/-- The text of the code points between two quotes. -/
def textToken (reversed : List Nat) : Token :=
  .text ((joinSurrogates? reversed.reverse).map String.ofList)

/-- Reads one character between tokens. -/
def Lexer.start (tokens : List Token) (c : Char) : Lexer :=
  if isSpace c then ⟨tokens, .nothing⟩
  else if c = '"' then ⟨tokens, .text []⟩
  else
    match delimiter? c with
    | some token => ⟨token :: tokens, .nothing⟩
    | none => ⟨tokens, .word [c]⟩

/-- Reads one character. -/
def Lexer.step (lexer : Lexer) (c : Char) : Option Lexer :=
  match lexer.pending with
  | .nothing => some (Lexer.start lexer.reversed c)
  | .word reversed =>
      if isSpace c || c = '"' || (delimiter? c).isSome then
        (word? reversed.reverse).map fun value => Lexer.start (.word value :: lexer.reversed) c
      else some ⟨lexer.reversed, .word (c :: reversed)⟩
  | .text reversed =>
      if c = '"' then some ⟨textToken reversed :: lexer.reversed, .nothing⟩
      else if c = '\\' then some ⟨lexer.reversed, .escape reversed⟩
      else if c.toNat < 0x20 then none
      else some ⟨lexer.reversed, .text (c.toNat :: reversed)⟩
  | .escape reversed =>
      if c = 'u' then some ⟨lexer.reversed, .code reversed 0 4⟩
      else (shortEscape? c).map fun plain => ⟨lexer.reversed, .text (plain.toNat :: reversed)⟩
  | .code reversed value missing =>
      (hexDigitValue? c).map fun digit =>
        let next := value * 16 + digit
        if missing ≤ 1 then ⟨lexer.reversed, .text (next :: reversed)⟩
        else ⟨lexer.reversed, .code reversed next (missing - 1)⟩

/-- The tokens of a text, unless its last one is unfinished. -/
def Lexer.finish? (lexer : Lexer) : Option (List Token) :=
  match lexer.pending with
  | .nothing => some lexer.reversed.reverse
  | .word reversed =>
      (word? reversed.reverse).map fun value => (Token.word value :: lexer.reversed).reverse
  | _ => none

/-- The tokens of a JSON text; `none` if it has a malformed one. -/
def tokens? (cs : List Char) : Option (List Token) :=
  (cs.foldlM Lexer.step ⟨[], .nothing⟩).bind Lexer.finish?

end NodeSync.Json
