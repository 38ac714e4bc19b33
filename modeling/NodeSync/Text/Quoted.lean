/-
Module: NodeSync.Text.Quoted
Purpose: Quoted texts: a text between double quotes in which the quote, the backslash and the
  characters that would not show are escaped.
Main exports: quoted
-/
import NodeSync.Text.Numeral
import NodeSync.Text.Unprintable

namespace NodeSync.Text

set_option autoImplicit false

/-- The written form of one character inside the quotes. -/
def escapeChar (c : Char) : List Char :=
  if c = '"' then ['\\', '"']
  else if c = '\\' then ['\\', '\\']
  else if c = '\x00' then ['\\', '0']
  else if c = '\t' then ['\\', 't']
  else if c = '\n' then ['\\', 'n']
  else if c = '\r' then ['\\', 'r']
  else if isUnprintable c then "\\u\x7b".toList ++ (hexadecimal c.toNat).toList ++ "\x7d".toList
  else [c]

/-- A text between double quotes. -/
def quoted (s : String) : String :=
  String.ofList (['"'] ++ s.toList.flatMap escapeChar ++ ['"'])

end NodeSync.Text
