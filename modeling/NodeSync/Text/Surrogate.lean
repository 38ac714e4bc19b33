/-
Module: NodeSync.Text.Surrogate
Purpose: Text from code points, of which those above U+FFFF may be given by a pair of surrogates.
Main exports: isHighSurrogate, isLowSurrogate, joinSurrogates?
-/
namespace NodeSync.Text

set_option autoImplicit false

/-- The first half of a pair. -/
def isHighSurrogate (code : Nat) : Bool := 0xD800 ≤ code && code ≤ 0xDBFF

/-- The second half of a pair. -/
def isLowSurrogate (code : Nat) : Bool := 0xDC00 ≤ code && code ≤ 0xDFFF

/-- The character that a pair of surrogates stands for. -/
def ofSurrogates (high low : Nat) : Char :=
  Char.ofNat (0x10000 + (high - 0xD800) * 0x400 + (low - 0xDC00))

/-- The characters of a list of code points; there are none if a surrogate stands without its other
half. -/
def joinSurrogates? : List Nat → Option (List Char)
  | [] => some []
  | high :: low :: rest =>
      if isHighSurrogate high && isLowSurrogate low then
        (joinSurrogates? rest).map (ofSurrogates high low :: ·)
      else if isHighSurrogate high || isLowSurrogate high then none
      else (joinSurrogates? (low :: rest)).map (Char.ofNat high :: ·)
  | [code] =>
      if isHighSurrogate code || isLowSurrogate code then none else some [Char.ofNat code]

end NodeSync.Text
