/-
Module: NodeSync.Proofs.Json.Lexed
Purpose: The tokens of a printed value. A text is taken apart at its delimiters: if the pieces
  between them have their tokens, so has the whole. What stands between the quotes of a printed text
  is the text again.
Main exports: Json.tokens, Lexes, Lexes.join, lexes_printText, Json.lasts, Json.tokens?_print
-/
import NodeSync.Proofs.Json.Numeral

namespace NodeSync

open NodeSync.Text NodeSync.Json

set_option autoImplicit false

/-! ## The tokens of a value -/

namespace Json

mutual

/-- The tokens of a value. -/
def tokens : Json → List Token
  | .null => [.word .null]
  | .bool value => [.word (.bool value)]
  | .number value => [.word (.number value)]
  | .string value => [.text (some value)]
  | .array items => .openArray :: (itemTokens items ++ [.closeArray])
  | .object fields => .openObject :: (fieldTokens fields ++ [.closeObject])

/-- The tokens of the items of an array. -/
def itemTokens : List Json → List Token
  | [] => []
  | [item] => item.tokens
  | item :: next :: rest => item.tokens ++ .comma :: itemTokens (next :: rest)

/-- The tokens of the fields of an object. -/
def fieldTokens : List (String × Json) → List Token
  | [] => []
  | [(name, value)] => .text (some name) :: .colon :: value.tokens
  | (name, value) :: next :: rest =>
      (.text (some name) :: .colon :: value.tokens) ++ .comma :: fieldTokens (next :: rest)

end

mutual

/-- Whether every number in a value is lasting. -/
def lasts : Json → Bool
  | .number value => value.IsLasting
  | .array items => itemsLast items
  | .object fields => fieldsLast fields
  | _ => true

/-- Whether every number in the items of an array is lasting. -/
def itemsLast : List Json → Bool
  | [] => true
  | item :: rest => lasts item && itemsLast rest

/-- Whether every number in the fields of an object is lasting. -/
def fieldsLast : List (String × Json) → Bool
  | [] => true
  | (_, value) :: rest => lasts value && fieldsLast rest

end

mutual

/-- Where all numbers are lasting, a value is not changed on its way. -/
theorem transferred_eq : ∀ {value : Json}, value.lasts = true → value.transferred = value
  | .null, _ => rfl
  | .bool _, _ => rfl
  | .number value, lasting => by
      rw [transferred, Number.IsLasting.transferred (of_decide_eq_true lasting)]
  | .string _, _ => rfl
  | .array _, lasting => by rw [transferred, transferredItems_eq lasting]
  | .object _, lasting => by rw [transferred, transferredFields_eq lasting]

/-- Nor are the items of an array. -/
theorem transferredItems_eq : ∀ {items : List Json}, itemsLast items = true →
    transferredItems items = items
  | [], _ => rfl
  | _ :: _, lasting => by
      obtain ⟨first, others⟩ := Bool.and_eq_true_iff.mp lasting
      rw [transferredItems, transferred_eq first, transferredItems_eq others]

/-- Nor are the fields of an object. -/
theorem transferredFields_eq : ∀ {fields : List (String × Json)}, fieldsLast fields = true →
    transferredFields fields = fields
  | [], _ => rfl
  | (_, _) :: _, lasting => by
      obtain ⟨first, others⟩ := Bool.and_eq_true_iff.mp lasting
      rw [transferredFields, transferred_eq first, transferredFields_eq others]

end

/-! ## Taking a text apart -/

/-- The tokens that were read, last first. A word is one of them before its end was seen. -/
inductive Lexer.Has : Lexer → List Token → Prop
  | between (tokens : List Token) : Has ⟨tokens, .nothing⟩ tokens
  | inWord {reversed : List Char} {value : Document} (tokens : List Token)
      (known : word? reversed.reverse = some value) :
      Has ⟨tokens, .word reversed⟩ (.word value :: tokens)

/-- A text has these tokens, whatever was read before it. -/
def Lexes (cs : List Char) (found : List Token) : Prop :=
  ∀ tokens, ∃ lexer, cs.foldlM Lexer.step ⟨tokens, .nothing⟩ = some lexer ∧
    lexer.Has (found.reverse ++ tokens)

section Apart

variable {lexer : Lexer} {cs rest : List Char} {found others tokens : List Token} {c : Char}
  {token : Token}

theorem Lexer.Has.finish? (has : lexer.Has tokens) : lexer.finish? = some tokens.reverse := by
  cases has with
  | between => rfl
  | inWord tokens known =>
      simp only [Lexer.finish?, known]
      rfl

/-- At a delimiter no word is left unfinished. -/
theorem Lexer.Has.step (has : lexer.Has tokens) (delimiter : delimiter? c = some token) :
    lexer.step c = some ⟨token :: tokens, .nothing⟩ := by
  have outside : ¬(isSpace c = true) ∧ c ≠ '"' := by
    unfold delimiter? at delimiter
    split at delimiter <;> first | decide | cases delimiter
  have start (tokens : List Token) : Lexer.start tokens c = ⟨token :: tokens, .nothing⟩ := by
    rw [Lexer.start, if_neg outside.1, if_neg outside.2, delimiter]
  cases has with
  | between => exact congrArg some (start tokens)
  | inWord tokens known =>
      have ends : (isSpace c || c = '"' || (delimiter? c).isSome) = true := by simp [delimiter]
      simp only [Lexer.step, if_pos ends, known, Option.map_some, start]

theorem lexes_nil : Lexes [] [] := fun tokens => ⟨_, rfl, .between tokens⟩

/-- Two texts with a delimiter between them. -/
theorem Lexes.join (first : Lexes cs found) (delimiter : delimiter? c = some token)
    (second : Lexes rest others) : Lexes (cs ++ c :: rest) (found ++ token :: others) := by
  intro tokens
  obtain ⟨lexer, read, has⟩ := first tokens
  obtain ⟨last, readRest, hasAll⟩ := second (token :: (found.reverse ++ tokens))
  refine ⟨last, ?_, by simpa using hasAll⟩
  rw [List.foldlM_append, read]
  exact (congrArg (Option.bind · _) (has.step delimiter)).trans readRest

/-- A text between two delimiters. -/
theorem Lexes.enclose {opening closing : Char} {first last : Token} (inner : Lexes cs found)
    (opens : delimiter? opening = some first) (closes : delimiter? closing = some last) :
    Lexes (opening :: (cs ++ [closing])) (first :: (found ++ [last])) :=
  lexes_nil.join opens (inner.join closes lexes_nil)

theorem tokens?_of_lexes (lexes : Lexes cs found) : tokens? cs = some found := by
  obtain ⟨lexer, read, has⟩ := lexes []
  rw [tokens?, read, Option.bind_some, has.finish?]
  simp

end Apart

/-! ## Words -/

theorem foldlM_word {rest : List Char} (whole : rest.any endsWord = false)
    (tokens : List Token) (reversed : List Char) :
    rest.foldlM Lexer.step ⟨tokens, .word reversed⟩ =
      some ⟨tokens, .word (rest.reverse ++ reversed)⟩ := by
  induction rest generalizing reversed with
  | nil => rfl
  | cons c rest ih =>
      obtain ⟨first, others⟩ := Bool.or_eq_false_iff.mp whole
      have step : Lexer.step ⟨tokens, .word reversed⟩ c = some ⟨tokens, .word (c :: reversed)⟩ := by
        rw [Lexer.step]
        exact if_neg (Bool.eq_false_iff.mp first)
      rw [List.foldlM_cons, step]
      exact (ih others (c :: reversed)).trans (by simp)

/-- A word without a character that ends it. -/
theorem lexes_word {cs : List Char} {value : Document} (filled : cs ≠ [])
    (whole : cs.any endsWord = false) (known : word? cs = some value) :
    Lexes cs [.word value] := by
  intro tokens
  obtain ⟨c, rest, rfl⟩ := List.exists_cons_of_ne_nil filled
  obtain ⟨first, others⟩ := Bool.or_eq_false_iff.mp whole
  simp only [endsWord, Bool.or_eq_false_iff, decide_eq_false_iff_not] at first
  have start : Lexer.start tokens c = ⟨tokens, .word [c]⟩ := by
    rw [Lexer.start, if_neg (Bool.eq_false_iff.mp first.1.1), if_neg first.1.2,
      Option.not_isSome_iff_eq_none.mp (Bool.eq_false_iff.mp first.2)]
  refine ⟨⟨tokens, .word (rest.reverse ++ [c])⟩, ?_, .inWord tokens (by simpa using known)⟩
  rw [List.foldlM_cons, Lexer.step, start]
  exact foldlM_word others tokens [c]

/-! ## Texts -/

/-- The digits of the escape of a control character. -/
theorem zeroPadded_hex : ∀ code < 0x20, ∃ high low : Char,
    zeroPadded 4 (Nat.toDigits 16 code) = ['0', '0', high, low] ∧
      hexDigitValue? high = some (code / 16) ∧ hexDigitValue? low = some (code % 16) := by
  have digits : ∀ code < 0x20,
      zeroPadded 4 (Nat.toDigits 16 code) =
          ['0', '0', Nat.digitChar (code / 16), Nat.digitChar (code % 16)] ∧
        hexDigitValue? (Nat.digitChar (code / 16)) = some (code / 16) ∧
        hexDigitValue? (Nat.digitChar (code % 16)) = some (code % 16) := by decide
  exact fun code control => ⟨_, _, digits code control⟩

/-- The written form of a character is read as the character. -/
theorem foldlM_escapeChar (c : Char) (tokens : List Token) (reversed : List Nat) :
    (Json.escapeChar c).foldlM Lexer.step ⟨tokens, .text reversed⟩ =
      some ⟨tokens, .text (c.toNat :: reversed)⟩ := by
  unfold Json.escapeChar
  by_cases short : c ∈ ['"', '\\', '\n', '\r', '\t', '\x08', '\x0c']
  · simp only [List.mem_cons, List.not_mem_nil, or_false] at short
    rcases short with rfl | rfl | rfl | rfl | rfl | rfl | rfl <;> rfl
  · simp only [List.mem_cons, List.not_mem_nil, or_false, not_or] at short
    obtain ⟨quote, backslash, newline, return', tab, backspace, feed⟩ := short
    simp only [quote, backslash, newline, return', tab, backspace, feed, if_false]
    by_cases control : c.toNat < 0x20
    · obtain ⟨high, low, digits, highValue, lowValue⟩ := zeroPadded_hex c.toNat control
      have code : c.toNat / 16 * 16 + c.toNat % 16 = c.toNat := by omega
      have zero : hexDigitValue? '0' = some 0 := by decide
      simp [control, digits, Lexer.step, zero, highValue, lowValue, code]
    · simp [control, Lexer.step, quote, backslash]

theorem foldlM_escaped (cs : List Char) (tokens : List Token) (reversed : List Nat) :
    (cs.flatMap Json.escapeChar).foldlM Lexer.step ⟨tokens, .text reversed⟩ =
      some ⟨tokens, .text ((cs.map Char.toNat).reverse ++ reversed)⟩ := by
  induction cs generalizing reversed with
  | nil => rfl
  | cons c rest ih =>
      rw [List.flatMap_cons, List.foldlM_append, foldlM_escapeChar]
      exact (ih (c.toNat :: reversed)).trans (by simp)

/-- A character is no half of a pair. -/
theorem not_surrogate (c : Char) :
    isHighSurrogate c.toNat = false ∧ isLowSurrogate c.toNat = false := by
  have valid : c.toNat < 0xD800 ∨ 0xDFFF < c.toNat ∧ c.toNat < 0x110000 := c.valid
  simp only [isHighSurrogate, isLowSurrogate, Bool.and_eq_false_iff, decide_eq_false_iff_not]
  omega

theorem joinSurrogates?_map : ∀ cs : List Char, joinSurrogates? (cs.map Char.toNat) = some cs
  | [] => rfl
  | [c] => by
      obtain ⟨high, low⟩ := not_surrogate c
      simp [joinSurrogates?, high, low]
  | c :: next :: rest => by
      obtain ⟨high, low⟩ := not_surrogate c
      have others := joinSurrogates?_map (next :: rest)
      rw [List.map_cons] at others
      simp [joinSurrogates?, high, low, others]

/-- A printed text is one token, which says the text. -/
theorem lexes_printText (s : String) : Lexes (printText s).toList [.text (some s)] := by
  intro tokens
  refine ⟨⟨.text (some s) :: tokens, .nothing⟩, ?_, .between _⟩
  have opened : Lexer.step ⟨tokens, .nothing⟩ '"' = some ⟨tokens, .text []⟩ := rfl
  have closed : Lexer.step ⟨tokens, .text (s.toList.map Char.toNat).reverse⟩ '"' =
      some ⟨.text (some s) :: tokens, .nothing⟩ := by
    simp [Lexer.step, textToken, joinSurrogates?_map]
  rw [printText, String.toList_ofList, List.append_assoc]
  simp [opened, foldlM_escaped, closed]

/-! ## Printed values -/

theorem toList_fieldText (name : String) (value : Json) :
    (printText name ++ ":" ++ value.print).toList =
      (printText name).toList ++ ':' :: value.print.toList := by
  simp

theorem toList_join (first : String) (texts : List String) (filled : texts ≠ []) :
    (",".intercalate (first :: texts)).toList =
      first.toList ++ ',' :: (",".intercalate texts).toList := by
  obtain ⟨next, rest, rfl⟩ := List.exists_cons_of_ne_nil filled
  simp [String.toList_intercalate]

mutual

/-- A value is printed as its tokens. -/
theorem lexes_print : ∀ {value : Json}, value.lasts = true → Lexes value.print.toList value.tokens
  | .null, _ => lexes_word (by decide) (by decide) rfl
  | .bool true, _ => lexes_word (by decide) (by decide) rfl
  | .bool false, _ => lexes_word (by decide) (by decide) rfl
  | .number _, lasting => by
      have lasting := of_decide_eq_true lasting
      exact lexes_word lasting.print_ne_nil lasting.any_endsWord lasting.word?
  | .string value, _ => lexes_printText value
  | .array items, lasting => by
      have inner : Lexes ('[' :: (_ ++ [']']))
          (.openArray :: (itemTokens items ++ [.closeArray])) :=
        (lexes_printItems lasting).enclose rfl rfl
      simpa [print, tokens] using inner
  | .object fields, lasting => by
      have inner : Lexes ('\x7b' :: (_ ++ ['\x7d']))
          (.openObject :: (fieldTokens fields ++ [.closeObject])) :=
        (lexes_printFields lasting).enclose rfl rfl
      simpa [print, tokens] using inner

/-- So are the items of an array. -/
theorem lexes_printItems : ∀ {items : List Json}, itemsLast items = true →
    Lexes (",".intercalate (printItems items)).toList (itemTokens items)
  | [], _ => lexes_nil
  | [_], lasting => by
      have own := lexes_print (Bool.and_eq_true_iff.mp lasting).1
      simpa [printItems, itemTokens] using own
  | item :: next :: rest, lasting => by
      obtain ⟨first, others⟩ := Bool.and_eq_true_iff.mp lasting
      rw [printItems, toList_join item.print (printItems (next :: rest)) (List.cons_ne_nil _ _),
        itemTokens]
      exact (lexes_print first).join rfl (lexes_printItems others)

/-- So are the fields of an object. -/
theorem lexes_printFields : ∀ {fields : List (String × Json)}, fieldsLast fields = true →
    Lexes (",".intercalate (printFields fields)).toList (fieldTokens fields)
  | [], _ => lexes_nil
  | [(name, value)], lasting => by
      have own := (lexes_printText name).join (c := ':') rfl
        (lexes_print (Bool.and_eq_true_iff.mp lasting).1)
      simpa [printFields, fieldTokens] using own
  | (name, value) :: next :: rest, lasting => by
      obtain ⟨first, others⟩ := Bool.and_eq_true_iff.mp lasting
      have own := (lexes_printText name).join (c := ':') rfl (lexes_print first)
      rw [printFields, toList_join _ (printFields (next :: rest)) (List.cons_ne_nil _ _),
        toList_fieldText, fieldTokens]
      exact own.join rfl (lexes_printFields others)

end

theorem tokens?_print {value : Json} (lasting : value.lasts = true) :
    tokens? value.print.toList = some value.tokens :=
  tokens?_of_lexes (lexes_print lasting)

end Json

end NodeSync
