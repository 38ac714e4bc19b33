/-
Module: NodeSync.Proofs.Text.Blank
Purpose: What trimming leaves of a text: the part that begins and ends with other characters than
  white space, or nothing, where only white space stands around it.
Main exports: Trimmed, trimList_eq_iff
-/
import NodeSync.Proofs.Text.Numeral
import NodeSync.Text.Blank

namespace NodeSync.Text

set_option autoImplicit false

/-- No digit is white space, so numerals are not cut short. -/
theorem isBlank_of_isDigit {c : Char} (digit : isDigit c = true) : isBlank c = false := by
  have bounds : 48 ≤ c.toNat ∧ c.toNat ≤ 57 := by
    rw [isDigit_eq, Char.isDigit] at digit
    simpa [UInt32.le_iff_toNat_le] using digit
  simp [isBlank]
  omega

/-- One text is what is left of another one without the white space around it. -/
structure Trimmed (whole core : List Char) : Prop where
  around : ∃ front back, whole = front ++ core ++ back ∧
    front.all isBlank = true ∧ back.all isBlank = true
  first : ∀ c, core.head? = some c → isBlank c = false
  last : ∀ c, core.getLast? = some c → isBlank c = false

section Trimming

variable {whole core : List Char}

theorem dropWhile_isBlank_eq_self (first : ∀ c, core.head? = some c → isBlank c = false) :
    core.dropWhile isBlank = core := by
  cases core with
  | nil => rfl
  | cons c rest => rw [List.dropWhile_cons_of_neg (by simp [first c rfl])]

/-- A text with no white space at its ends is left as it is. -/
theorem trimList_eq_self (first : ∀ c, core.head? = some c → isBlank c = false)
    (last : ∀ c, core.getLast? = some c → isBlank c = false) : trimList core = core := by
  rw [trimList, dropWhile_isBlank_eq_self first, dropWhile_isBlank_eq_self, List.reverse_reverse]
  simpa using last

theorem isBlank_of_head?_dropWhile {c : Char} (cs : List Char)
    (head : (cs.dropWhile isBlank).head? = some c) : isBlank c = false := by
  have first := List.head?_dropWhile_not isBlank cs
  rw [head] at first
  simpa using first

/-- Trimming takes white space away from the ends, and all of it. -/
theorem trimmed_trimList (whole : List Char) : Trimmed whole (trimList whole) := by
  have split : whole.dropWhile isBlank =
      trimList whole ++ ((whole.dropWhile isBlank).reverse.takeWhile isBlank).reverse := by
    rw [trimList, ← List.reverse_append, List.takeWhile_append_dropWhile, List.reverse_reverse]
  refine ⟨⟨whole.takeWhile isBlank, ((whole.dropWhile isBlank).reverse.takeWhile isBlank).reverse,
    ?_, List.all_takeWhile, ?_⟩, ?_, ?_⟩
  · rw [List.append_assoc, ← split, List.takeWhile_append_dropWhile]
  · rw [List.all_reverse]
    exact List.all_takeWhile
  · intro c head
    apply isBlank_of_head?_dropWhile whole
    rw [split, List.head?_append, head]
    rfl
  · intro c last
    rw [trimList, List.getLast?_reverse] at last
    exact isBlank_of_head?_dropWhile _ last

/-- Trimming leaves the one text that stands between white space and has none at its ends. -/
theorem trimList_eq_iff : trimList whole = core ↔ Trimmed whole core := by
  constructor
  · rintro rfl
    exact trimmed_trimList whole
  · rintro ⟨⟨front, back, rfl, before, after⟩, first, last⟩
    rw [trimList_append_right after, trimList_append_left before, trimList_eq_self first last]

end Trimming

end NodeSync.Text
