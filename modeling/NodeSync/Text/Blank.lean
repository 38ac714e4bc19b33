/-
Module: NodeSync.Text.Blank
Purpose: White space as the Unicode property `White_Space` has it, and the trimming of texts. White
  space put in front of a text or after it does not change what trimming leaves.
Main exports: isBlank, trimList, isBlankText, trimList_append_left, trimList_append_right
-/
namespace NodeSync.Text

set_option autoImplicit false

/-- The characters with the property `White_Space`. -/
def isBlank (c : Char) : Bool :=
  let code := c.toNat
  (9 ≤ code && code ≤ 13) || code == 0x20 || code == 0x85 || code == 0xA0 || code == 0x1680 ||
    (0x2000 ≤ code && code ≤ 0x200A) || code == 0x2028 || code == 0x2029 || code == 0x202F ||
    code == 0x205F || code == 0x3000

/-- Drops the white space before the first other character and after the last one. -/
def trimList (cs : List Char) : List Char :=
  ((cs.dropWhile isBlank).reverse.dropWhile isBlank).reverse

/-- Whether a text is white space throughout. -/
def isBlankText (s : String) : Bool := s.toList.all isBlank

theorem dropWhile_append_of_all {p : Char → Bool} {front : List Char} (h : front.all p = true)
    (rest : List Char) : (front ++ rest).dropWhile p = rest.dropWhile p := by
  induction front with
  | nil => rfl
  | cons c front ih =>
      rw [List.all_cons, Bool.and_eq_true] at h
      rw [List.cons_append, List.dropWhile_cons, if_pos h.1]
      exact ih h.2

/-- White space in front of a text is trimmed away. -/
theorem trimList_append_left {front : List Char} (h : front.all isBlank = true)
    (cs : List Char) : trimList (front ++ cs) = trimList cs := by
  rw [trimList, dropWhile_append_of_all h, trimList]

theorem dropWhile_append_of_not_all {p : Char → Bool} {front : List Char}
    (h : front.all p = false) (rest : List Char) :
    (front ++ rest).dropWhile p = front.dropWhile p ++ rest := by
  induction front with
  | nil => cases h
  | cons c front ih =>
      cases hc : p c with
      | true =>
          rw [List.all_cons, hc, Bool.true_and] at h
          rw [List.cons_append, List.dropWhile_cons, List.dropWhile_cons, hc]
          exact ih h
      | false => simp [hc]

theorem dropWhile_eq_nil {p : Char → Bool} {cs : List Char} (h : cs.all p = true) :
    cs.dropWhile p = [] := by
  have := dropWhile_append_of_all h []
  simpa using this

/-- White space after a text is trimmed away. -/
theorem trimList_append_right {back : List Char} (h : back.all isBlank = true)
    (cs : List Char) : trimList (cs ++ back) = trimList cs := by
  cases blank : cs.all isBlank with
  | true =>
      have whole : (cs ++ back).all isBlank = true := by simp [h, blank]
      rw [trimList, trimList, dropWhile_eq_nil whole, dropWhile_eq_nil blank]
  | false =>
      rw [trimList, trimList, dropWhile_append_of_not_all blank, List.reverse_append,
        dropWhile_append_of_all (by simpa using h)]

end NodeSync.Text
