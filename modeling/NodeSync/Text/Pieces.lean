/-
Module: NodeSync.Text.Pieces
Purpose: Cutting a text at a character: into all pieces between its occurrences, or into the parts
  before and after the first one. No piece holds the character, and the two parts make up the
  text.
Main exports: pieces, splitFirst?, splitFirst?_eq_some_iff
-/
namespace NodeSync.Text

set_option autoImplicit false

/-- The pieces of a text between separators, one more than there are separators. -/
def pieces (separator : Char) : List Char → List (List Char)
  | [] => [[]]
  | c :: rest =>
      if c = separator then [] :: pieces separator rest
      else
        match pieces separator rest with
        | [] => [[c]]
        | piece :: later => (c :: piece) :: later

/-- The parts before and after the first separator. -/
def splitFirst? (separator : Char) : List Char → Option (List Char × List Char)
  | [] => none
  | c :: rest =>
      if c = separator then some ([], rest)
      else (splitFirst? separator rest).map fun parts => (c :: parts.1, parts.2)

theorem pieces_ne_nil (separator : Char) (cs : List Char) : pieces separator cs ≠ [] := by
  cases cs with
  | nil => simp [pieces]
  | cons c rest =>
      rw [pieces]
      split
      · simp
      · split <;> simp

/-- No piece holds a separator. -/
theorem not_mem_of_mem_pieces {separator : Char} {cs piece : List Char}
    (h : piece ∈ pieces separator cs) : separator ∉ piece := by
  induction cs generalizing piece with
  | nil =>
      rw [pieces, List.mem_singleton] at h
      simp [h]
  | cons c rest ih =>
      rw [pieces] at h
      split at h
      · rcases List.mem_cons.mp h with first | later
        · simp [first]
        · exact ih later
      · rename_i other
        cases whole : pieces separator rest with
        | nil => exact absurd whole (pieces_ne_nil separator rest)
        | cons head tail =>
            rw [whole] at h ih
            rcases List.mem_cons.mp h with first | later
            · subst first
              simp [Ne.symm other, ih]
            · exact ih (List.mem_cons_of_mem _ later)

/-- A text is cut at its first separator and nowhere else. -/
theorem splitFirst?_eq_some_iff {separator : Char} {cs before after : List Char} :
    splitFirst? separator cs = some (before, after) ↔
      cs = before ++ separator :: after ∧ separator ∉ before := by
  induction cs generalizing before with
  | nil => simp [splitFirst?]
  | cons c rest ih =>
      rw [splitFirst?]
      by_cases same : c = separator
      · subst same
        cases before with
        | nil => simp [eq_comm]
        | cons d before =>
            simp only [if_true, Option.some.injEq, Prod.mk.injEq]
            constructor
            · rintro ⟨impossible, _⟩
              cases impossible
            · rintro ⟨equal, different⟩
              simp only [List.cons_append, List.cons.injEq] at equal
              exact absurd (List.mem_cons.mpr (.inl equal.1)) different
      · rw [if_neg same, Option.map_eq_some_iff]
        constructor
        · rintro ⟨⟨front, back⟩, found, equal⟩
          cases equal
          obtain ⟨rfl, different⟩ := ih.mp found
          exact ⟨rfl, by simp [Ne.symm same, different]⟩
        · rintro ⟨equal, different⟩
          cases before with
          | nil =>
              simp only [List.nil_append, List.cons.injEq] at equal
              exact absurd equal.1 same
          | cons d before =>
              simp only [List.cons_append, List.cons.injEq] at equal
              obtain ⟨rfl, rest_eq⟩ := equal
              exact ⟨(before, after),
                ih.mpr ⟨rest_eq, fun inside => different (List.mem_cons_of_mem _ inside)⟩, rfl⟩

end NodeSync.Text
