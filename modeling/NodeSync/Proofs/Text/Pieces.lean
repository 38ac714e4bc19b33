/-
Module: NodeSync.Proofs.Text.Pieces
Purpose: Cutting what was joined: the pieces of joined texts are the pieces of the texts, and
  lines are the pieces between the ends of lines. A piece is told by where it stands in the text.
Main exports: pieces_of_not_mem, pieces_append_separator, pieces_intercalate, pieces_flatMap,
  IsPiece, mem_pieces_iff
-/
import NodeSync.Text.Pieces

namespace NodeSync.Text

set_option autoImplicit false

theorem pieces_of_not_mem {separator : Char} {cs : List Char} (h : separator ∉ cs) :
    pieces separator cs = [cs] := by
  induction cs with
  | nil => rfl
  | cons c rest ih =>
      rw [List.mem_cons, not_or] at h
      obtain ⟨other, within⟩ := h
      rw [pieces, if_neg (Ne.symm other), ih within]

/-- A separator parts the pieces before it from those after it. -/
theorem pieces_append_separator (separator : Char) (front back : List Char) :
    pieces separator (front ++ separator :: back) =
      pieces separator front ++ pieces separator back := by
  induction front with
  | nil => simp [pieces]
  | cons c rest ih =>
      rw [List.cons_append, pieces, ih, pieces]
      split
      · rfl
      · cases whole : pieces separator rest with
        | nil => exact absurd whole (pieces_ne_nil separator rest)
        | cons piece later => rfl

/-- The pieces of joined texts are the pieces of the texts. -/
theorem pieces_intercalate {separator : Char} {parts : List (List Char)} (h : parts ≠ []) :
    pieces separator ([separator].intercalate parts) = parts.flatMap (pieces separator) := by
  induction parts with
  | nil => exact absurd rfl h
  | cons part rest ih =>
      cases rest with
      | nil => simp
      | cons next others =>
          rw [List.intercalate_cons_cons, List.append_assoc, List.singleton_append,
            pieces_append_separator, ih (List.cons_ne_nil next others)]
          rfl

/-- Texts that each end with the separator are cut into themselves. Nothing is left after the last
one. -/
theorem pieces_flatMap {separator : Char} {lines : List (List Char)}
    (whole : ∀ line ∈ lines, separator ∉ line) :
    pieces separator (lines.flatMap (· ++ [separator])) = lines ++ [[]] := by
  induction lines with
  | nil => rfl
  | cons line rest ih =>
      obtain ⟨first, others⟩ := List.forall_mem_cons.mp whole
      rw [List.flatMap_cons, List.append_assoc, List.singleton_append, pieces_append_separator,
        pieces_of_not_mem first, ih others]
      rfl

/-! ## Pieces by where they stand -/

/-- A text is a piece of another one if it holds no separator and stands between two of them. The
ends of the whole count as separators. -/
def IsPiece (separator : Char) (piece whole : List Char) : Prop :=
  separator ∉ piece ∧ separator :: piece ++ [separator] <:+: separator :: whole ++ [separator]

instance (separator : Char) (piece whole : List Char) : Decidable (IsPiece separator piece whole) :=
  inferInstanceAs (Decidable (_ ∧ _))

/-- With a separator in front of each, the pieces make up the text with one in front of it. -/
theorem flatMap_pieces (separator : Char) (cs : List Char) :
    (pieces separator cs).flatMap (separator :: ·) = separator :: cs := by
  induction cs with
  | nil => rfl
  | cons c rest ih =>
      rw [pieces]
      split
      · rename_i same
        rw [List.flatMap_cons, ih, same]
        rfl
      · cases whole : pieces separator rest with
        | nil => exact absurd whole (pieces_ne_nil separator rest)
        | cons piece later =>
            rw [whole, List.flatMap_cons, List.cons_append, List.cons.injEq] at ih
            rw [List.flatMap_cons, List.cons_append, List.cons_append, ih.2]

/-- A piece stands between two separators, or at an end of the text. -/
theorem isPiece_of_mem_pieces {separator : Char} {piece whole : List Char}
    (member : piece ∈ pieces separator whole) : IsPiece separator piece whole := by
  refine ⟨not_mem_of_mem_pieces member, ?_⟩
  obtain ⟨before, after, cut⟩ := List.append_of_mem member
  -- A separator stands in front of each later piece, and behind the last one.
  obtain ⟨rest, followed⟩ :
      ∃ rest, after.flatMap (separator :: ·) ++ [separator] = separator :: rest := by
    cases after <;> exact ⟨_, rfl⟩
  refine ⟨before.flatMap (separator :: ·), rest, ?_⟩
  calc before.flatMap (separator :: ·) ++ (separator :: piece ++ [separator]) ++ rest
      = before.flatMap (separator :: ·) ++ (separator :: piece) ++ separator :: rest := by simp
    _ = (before ++ piece :: after).flatMap (separator :: ·) ++ [separator] := by
        rw [← followed, List.flatMap_append, List.flatMap_cons]
        simp
    _ = separator :: whole ++ [separator] := by rw [← cut, flatMap_pieces]

theorem mem_pieces_of_isPiece {separator : Char} {piece whole : List Char}
    (between : IsPiece separator piece whole) : piece ∈ pieces separator whole := by
  obtain ⟨plain, front, back, same⟩ := between
  have cut : pieces separator front ++ piece :: pieces separator back =
      [] :: pieces separator whole ++ [[]] := by
    calc pieces separator front ++ piece :: pieces separator back
        = pieces separator (front ++ separator :: (piece ++ separator :: back)) := by
          rw [pieces_append_separator, pieces_append_separator, pieces_of_not_mem plain]
          rfl
      _ = pieces separator (separator :: (whole ++ separator :: [])) := by
          congr 1
          simpa using same
      _ = [] :: pieces separator whole ++ [[]] := by
          rw [pieces, if_pos rfl, pieces_append_separator]
          rfl
  -- The first and the last of these pieces come from the ends that were added.
  obtain ⟨first, earlier, opened⟩ :=
    List.exists_cons_of_ne_nil (pieces_ne_nil separator front)
  obtain ⟨later, last, closed⟩ :=
    (List.eq_nil_or_concat (pieces separator back)).resolve_left (pieces_ne_nil separator back)
  have inner : earlier ++ piece :: later ++ [last] = pieces separator whole ++ [[]] := by
    rw [opened, closed] at cut
    simpa using (List.cons.inj cut).2
  rw [← (List.append_inj' inner rfl).1]
  simp

/-- The pieces of a text are the parts without separators that stand between separators. -/
theorem mem_pieces_iff {separator : Char} {piece whole : List Char} :
    piece ∈ pieces separator whole ↔ IsPiece separator piece whole :=
  ⟨isPiece_of_mem_pieces, mem_pieces_of_isPiece⟩

/-- A part that is not cut off at both ends is no piece. -/
example : IsPiece ',' ['b'] ['a', ',', 'b'] ∧ ¬IsPiece ',' ['b'] ['a', 'b'] := by decide

end NodeSync.Text
