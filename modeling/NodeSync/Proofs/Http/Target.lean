/-
Module: NodeSync.Proofs.Http.Target
Purpose: A target is read from its text: the first question mark ends the path, and no character of
  a path or a query starts a fragment.
Main exports: IsPath, IsPath.append, Target.IsPlain, Target.read?_print
-/
import Mathlib.Data.List.TakeWhile
import NodeSync.Http.Target

namespace NodeSync.Http

open NodeSync.Text

set_option autoImplicit false

/-- No character of a path ends it. -/
theorem ne_of_isPathChar {c : Char} (valid : isPathChar c = true) : c ≠ '?' ∧ c ≠ '#' := by
  constructor <;> rintro rfl <;> exact absurd valid (by decide)

theorem ne_of_isQueryChar {c : Char} (valid : isQueryChar c = true) : c ≠ '#' := by
  rintro rfl
  exact absurd valid (by decide)

/-- A path from the root. -/
structure IsPath (path : String) : Prop where
  rooted : path.toList.head? = some '/'
  chars : path.toList.all isPathChar = true

/-- A path with more characters behind it. -/
theorem IsPath.append {path further : String} (isPath : IsPath path)
    (chars : further.toList.all isPathChar = true) : IsPath (path ++ further) where
  rooted := by rw [String.toList_append, List.head?_append, isPath.rooted, Option.some_or]
  chars := by rw [String.toList_append, List.all_append, isPath.chars, chars, Bool.and_self]

namespace Target

/-- A target that is written as a path, with perhaps a query. -/
structure IsPlain (target : Target) : Prop where
  path : IsPath target.path
  query : ∀ {query}, target.query = some query → query.toList.all isQueryChar = true
  fits : target.print.utf8ByteSize ≤ maxSize

theorem dropFragment_eq {cs : List Char} (none : ∀ c ∈ cs, c ≠ '#') : dropFragment cs = cs :=
  List.takeWhile_eq_self_iff.mpr fun c inside => by simpa using none c inside

/-- A text without the separator is not split. -/
theorem splitFirst?_eq_none {separator : Char} {cs : List Char} (none : separator ∉ cs) :
    splitFirst? separator cs = .none := by
  cases found : splitFirst? separator cs with
  | none => rfl
  | some parts =>
      obtain ⟨split, -⟩ := splitFirst?_eq_some_iff.mp found
      exact absurd (split ▸ by simp) none

/-- The path ends where it was put together with its query. -/
theorem pathAndQuery?_print {target : Target} (plain : target.IsPlain) :
    pathAndQuery? target.print.toList = some target := by
  obtain ⟨path, query⟩ := target
  have whole : path.toList.all isPathChar = true := plain.path.chars
  have char {c : Char} (inside : c ∈ path.toList) : c ≠ '?' ∧ c ≠ '#' :=
    ne_of_isPathChar (List.all_eq_true.mp whole c inside)
  cases query with
  | none =>
      have kept : dropFragment path.toList = path.toList :=
        dropFragment_eq fun c inside => (char inside).2
      have unsplit : splitFirst? '?' path.toList = none :=
        splitFirst?_eq_none fun inside => (char inside).1 rfl
      simp [pathAndQuery?, print, kept, unsplit, whole]
  | some query =>
      have all : query.toList.all isQueryChar = true := plain.query rfl
      have kept : dropFragment (path.toList ++ '?' :: query.toList) =
          path.toList ++ '?' :: query.toList := by
        refine dropFragment_eq (List.forall_mem_append.mpr ⟨fun c inside => (char inside).2, ?_⟩)
        exact List.forall_mem_cons.mpr ⟨by decide, fun c inside =>
          ne_of_isQueryChar (List.all_eq_true.mp all c inside)⟩
      have split : splitFirst? '?' (path.toList ++ '?' :: query.toList) =
          some (path.toList, query.toList) :=
        splitFirst?_eq_some_iff.mpr ⟨rfl, fun inside => (char inside).1 rfl⟩
      simp [pathAndQuery?, print, kept, split, whole, all]

/-- A target is read from its text. -/
theorem read?_print {target : Target} (plain : target.IsPlain) :
    read? target.print = some target := by
  have found := pathAndQuery?_print plain
  obtain ⟨rest, rooted⟩ : ∃ rest, target.print.toList = '/' :: rest := by
    obtain ⟨tail, path⟩ := List.head?_eq_some_iff.mp plain.path.rooted
    exact ⟨_, by rw [print, String.toList_append, path, List.cons_append]⟩
  rw [read?, if_neg (Nat.not_lt.mpr plain.fits)]
  rw [rooted] at found ⊢
  exact found

end Target

end NodeSync.Http
