/-
Module: NodeSync.SortedMap.Entries
Purpose: Association lists in ascending order of their keys, which represent sorted maps and the
  objects of JSON values. One law for each operation says what is looked up after it, and ascending
  lists with the same look-ups are equal.
Main exports: Entries, Entries.Ascending, Entries.lookup_insert, Entries.lookup_erase,
  Entries.lookup_filter_key, Entries.ascending_ext
-/
namespace NodeSync

set_option autoImplicit false
set_option linter.unusedSectionVars false

/-- Key and value pairs. -/
abbrev Entries (κ ν : Type) := List (κ × ν)

namespace Entries

variable {κ ν : Type} [Ord κ]

/-- Each key stands strictly before all later ones. -/
def Ascending (entries : Entries κ ν) : Prop :=
  entries.Pairwise fun earlier later => compare earlier.1 later.1 = .lt

/-- The value of the first entry with the given key. -/
def lookup (key : κ) : Entries κ ν → Option ν
  | [] => none
  | (other, value) :: rest => if compare key other = .eq then some value else lookup key rest

/-- Puts an entry into its place; an entry with the same key is replaced. -/
def insert (key : κ) (value : ν) : Entries κ ν → Entries κ ν
  | [] => [(key, value)]
  | (other, previous) :: rest =>
      match compare key other with
      | .lt => (key, value) :: (other, previous) :: rest
      | .eq => (key, value) :: rest
      | .gt => (other, previous) :: insert key value rest

/-- Drops every entry with the given key. -/
def erase (key : κ) (entries : Entries κ ν) : Entries κ ν :=
  entries.filter fun entry => compare key entry.1 != .eq

/-- Puts the entries of a list into ascending order; of repeated keys the last wins. -/
def ofList (entries : List (κ × ν)) : Entries κ ν :=
  entries.foldl (fun sorted entry => insert entry.1 entry.2 sorted) []

section Laws

variable [Std.TransOrd κ] [Std.LawfulEqOrd κ]

theorem compare_ne_eq {a b : κ} (h : a ≠ b) : compare a b ≠ .eq :=
  fun equal => h (Std.LawfulEqOrd.eq_of_compare equal)

theorem ne_of_compare_lt {a b : κ} (h : compare a b = .lt) : a ≠ b := by
  intro equal
  subst equal
  simp [Std.ReflOrd.compare_self] at h

@[simp] theorem lookup_nil (key : κ) : lookup key ([] : Entries κ ν) = none := rfl

theorem lookup_cons (key other : κ) (value : ν) (rest : Entries κ ν) :
    lookup key ((other, value) :: rest) =
      if compare key other = .eq then some value else lookup key rest := rfl

/-- Insertion changes exactly one look-up. -/
theorem lookup_insert (key other : κ) (value : ν) (entries : Entries κ ν) :
    lookup other (insert key value entries) =
      if compare other key = .eq then some value else lookup other entries := by
  induction entries with
  | nil => rfl
  | cons entry rest ih =>
      rcases entry with ⟨head, previous⟩
      cases order : compare key head with
      | lt => simp [insert, order, lookup]
      | eq =>
          have same : key = head := Std.LawfulEqOrd.eq_of_compare order
          subst same
          by_cases found : compare other key = .eq <;> simp [insert, lookup, found]
      | gt =>
          by_cases found : compare other head = .eq
          · have same : other = head := Std.LawfulEqOrd.eq_of_compare found
            subst same
            have apart : compare other key ≠ .eq := by
              intro equal
              have := Std.LawfulEqOrd.eq_of_compare equal
              subst this
              rw [Std.ReflOrd.compare_self] at order
              cases order
            simp [insert, order, lookup, apart]
          · simp [insert, order, lookup, found, ih]

/-- Filtering by a test on keys keeps the look-ups of the keys that pass. -/
theorem lookup_filter_key (keep : κ → Bool) (key : κ) (entries : Entries κ ν) :
    lookup key (entries.filter fun entry => keep entry.1) =
      if keep key then lookup key entries else none := by
  induction entries with
  | nil => simp
  | cons entry rest ih =>
      rcases entry with ⟨head, value⟩
      by_cases found : compare key head = .eq
      · have same : key = head := Std.LawfulEqOrd.eq_of_compare found
        subst same
        by_cases passes : keep key <;> simp [passes, lookup, ih]
      · by_cases passes : keep head <;> simp [passes, lookup, found, ih]

/-- Erasure removes exactly one look-up. -/
theorem lookup_erase (key other : κ) (entries : Entries κ ν) :
    lookup other (erase key entries) =
      if compare other key = .eq then none else lookup other entries := by
  rw [erase, lookup_filter_key (fun k => compare key k != .eq)]
  by_cases same : other = key
  · subst same
    simp [Std.ReflOrd.compare_self]
  · have apart := compare_ne_eq same
    have apart' := compare_ne_eq (Ne.symm same)
    simp [apart, apart']

/-- What is found is one of the entries. -/
theorem mem_of_lookup {key : κ} {value : ν} {entries : Entries κ ν}
    (h : lookup key entries = some value) : (key, value) ∈ entries := by
  induction entries with
  | nil => simp at h
  | cons entry rest ih =>
      rcases entry with ⟨head, other⟩
      rw [lookup_cons] at h
      split at h
      · rename_i found
        have := Std.LawfulEqOrd.eq_of_compare found
        simp_all
      · exact List.mem_cons_of_mem _ (ih h)

/-- Insertion brings in one entry at most. -/
theorem mem_insert {key : κ} {value : ν} {entries : Entries κ ν} {entry : κ × ν}
    (h : entry ∈ insert key value entries) : entry = (key, value) ∨ entry ∈ entries := by
  induction entries with
  | nil => simpa [insert] using h
  | cons head rest ih =>
      rcases head with ⟨other, previous⟩
      cases order : compare key other with
      | lt =>
          simp only [insert, order, List.mem_cons] at h ⊢
          exact h
      | eq =>
          simp only [insert, order, List.mem_cons] at h ⊢
          exact h.imp id Or.inr
      | gt =>
          simp only [insert, order, List.mem_cons] at h ⊢
          rcases h with rfl | h
          · exact Or.inr (Or.inl rfl)
          · exact (ih h).imp id Or.inr

theorem ascending_nil : Ascending ([] : Entries κ ν) := List.Pairwise.nil

/-- Insertion keeps the order. -/
theorem ascending_insert {entries : Entries κ ν} (h : Ascending entries) (key : κ) (value : ν) :
    Ascending (insert key value entries) := by
  induction entries with
  | nil => exact List.pairwise_singleton _ _
  | cons head rest ih =>
      rcases head with ⟨other, previous⟩
      have ⟨below, tail⟩ := List.pairwise_cons.mp h
      cases order : compare key other with
      | lt =>
          simp only [insert, order]
          refine List.pairwise_cons.mpr ⟨?_, h⟩
          intro entry member
          rcases List.mem_cons.mp member with rfl | member
          · exact order
          · exact Std.TransCmp.lt_trans order (below entry member)
      | eq =>
          have same : key = other := Std.LawfulEqOrd.eq_of_compare order
          subst same
          simp only [insert, order]
          exact List.pairwise_cons.mpr ⟨below, tail⟩
      | gt =>
          simp only [insert, order]
          refine List.pairwise_cons.mpr ⟨?_, ih tail⟩
          intro entry member
          rcases mem_insert member with rfl | member
          · exact Std.OrientedCmp.gt_iff_lt.mp order
          · exact below entry member

/-- Leaving entries out keeps the order. -/
theorem ascending_filter {entries : Entries κ ν} (h : Ascending entries) (keep : κ × ν → Bool) :
    Ascending (entries.filter keep) :=
  List.Pairwise.filter keep h

theorem ascending_erase {entries : Entries κ ν} (h : Ascending entries) (key : κ) :
    Ascending (erase key entries) :=
  ascending_filter h _

theorem ascending_ofList (entries : List (κ × ν)) : Ascending (ofList entries) := by
  have step : ∀ (rest : List (κ × ν)) (sorted : Entries κ ν), Ascending sorted →
      Ascending (rest.foldl (fun sorted entry => insert entry.1 entry.2 sorted) sorted) := by
    intro rest
    induction rest with
    | nil => exact fun _ h => h
    | cons entry rest ih => exact fun _ h => ih _ (ascending_insert h _ _)
  exact step entries [] ascending_nil

/-- The key of an entry that precedes a list is not found in it. -/
theorem lookup_of_below {key : κ} {entries : Entries κ ν}
    (below : ∀ entry ∈ entries, compare key entry.1 = .lt) : lookup key entries = none := by
  cases found : lookup key entries with
  | none => rfl
  | some value =>
      have := below _ (mem_of_lookup found)
      simp [Std.ReflOrd.compare_self] at this

/-- Each entry of an ascending list is found under its key. -/
theorem lookup_of_mem {key : κ} {value : ν} {entries : Entries κ ν} (h : Ascending entries)
    (member : (key, value) ∈ entries) : lookup key entries = some value := by
  induction entries with
  | nil => simp at member
  | cons head rest ih =>
      rcases head with ⟨other, previous⟩
      have ⟨below, tail⟩ := List.pairwise_cons.mp h
      rw [lookup_cons]
      rcases List.mem_cons.mp member with same | member
      · cases same
        simp [Std.ReflOrd.compare_self]
      · have apart : compare key other ≠ .eq :=
          compare_ne_eq (Ne.symm (ne_of_compare_lt (below _ member)))
        rw [if_neg apart]
        exact ih tail member

/-- Ascending lists with the same look-ups are the same list. -/
theorem ascending_ext {first second : Entries κ ν} (h : Ascending first) (h' : Ascending second)
    (same : ∀ key, lookup key first = lookup key second) : first = second := by
  induction first generalizing second with
  | nil =>
      cases second with
      | nil => rfl
      | cons head rest =>
          rcases head with ⟨key, value⟩
          have := same key
          simp [lookup_cons] at this
  | cons head rest ih =>
      rcases head with ⟨key, value⟩
      have ⟨below, tail⟩ := List.pairwise_cons.mp h
      cases second with
      | nil =>
          have := same key
          simp [lookup_cons, Std.ReflOrd.compare_self] at this
      | cons head' rest' =>
          rcases head' with ⟨key', value'⟩
          have ⟨below', tail'⟩ := List.pairwise_cons.mp h'
          have keys : key = key' := by
            have here := same key
            have there := same key'
            rw [lookup_cons, if_pos Std.ReflOrd.compare_self, lookup_cons] at here
            rw [lookup_cons, lookup_cons, if_pos Std.ReflOrd.compare_self] at there
            by_cases equal : key = key'
            · exact equal
            · rw [if_neg (compare_ne_eq equal)] at here
              rw [if_neg (compare_ne_eq (Ne.symm equal))] at there
              have one := below' _ (mem_of_lookup here.symm)
              have two := below _ (mem_of_lookup there)
              have := Std.TransCmp.lt_trans one two
              simp [Std.ReflOrd.compare_self] at this
          subst keys
          have values : value = value' := by
            have := same key
            simpa [lookup_cons, Std.ReflOrd.compare_self] using this
          subst values
          congr 1
          apply ih tail tail'
          intro other
          have := same other
          rw [lookup_cons, lookup_cons] at this
          by_cases found : compare other key = .eq
          · have equal := Std.LawfulEqOrd.eq_of_compare found
            subst equal
            rw [lookup_of_below below, lookup_of_below below']
          · simpa [found] using this

end Laws

end Entries

end NodeSync
