/-
Module: NodeSync.Proofs.Metrics.Exposition
Purpose: What the published text says. The lines of the text that start with the name of a family
  are those of its samples, one for each, and the labels of a sample can be told from the start of
  its line.
Main exports: Family, Metrics.family, Metrics.published, Metrics.published_eq, FamilyInfo.Carries,
  FamilyInfo.printNumber_of_lt, FamilyInfo.carries_line_iff
-/
import NodeSync.Metrics
import NodeSync.Proofs.Text.Numeral
import NodeSync.Proofs.Text.Pieces

namespace NodeSync

open NodeSync.Text

set_option autoImplicit false

/-! ## Lines -/

namespace FamilyInfo

/-- The start of the line of a sample: the name of the family and the labels. -/
def series (info : FamilyInfo) (labels : List String) : String :=
  info.name ++ "\x7b" ++ ",".intercalate (List.zipWith printLabel info.labelNames labels) ++ "\x7d "

/-- The line of a sample. -/
def line (info : FamilyInfo) (sample : Sample) : List Char :=
  (info.series sample.labels ++ printNumber sample.value).toList

/-- The line that gives a number as it is. -/
def exactLine (info : FamilyInfo) (labels : List String) (number : Nat) : List Char :=
  (info.series labels ++ decimal number).toList

/-- A line that is about the sample with the given labels. -/
def Carries (info : FamilyInfo) (labels : List String) (line : List Char) : Prop :=
  (info.series labels).toList <+: line

instance (info : FamilyInfo) (labels : List String) : DecidablePred (info.Carries labels) :=
  fun line => inferInstanceAs (Decidable (_ <+: line))

/-- The lines in front of the samples. -/
def header (info : FamilyInfo) : List (List Char) :=
  [("# HELP " ++ info.name ++ " " ++ info.help).toList,
    ("# TYPE " ++ info.name ++ " " ++ info.kind).toList]

/-- The lines of a family. -/
def lines (info : FamilyInfo) (series : Series) : List (List Char) :=
  if series.samples = [] then [] else info.header ++ series.samples.map info.line

theorem toList_printSample (info : FamilyInfo) (sample : Sample) :
    (info.printSample sample).toList = info.line sample ++ ['\n'] := by
  simp [printSample, line, series]

/-- The text of a family is made of its lines. -/
theorem toList_print (info : FamilyInfo) (series : Series) :
    (info.print series).toList = (info.lines series).flatMap (· ++ ['\n']) := by
  rw [print, lines]
  split
  · rename_i none
    rw [if_pos none]
    rfl
  · rename_i some
    rw [if_neg some]
    simp [header, String.toList_join, List.flatMap_map, toList_printSample]

/-! ## Numbers in a line -/

section Numbers

/-- The digits of a shortest decimal are digits. -/
theorem isDigit_of_mem_shortest {value : Double} {c : Char} (inside : c ∈ value.shortest.digits) :
    isDigit c = true := by
  rw [Double.shortest] at inside
  split at inside
  · rw [List.mem_singleton.mp inside]
    rfl
  · replace inside := List.mem_of_mem_take inside
    set found := (List.range 17).findSome? _ with searched
    cases result : found with
    | none =>
        rw [result] at inside
        exact isDigit_of_mem_toDigits inside
    | some shortest =>
        rw [result] at inside
        obtain ⟨count, -, tried⟩ := List.exists_of_findSome?_eq_some (searched.symm.trans result)
        obtain ⟨multiple, -, rfl⟩ := Option.map_eq_some_iff.mp tried
        exact isDigit_of_mem_toDigits inside

/-- A number is written in digits. -/
theorem isDigit_of_mem_printNumber {value : UInt64} {c : Char}
    (inside : c ∈ (printNumber value).toList) : isDigit c = true := by
  rw [printNumber] at inside
  split at inside
  · rw [decimal, String.toList_ofList] at inside
    exact isDigit_of_mem_toDigits inside
  · rw [String.toList_ofList] at inside
    rcases List.mem_append.mp inside with significant | zero
    · exact isDigit_of_mem_shortest significant
    · rw [List.eq_of_mem_replicate zero]
      rfl

/-- A line gives a number as it is if that is how the number is written. -/
theorem line_eq_exactLine_iff {info : FamilyInfo} {labels : List String} {number : Nat} :
    info.line ⟨labels, .ofNat number⟩ = info.exactLine labels number ↔
      printNumber (.ofNat number) = decimal number := by
  rw [line, exactLine, String.toList_inj, String.append_right_inj]

/-- A number of 53 bits is written as it is. -/
theorem printNumber_of_lt {number : Nat} (small : number < 2 * Double.leadingBit) :
    printNumber (UInt64.ofNat number) = decimal number := by
  have exact : (UInt64.ofNat number).toNat = number :=
    UInt64.toNat_ofNat_of_lt (Nat.lt_trans small (by decide))
  rw [printNumber, exact, if_pos small]

end Numbers

/-! ## Labels in a line -/

section Escaped

variable {c d : Char} {rest rest' : List Char}

/-- No written character starts like another one. -/
theorem escapeChar_append_inj (same : escapeChar c ++ rest = escapeChar d ++ rest') :
    c = d ∧ rest = rest' := by
  simp only [escapeChar] at same
  grind

/-- No escaped character starts with a quotation mark, so the first one ends the value. -/
theorem quote_ne_escapeChar_append : '"' :: rest ≠ escapeChar c ++ rest' := by
  simp only [escapeChar]
  grind

/-- A written value ends at the first quotation mark that is not part of a character. -/
theorem escaped_append_inj {value value' : List Char}
    (same : value.flatMap escapeChar ++ '"' :: rest = value'.flatMap escapeChar ++ '"' :: rest') :
    value = value' ∧ rest = rest' := by
  induction value generalizing value' with
  | nil =>
      cases value' with
      | nil => exact ⟨rfl, (List.cons.inj same).2⟩
      | cons d value' =>
          rw [List.flatMap_cons, List.append_assoc] at same
          exact absurd same quote_ne_escapeChar_append
  | cons c value ih =>
      cases value' with
      | nil =>
          rw [List.flatMap_cons, List.append_assoc] at same
          exact absurd same.symm quote_ne_escapeChar_append
      | cons d value' =>
          rw [List.flatMap_cons, List.flatMap_cons, List.append_assoc, List.append_assoc] at same
          obtain ⟨rfl, others⟩ := escapeChar_append_inj same
          obtain ⟨rfl, after⟩ := ih others
          exact ⟨rfl, after⟩

/-- Where a label ends can be told from its text. -/
theorem printLabel_append_inj {name value value' : String}
    (same : (printLabel name value).toList ++ rest = (printLabel name value').toList ++ rest') :
    value = value' ∧ rest = rest' := by
  simp only [printLabel, String.toList_append, String.toList_ofList, List.append_assoc] at same
  obtain ⟨values, after⟩ :=
    escaped_append_inj (List.append_cancel_left (List.append_cancel_left same))
  exact ⟨String.toList_inj.mp values, after⟩

/-- Line breaks are escaped. -/
theorem newline_not_mem_escapeChar : '\n' ∉ escapeChar c := by
  rw [escapeChar]
  grind

theorem newline_not_mem_printLabel {name : String} (plain : '\n' ∉ name.toList)
    (value : String) :
    '\n' ∉ (printLabel name value).toList := by
  simp only [printLabel, String.toList_append, String.toList_ofList, List.mem_append,
    List.mem_flatMap]
  rintro (((inName | inMark) | ⟨c, -, inChar⟩) | inMark)
  · exact plain inName
  · revert inMark
    decide
  · exact newline_not_mem_escapeChar inChar
  · revert inMark
    decide

end Escaped

section Labels

variable {names labels labels' : List String} {rest rest' : List Char}

/-- Texts that start with as many labels as there are names have the same labels there if they are
equal, whatever follows the labels. -/
theorem printLabels_append_inj (length : labels.length = names.length)
    (length' : labels'.length = names.length)
    (same : (",".intercalate (List.zipWith printLabel names labels)).toList ++ rest =
      (",".intercalate (List.zipWith printLabel names labels')).toList ++ rest') :
    labels = labels' := by
  induction names generalizing labels labels' with
  | nil => rw [List.length_eq_zero_iff.mp length, List.length_eq_zero_iff.mp length']
  | cons name names ih =>
      obtain ⟨value, values, rfl⟩ := List.exists_cons_of_length_eq_add_one length
      obtain ⟨value', values', rfl⟩ := List.exists_cons_of_length_eq_add_one length'
      simp only [List.length_cons, Nat.add_right_cancel_iff] at length length'
      cases names with
      | nil =>
          rw [List.length_eq_zero_iff.mp length, List.length_eq_zero_iff.mp length']
            at same ⊢
          simp only [List.zipWith, String.intercalate_singleton] at same
          rw [(printLabel_append_inj same).1]
      | cons next names =>
          obtain ⟨second, others, rfl⟩ := List.exists_cons_of_length_eq_add_one length
          obtain ⟨second', others', rfl⟩ := List.exists_cons_of_length_eq_add_one length'
          simp only [List.zipWith_cons_cons, String.intercalate_cons_cons, String.toList_append,
            List.append_assoc] at same
          obtain ⟨rfl, after⟩ := printLabel_append_inj same
          have tails := List.append_cancel_left after
          rw [← List.zipWith_cons_cons, ← List.zipWith_cons_cons] at tails
          rw [ih length length' tails]

theorem newline_not_mem_printLabels (plain : ∀ name ∈ names, '\n' ∉ name.toList)
    (labels : List String) :
    '\n' ∉ (",".intercalate (List.zipWith printLabel names labels)).toList := by
  induction names generalizing labels with
  | nil => simp
  | cons name names ih =>
      obtain ⟨first, others⟩ := List.forall_mem_cons.mp plain
      cases labels with
      | nil => simp
      | cons value values =>
          have here := newline_not_mem_printLabel first value
          have after := ih others values
          rw [List.zipWith_cons_cons]
          cases tail : List.zipWith printLabel names values with
          | nil => rwa [String.intercalate_singleton]
          | cons second others =>
              rw [tail] at after
              rw [String.intercalate_cons_cons]
              simp only [String.toList_append, List.mem_append, not_or]
              exact ⟨⟨here, by decide⟩, after⟩

end Labels

/-- A sample is found in a line by its labels. -/
theorem carries_line_iff {info : FamilyInfo} {labels : List String} {sample : Sample}
    (length : labels.length = info.labelNames.length)
    (length' : sample.labels.length = info.labelNames.length) :
    info.Carries labels (info.line sample) ↔ sample.labels = labels := by
  constructor
  · rintro ⟨rest, same⟩
    simp only [line, series, String.toList_append, List.append_assoc] at same
    have labelled := List.append_cancel_left (List.append_cancel_left same)
    exact (printLabels_append_inj length length' labelled).symm
  · rintro rfl
    rw [line, String.toList_append]
    exact List.prefix_append _ _

end FamilyInfo

/-! ## Families -/

/-- The families that are published. -/
inductive Family where
  | collectorUp
  | failures (kind : FailureKind)
deriving DecidableEq

namespace Family

/-- The families in the order of their names. -/
def inOrder : List Family := [.collectorUp, .failures .label, .failures .taint]

def info : Family → FamilyInfo
  | .collectorUp => .collectorUp
  | .failures .label => .labelFailures
  | .failures .taint => .taintFailures

/-- What each line of a sample starts with. -/
def start (family : Family) : List Char := family.info.name.toList ++ ['\x7b']

theorem newline_not_mem_header {family : Family} {line : List Char}
    (inside : line ∈ family.info.header) : '\n' ∉ line := by
  revert line
  rcases family with _ | (_ | _) <;> simp [FamilyInfo.header, info, FamilyInfo.collectorUp,
    FamilyInfo.labelFailures, FamilyInfo.taintFailures]

/-- A sample takes one line. -/
theorem newline_not_mem_line (family : Family) (sample : Sample) :
    '\n' ∉ family.info.line sample := by
  have plain : '\n' ∉ family.info.name.toList ∧
      ∀ name ∈ family.info.labelNames, '\n' ∉ name.toList := by
    rcases family with _ | (_ | _) <;> simp [info, FamilyInfo.collectorUp,
      FamilyInfo.labelFailures, FamilyInfo.taintFailures]
  have digits : '\n' ∉ (FamilyInfo.printNumber sample.value).toList := fun inside =>
    absurd (FamilyInfo.isDigit_of_mem_printNumber inside) (by decide)
  have labels := FamilyInfo.newline_not_mem_printLabels plain.2 sample.labels
  simp only [FamilyInfo.line, FamilyInfo.series, String.toList_append, List.mem_append, not_or]
  exact ⟨⟨⟨⟨plain.1, by decide⟩, labels⟩, by decide⟩, digits⟩

theorem start_prefix_line (family : Family) (sample : Sample) :
    family.start <+: family.info.line sample := by
  simp only [start, FamilyInfo.line, FamilyInfo.series, String.toList_append, List.append_assoc]
  exact (List.prefix_append_right_inj _).mpr (List.prefix_append _ _)

/-- The lines of a header are no samples. -/
theorem not_start_prefix_header {family other : Family} {line : List Char}
    (inside : line ∈ other.info.header) : ¬family.start <+: line := by
  have first : family.start.head? = some 'm' := by
    rcases family with _ | (_ | _) <;> simp [start, info, FamilyInfo.collectorUp,
      FamilyInfo.labelFailures, FamilyInfo.taintFailures]
  have firstOfLine : line.head? = some '#' := by
    simp only [FamilyInfo.header, List.mem_cons, List.not_mem_nil, or_false] at inside
    rcases inside with rfl | rfl <;> simp
  rintro ⟨rest, rfl⟩
  rw [List.head?_append, first] at firstOfLine
  cases firstOfLine

/-- No name of a family starts like another one with its brace. -/
theorem eq_of_start_within {family other : Family}
    (before : family.start <+: other.start) : family = other := by
  rcases family with _ | (_ | _) <;> rcases other with _ | (_ | _) <;>
    simp [start, info, FamilyInfo.collectorUp, FamilyInfo.labelFailures,
      FamilyInfo.taintFailures] at before ⊢

/-- No family's lines start like those of another one. -/
theorem eq_of_starts {family other : Family} {line : List Char}
    (starts : family.start <+: line) (startsOther : other.start <+: line) : family = other :=
  (List.prefix_or_prefix_of_prefix starts startsOther).elim eq_of_start_within
    fun before => (eq_of_start_within before).symm

theorem newline_not_mem_lines {family : Family} {series : Series} {line : List Char}
    (inside : line ∈ family.info.lines series) : '\n' ∉ line := by
  rw [FamilyInfo.lines] at inside
  split at inside
  · cases inside
  · rcases List.mem_append.mp inside with inHeader | inSamples
    · exact newline_not_mem_header inHeader
    · obtain ⟨sample, -, rfl⟩ := List.mem_map.mp inSamples
      exact newline_not_mem_line family sample

/-- Of the lines of all families, those of the samples of one start with its name. -/
theorem filter_lines (family other : Family) (series : Series) :
    (other.info.lines series).filter (fun line => family.start <+: line) =
      if other = family then series.samples.map other.info.line else [] := by
  have headers : other.info.header.filter (fun line => family.start <+: line) = [] :=
    List.filter_eq_nil_iff.mpr fun line inside => by
      simpa using not_start_prefix_header inside
  have samples : (series.samples.map other.info.line).filter (fun line => family.start <+: line) =
      if other = family then series.samples.map other.info.line else [] := by
    split
    · rename_i same
      subst same
      refine List.filter_eq_self.mpr fun line inside => ?_
      obtain ⟨sample, -, rfl⟩ := List.mem_map.mp inside
      exact decide_eq_true (start_prefix_line other sample)
    · rename_i different
      refine List.filter_eq_nil_iff.mpr fun line inside starts => ?_
      obtain ⟨sample, -, rfl⟩ := List.mem_map.mp inside
      exact different
        (eq_of_starts (start_prefix_line other sample) (of_decide_eq_true starts))
  rw [FamilyInfo.lines]
  split
  · rename_i none
    rw [none]
    split <;> rfl
  · rw [List.filter_append, headers, samples, List.nil_append]

end Family

namespace Metrics

/-- The samples of a family. -/
def family (metrics : Metrics) : Family → Series
  | .collectorUp => metrics.collectorUp
  | .failures .label => metrics.labelFailures
  | .failures .taint => metrics.taintFailures

/-- The lines of the published text that start with the name of a family. -/
def published (metrics : Metrics) (family : Family) : List (List Char) :=
  (pieces '\n' metrics.render.toList).filter fun line => family.start <+: line

/-- The lines of the text are those of the families in their order. -/
theorem pieces_render (metrics : Metrics) : pieces '\n' metrics.render.toList =
    (Family.inOrder.flatMap fun family => family.info.lines (metrics.family family)) ++ [[]] := by
  have text : metrics.render.toList =
      (Family.inOrder.flatMap fun family => family.info.lines (metrics.family family)).flatMap
        (· ++ ['\n']) := by
    simp [render, Family.inOrder, Family.info, family, FamilyInfo.toList_print]
  rw [text, pieces_flatMap]
  intro line inside
  obtain ⟨family, -, inside⟩ := List.mem_flatMap.mp inside
  exact Family.newline_not_mem_lines inside

/-- The published text has one line for each sample of a family. -/
theorem published_eq (metrics : Metrics) (family : Family) :
    metrics.published family = (metrics.family family).samples.map family.info.line := by
  rw [published, pieces_render, List.filter_append, List.filter_flatMap]
  simp only [Family.filter_lines]
  have tail : [[]].filter (fun line => family.start <+: line) = [] := by
    simp [Family.start]
  rw [tail, List.append_nil]
  rcases family with _ | (_ | _) <;> simp [Family.inOrder]

end Metrics

end NodeSync
