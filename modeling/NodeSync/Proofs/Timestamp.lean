/-
Module: NodeSync.Proofs.Timestamp
Purpose: The text of a timestamp that was read. It is read again as the same point of time without
  the fraction of a second, and that point of time has the same text. The years need no bound beyond
  the one that reading keeps to: a year of more or less than four digits is written with its sign.
Main exports: Timestamp.wholeSeconds, Timestamp.Readable, Timestamp.readable_of_read?,
  Timestamp.read?_print, Timestamp.print_wholeSeconds
-/
import NodeSync.Proofs.Calendar
import NodeSync.Proofs.Text.Blank
import NodeSync.Proofs.Text.Numeral
import NodeSync.Timestamp

namespace NodeSync

open NodeSync.Text

set_option autoImplicit false

namespace Timestamp

/-! ## Parts of a text -/

section Parts

variable {digits rest : List Char} {width : Nat}

theorem skipBlank_cons {c : Char} (filled : isBlank c = false) :
    skipBlank (c :: rest) = c :: rest := by
  simp [skipBlank, filled]

theorem skipBlank_zeroPadded (width n : Nat) (rest : List Char) :
    skipBlank (zeroPadded width (Nat.toDigits 10 n) ++ rest) =
      zeroPadded width (Nat.toDigits 10 n) ++ rest := by
  obtain ⟨c, others, chars⟩ := List.exists_cons_of_ne_nil (zeroPadded_ne_nil width n)
  have digit : isDigit c = true := isDigit_of_mem_zeroPadded (chars ▸ List.mem_cons_self)
  rw [chars]
  exact skipBlank_cons (isBlank_of_isDigit digit)

/-- A run of digits is read up to its end, or up to the width. -/
theorem digits?_append (all : ∀ c ∈ digits, isDigit c = true) (filled : digits ≠ [])
    (fits : digits.length ≤ width)
    (ends : digits.length = width ∨ rest.head?.all (fun c => !isDigit c) = true) :
    digits? width (digits ++ rest) = some (digitsValue 0 digits, rest) := by
  have done : (rest.take (width - digits.length)).takeWhile isDigit = [] := by
    cases rest with
    | nil => simp
    | cons c others =>
        rcases ends with full | stops
        · simp [full]
        · cases width - digits.length with
          | zero => rfl
          | succ more =>
              have other : isDigit c = false := by simpa using stops
              simp [other]
  have whole : ((digits ++ rest).take width).takeWhile isDigit = digits := by
    rw [List.take_append, List.take_of_length_le fits, List.takeWhile_append_of_pos all, done,
      List.append_nil]
  rw [digits?, whole]
  simp [filled]

/-- Two digits are read as they are printed. -/
theorem two?_zeroPadded {n : Nat} (small : n < 100) (rest : List Char) :
    two? (zeroPadded 2 (Nat.toDigits 10 n) ++ rest) = some (n, rest) := by
  have full := length_zeroPadded 2 small (by decide)
  rw [two?, skipBlank_zeroPadded, digits?_append (fun _ => isDigit_of_mem_zeroPadded)
    (zeroPadded_ne_nil 2 n) (Nat.le_of_eq full) (.inl full), digitsValue_zeroPadded]

theorem mark?_cons (mark : Char) (filled : isBlank mark = false) (rest : List Char) :
    mark? mark (mark :: rest) = some ((), rest) := by
  simp [mark?, skipBlank_cons filled]

theorem year?_of_isDigit {c : Char} (digit : isDigit c = true) (rest : List Char) :
    year? (c :: rest) = (digits? 4 (c :: rest)).map fun (year, rest) => ((year : Int), rest) := by
  rw [year?, skipBlank_cons (isBlank_of_isDigit digit)]
  split
  · rename_i same
    cases same
    cases digit
  · rename_i same
    cases same
    cases digit
  · rfl

theorem year?_minus (rest : List Char) : year? ('-' :: rest) =
    (digits? rest.length rest).map fun (year, rest) => (-(year : Int), rest) := rfl

theorem year?_plus (rest : List Char) : year? ('+' :: rest) =
    (digits? rest.length rest).map fun (year, rest) => ((year : Int), rest) := rfl

/-- The printed year is read up to the mark behind it. -/
theorem year?_printYear (year : Int) (rest : List Char) :
    year? ((printYear year).toList ++ '-' :: rest) = some (year, '-' :: rest) := by
  rw [printYear]
  split
  · rename_i usual
    have full : (zeroPadded 4 (Nat.toDigits 10 year.toNat)).length = 4 :=
      length_zeroPadded 4 (by omega) (by decide)
    have read : digits? 4 (zeroPadded 4 (Nat.toDigits 10 year.toNat) ++ '-' :: rest) =
        some (year.toNat, '-' :: rest) := by
      rw [digits?_append (fun _ => isDigit_of_mem_zeroPadded) (zeroPadded_ne_nil 4 _)
        (Nat.le_of_eq full) (.inl full), digitsValue_zeroPadded]
    obtain ⟨c, others, chars⟩ := List.exists_cons_of_ne_nil (zeroPadded_ne_nil 4 year.toNat)
    have digit : isDigit c = true := isDigit_of_mem_zeroPadded (chars ▸ List.mem_cons_self)
    rw [padded, String.toList_ofList, chars, List.cons_append, year?_of_isDigit digit,
      ← List.cons_append, ← chars, read]
    simp [usual.1]
  · have read : digits? (zeroPadded 4 (Nat.toDigits 10 year.natAbs) ++ '-' :: rest).length
        (zeroPadded 4 (Nat.toDigits 10 year.natAbs) ++ '-' :: rest) =
          some (year.natAbs, '-' :: rest) := by
      rw [digits?_append (fun _ => isDigit_of_mem_zeroPadded) (zeroPadded_ne_nil 4 _) (by simp)
        (.inr rfl), digitsValue_zeroPadded]
    split
    · rename_i negative
      have chars : ("-" ++ padded 4 year.natAbs).toList ++ '-' :: rest =
          '-' :: (zeroPadded 4 (Nat.toDigits 10 year.natAbs) ++ '-' :: rest) := by
        simp [padded]
      rw [chars, year?_minus, read]
      simp only [Option.map_some, Option.some.injEq, Prod.mk.injEq, and_true]
      omega
    · have chars : ("+" ++ padded 4 year.natAbs).toList ++ '-' :: rest =
          '+' :: (zeroPadded 4 (Nat.toDigits 10 year.natAbs) ++ '-' :: rest) := by
        simp [padded]
      rw [chars, year?_plus, read]
      simp only [Option.map_some, Option.some.injEq, Prod.mk.injEq, and_true]
      omega

/-- A printed date is read up to its end. -/
theorem date?_print {date : Date} (valid : date.isValid = true) (rest : List Char) :
    date? ((printYear date.year).toList ++ '-' :: ((padded 2 date.month).toList ++
      '-' :: ((padded 2 date.day).toList ++ rest))) = some (date, rest) := by
  have days : Date.daysInMonth date.year date.month ≤ 31 := by
    rw [Date.daysInMonth]
    split
    · split <;> omega
    · split <;> omega
  simp only [Date.isValid, Bool.and_eq_true, decide_eq_true_eq] at valid
  simp only [date?, year?_printYear, padded, String.toList_ofList, Option.bind_eq_bind,
    Option.bind_some, mark?_cons '-' rfl]
  rw [two?_zeroPadded (by omega)]
  simp only [Option.bind_some, mark?_cons '-' rfl]
  rw [two?_zeroPadded (by omega)]
  rfl

/-- A printed time of day is read up to its end. -/
theorem timeOfDay?_print {hour minute second : Nat} (hours : hour ≤ 23) (minutes : minute ≤ 59)
    (seconds : second ≤ 60) (rest : List Char) (ends : rest.head? ≠ some '.') :
    timeOfDay? ((padded 2 hour).toList ++ ':' :: ((padded 2 minute).toList ++
      ':' :: ((padded 2 second).toList ++ rest))) =
        some ((hour * 3600 + minute * 60 + min second 59,
          if second = 60 then nanosecondsPerSecond else 0), rest) := by
  have noFraction : fraction? rest = some (0, rest) := by
    unfold fraction?
    split
    · simp at ends
    · rfl
  simp only [timeOfDay?, padded, String.toList_ofList, Option.bind_eq_bind]
  rw [two?_zeroPadded (by omega)]
  simp only [Option.bind_some, mark?_cons ':' rfl]
  rw [two?_zeroPadded (by omega)]
  simp only [Option.bind_some, mark?_cons ':' rfl]
  rw [two?_zeroPadded (by omega)]
  simp only [Option.bind_some, noFraction]
  rw [if_neg (by omega)]
  split
  · rename_i leap
    simp [leap]
  · rename_i usual
    simp
    omega

end Parts

/-! ## Whole timestamps -/

/-- A point of time without the fraction of its second. -/
def wholeSeconds (time : Timestamp) : Timestamp :=
  ⟨time.second, if time.nanosecond < nanosecondsPerSecond then 0 else nanosecondsPerSecond⟩

/-- What holds of a timestamp that was read: it lies within the years, and a leap second follows
the last second of a minute. -/
structure Readable (time : Timestamp) : Prop where
  within : isWithinYears time.second = true
  leap : nanosecondsPerSecond ≤ time.nanosecond → time.second % 60 = 59

/-- The fraction of a second is not printed. -/
@[simp] theorem print_wholeSeconds (time : Timestamp) : time.wholeSeconds.print = time.print := by
  have same : time.wholeSeconds.nanosecond < nanosecondsPerSecond ↔
      time.nanosecond < nanosecondsPerSecond := by
    rw [wholeSeconds]
    split <;> simp_all [nanosecondsPerSecond]
  simp only [print, same]
  rfl

/-- The date of a readable timestamp is one that a text may name. -/
theorem Readable.year_bounds {time : Timestamp} (readable : time.Readable) :
    firstYear ≤ (Date.ofDayNumber (time.second / 86400)).year ∧
      (Date.ofDayNumber (time.second / 86400)).year ≤ lastYear := by
  have within := readable.within
  simp only [isWithinYears, Bool.and_eq_true, decide_eq_true_eq] at within
  exact ⟨Date.le_year_ofDayNumber (by omega), Date.year_ofDayNumber_le (by omega)⟩

/-- The printed text, part by part. -/
theorem print_toList (time : Timestamp) {ofDay leap : Nat}
    (isOfDay : ofDay = (time.second % 86400).toNat)
    (isLeap : leap = if time.nanosecond < nanosecondsPerSecond then 0 else 1) :
    time.print.toList =
      (printYear (Date.ofDayNumber (time.second / 86400)).year).toList ++
        '-' :: ((padded 2 (Date.ofDayNumber (time.second / 86400)).month).toList ++
        '-' :: ((padded 2 (Date.ofDayNumber (time.second / 86400)).day).toList ++
        'T' :: ((padded 2 (ofDay / 3600)).toList ++
        ':' :: ((padded 2 (ofDay / 60 % 60)).toList ++
        ':' :: ((padded 2 (ofDay % 60 + leap)).toList ++ ['Z']))))) := by
  simp [print, isOfDay, isLeap]

/-- What is printed for a readable timestamp is read as that timestamp in whole seconds. -/
theorem read?_print {time : Timestamp} (readable : time.Readable) :
    read? time.print = some time.wholeSeconds := by
  obtain ⟨ofDay, isOfDay⟩ : ∃ ofDay, ofDay = (time.second % 86400).toNat := ⟨_, rfl⟩
  obtain ⟨leap, isLeap⟩ : ∃ leap, leap = if time.nanosecond < nanosecondsPerSecond then 0 else 1 :=
    ⟨_, rfl⟩
  -- Second 60 is printed after second 59 only, and nothing above it.
  have last : leap = 0 ∨ leap = 1 ∧ ofDay % 60 = 59 := by
    by_cases whole : time.nanosecond < nanosecondsPerSecond
    · exact .inl (isLeap.trans (if_pos whole))
    · have minute := readable.leap (Nat.not_lt.mp whole)
      exact .inr ⟨isLeap.trans (if_neg whole), by omega⟩
  have seconds : (Date.ofDayNumber (time.second / 86400)).dayNumber * 86400 +
      ((ofDay / 3600 * 3600 + ofDay / 60 % 60 * 60 + min (ofDay % 60 + leap) 59 : Nat) : Int) - 0 =
        time.second := by
    rw [Date.dayNumber_ofDayNumber]
    omega
  have nanoseconds : (if ofDay % 60 + leap = 60 then nanosecondsPerSecond else 0) =
      time.wholeSeconds.nanosecond := by
    rw [wholeSeconds]
    dsimp only
    by_cases whole : time.nanosecond < nanosecondsPerSecond
    · rw [if_pos whole] at isLeap ⊢
      rw [if_neg (by omega)]
    · rw [if_neg whole] at isLeap ⊢
      rw [if_pos (by omega)]
  have offset : offset? (skipBlank ['Z']) = some (0, []) := rfl
  rw [read?, time.print_toList isOfDay isLeap, date?_print (Date.isValid_ofDayNumber _)]
  simp only [Option.bind_eq_bind, Option.bind_some, separator?, true_or, if_true]
  rw [timeOfDay?_print (by omega) (by omega) (by omega) _ (by simp)]
  simp only [Option.bind_some, offset, seconds, nanoseconds, readable.within,
    Date.isValid_ofDayNumber]
  simp [skipBlank]
  exact ⟨readable.year_bounds, rfl⟩

/-! ## What is read -/

/-- A fraction that is read is less than a second. -/
theorem fraction?_lt {cs rest : List Char} {nanosecond : Nat}
    (read : fraction? cs = some (nanosecond, rest)) : nanosecond < nanosecondsPerSecond := by
  unfold fraction? at read
  split at read
  · rename_i after
    dsimp only at read
    split at read
    · cases read
    · cases read
      have below := digitsValue_lt 0 ((after.takeWhile isDigit).take 9)
      have short : ((after.takeWhile isDigit).take 9).length ≤ 9 := List.length_take_le _ _
      calc digitsValue 0 ((after.takeWhile isDigit).take 9) *
            powerOfTen (9 - ((after.takeWhile isDigit).take 9).length)
          < (0 + 1) * 10 ^ ((after.takeWhile isDigit).take 9).length *
            10 ^ (9 - ((after.takeWhile isDigit).take 9).length) :=
              Nat.mul_lt_mul_of_pos_right below (Nat.pow_pos (by decide))
        _ = 10 ^ 9 := by
              rw [Nat.zero_add, Nat.one_mul, ← Nat.pow_add, Nat.add_sub_cancel' short]
  · cases read
    decide

/-- A fraction beyond a second lies in the second after the last one of a minute. -/
theorem timeOfDay?_leap {cs rest : List Char} {ofDay nanosecond : Nat}
    (read : timeOfDay? cs = some ((ofDay, nanosecond), rest))
    (leap : nanosecondsPerSecond ≤ nanosecond) : ofDay % 60 = 59 := by
  simp only [timeOfDay?, Option.bind_eq_bind, Option.bind_eq_some_iff] at read
  obtain ⟨⟨hour, _⟩, -, ⟨_, _⟩, -, ⟨minute, _⟩, -, ⟨_, _⟩, -, ⟨second, _⟩, -, ⟨part, _⟩, fraction,
    read⟩ := read
  have below := fraction?_lt fraction
  split at read
  · cases read
  · split at read
    · cases read
      omega
    · cases read
      omega

/-- An offset is a number of minutes. -/
theorem offset?_minutes {cs rest : List Char} {offset : Int}
    (read : offset? cs = some (offset, rest)) : offset % 60 = 0 := by
  unfold offset? at read
  repeat' split at read
  all_goals cases read
  all_goals omega

/-- Every timestamp that is read is readable. -/
theorem readable_of_read? {s : String} {time : Timestamp} (read : read? s = some time) :
    time.Readable := by
  simp only [read?, Option.bind_eq_bind, Option.bind_eq_some_iff] at read
  obtain ⟨⟨date, _⟩, -, ⟨_, _⟩, -, ⟨⟨ofDay, nanosecond⟩, _⟩, ofTime, ⟨offset, _⟩, ofOffset, read⟩ :=
    read
  split at read
  · cases read
  · rename_i accepted
    cases read
    refine ⟨?_, fun leap => ?_⟩
    · simp only [Bool.or_eq_true, Bool.not_eq_true', not_or, Bool.not_eq_false] at accepted
      exact accepted.2
    · have last := timeOfDay?_leap ofTime leap
      have minutes := offset?_minutes ofOffset
      dsimp only
      omega

end Timestamp

end NodeSync
