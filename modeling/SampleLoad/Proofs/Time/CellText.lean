import SampleLoad.Proofs.Generate.Times
import SampleLoad.Proofs.Time.Calendar
import SampleLoad.Time.Stamp

/-!
Reading the texts of row cells. The reader knows the form of the text and the rules of the calendar: a year with an
optional sign and at least four digits, fields of fixed widths for the rest, a date that there is and a time of day
that the clock shows. It gives back the instant that was written, cut to whole milliseconds, for every instant that
there is. Main statements: `CellText.read?_cellText`, `CellText.cellText_injective`.
-/

namespace SampleLoad.CellText

/-! ### The reader -/

def mark? (mark : Char) : List Char → Option (List Char)
  | [] => none
  | c :: rest => if c = mark then some rest else none

/-- Reads a number of so many digits. -/
def field? (width : Nat) (cs : List Char) : Option (Nat × List Char) :=
  if (cs.take width).length = width ∧ (cs.take width).all Char.isDigit then
    some (Nat.ofDigitChars 10 (cs.take width) 0, cs.drop width)
  else none

/-- Reads a number of four digits or more. -/
def yearNumber? (cs : List Char) : Option (Nat × List Char) :=
  if 4 ≤ (cs.takeWhile Char.isDigit).length then
    some (Nat.ofDigitChars 10 (cs.takeWhile Char.isDigit) 0, cs.dropWhile Char.isDigit)
  else none

def year? : List Char → Option (Int × List Char)
  | '-' :: rest => (yearNumber? rest).map fun (n, rest) => (-(n : Int), rest)
  | '+' :: rest => (yearNumber? rest).map fun (n, rest) => ((n : Int), rest)
  | cs => (yearNumber? cs).map fun (n, rest) => ((n : Int), rest)

/-- Reads a date that the calendar has. -/
def date? (cs : List Char) : Option (Date × List Char) := do
  let (year, cs) ← year? cs
  let cs ← mark? '-' cs
  let (month, cs) ← field? 2 cs
  let cs ← mark? '-' cs
  let (day, cs) ← field? 2 cs
  if Date.Valid ⟨year, month, day⟩ then some (⟨year, month, day⟩, cs) else none

/-- Reads a text of date, time of day and three decimals. -/
def read? (s : String) : Option Instant := do
  let (date, cs) ← date? s.toList
  let cs ← mark? 'T' cs
  let (hour, cs) ← field? 2 cs
  let cs ← mark? ':' cs
  let (minute, cs) ← field? 2 cs
  let cs ← mark? ':' cs
  let (second, cs) ← field? 2 cs
  let cs ← mark? '.' cs
  let (milli, cs) ← field? 3 cs
  let cs ← mark? 'Z' cs
  if cs = [] ∧ hour < 24 ∧ minute < 60 ∧ second < 60 then
    ClockTime.instant? ⟨date, hour, minute, second, milli * 1000000⟩
  else none

/-! ### Numbers -/

theorem mark?_cons (mark : Char) (rest : List Char) : mark? mark (mark :: rest) = some rest := if_pos rfl

theorem zeroPadded_isDigit {width n : Nat} : ∀ c ∈ zeroPadded width n, c.isDigit := by
  intro c hc
  rcases List.mem_append.mp hc with hzero | hdigit
  · rw [List.eq_of_mem_replicate hzero]
    rfl
  · exact Nat.isDigit_of_mem_toDigits (by decide) (by decide) hdigit

theorem ofDigitChars_zeroPadded (width n : Nat) : Nat.ofDigitChars 10 (zeroPadded width n) 0 = n := by
  rw [zeroPadded, Nat.ofDigitChars_append, Nat.ofDigitChars_replicate_zero, Nat.mul_zero,
    Nat.ofDigitChars_toDigits (by decide) (by decide)]

theorem le_zeroPadded_length (width n : Nat) : width ≤ (zeroPadded width n).length := by
  rw [zeroPadded, List.length_append, List.length_replicate]
  omega

theorem zeroPadded_length {width n : Nat} (hwidth : 0 < width) (h : n < 10 ^ width) :
    (zeroPadded width n).length = width := by
  have hdigits := (Nat.length_toDigits_le_iff (by decide : 1 < 10) hwidth).mpr h
  rw [zeroPadded, List.length_append, List.length_replicate]
  omega

theorem field?_zeroPadded {width n : Nat} (hwidth : 0 < width) (h : n < 10 ^ width) (rest : List Char) :
    field? width (zeroPadded width n ++ rest) = some (n, rest) := by
  have hlength := zeroPadded_length hwidth h
  rw [field?, List.take_left' hlength, List.drop_left' hlength, if_pos ⟨hlength, List.all_eq_true.mpr zeroPadded_isDigit⟩,
    ofDigitChars_zeroPadded]

/-- The digits of a year end at the mark behind it. -/
theorem yearNumber?_zeroPadded (n : Nat) (rest : List Char) :
    yearNumber? (zeroPadded 4 n ++ '-' :: rest) = some (n, '-' :: rest) := by
  have htake : (zeroPadded 4 n ++ '-' :: rest).takeWhile Char.isDigit = zeroPadded 4 n := by
    rw [List.takeWhile_append_of_pos zeroPadded_isDigit, List.takeWhile_cons_of_neg (by decide), List.append_nil]
  have hdrop : (zeroPadded 4 n ++ '-' :: rest).dropWhile Char.isDigit = '-' :: rest := by
    rw [List.dropWhile_append_of_pos zeroPadded_isDigit, List.dropWhile_cons_of_neg (by decide)]
  rw [yearNumber?, htake, hdrop, if_pos (le_zeroPadded_length 4 n), ofDigitChars_zeroPadded]

/-! ### Dates and times of day -/

theorem year?_of_isDigit {c : Char} (hc : c.isDigit) (cs : List Char) :
    year? (c :: cs) = (yearNumber? (c :: cs)).map fun (n, rest) => ((n : Int), rest) := by
  unfold year?
  split
  · rename_i heq
    obtain ⟨rfl, -⟩ := List.cons.inj heq
    exact absurd hc (by decide)
  · rename_i heq
    obtain ⟨rfl, -⟩ := List.cons.inj heq
    exact absurd hc (by decide)
  · rfl

theorem year?_yearText (year : Int) (rest : List Char) :
    year? (Date.yearText year ++ '-' :: rest) = some (year, '-' :: rest) := by
  unfold Date.yearText
  by_cases hplain : 0 ≤ year ∧ year ≤ 9999
  · have hread := yearNumber?_zeroPadded year.toNat rest
    have hlength := le_zeroPadded_length 4 year.toNat
    rw [if_pos hplain]
    cases hdigits : zeroPadded 4 year.toNat with
    | nil =>
        rw [hdigits] at hlength
        exact absurd hlength (by decide)
    | cons c cs =>
        have hc : c.isDigit := zeroPadded_isDigit c (hdigits ▸ List.mem_cons_self)
        rw [hdigits, List.cons_append] at hread
        rw [List.cons_append, year?_of_isDigit hc, hread]
        exact congrArg (fun n : Int => some (n, '-' :: rest)) (Int.toNat_of_nonneg hplain.1)
  · rw [if_neg hplain]
    by_cases hnegative : year < 0
    · rw [if_pos hnegative, List.cons_append, year?, yearNumber?_zeroPadded, Option.map_some]
      simp only [Option.some.injEq, Prod.mk.injEq, and_true]
      omega
    · rw [if_neg hnegative, List.cons_append, year?, yearNumber?_zeroPadded, Option.map_some]
      simp only [Option.some.injEq, Prod.mk.injEq, and_true]
      omega

theorem date?_text {d : Date} (h : d.Valid) (rest : List Char) : date? (d.text ++ rest) = some (d, rest) := by
  have hmonth : d.month < 10 ^ 2 := by have := h.month; omega
  have hday : d.day < 10 ^ 2 := by
    have hlength : Date.monthLength d.year d.month ≤ 31 := by
      unfold Date.monthLength
      split
      · split <;> decide
      · split <;> decide
    have := h.day
    omega
  simp only [Date.text, List.append_assoc, List.cons_append, date?, year?_yearText, mark?_cons,
    field?_zeroPadded (by decide : 0 < 2) hmonth, field?_zeroPadded (by decide : 0 < 2) hday, Option.bind_eq_bind,
    Option.bind_some, if_pos h]

/-- What calendar and clock show can be read off them. -/
theorem clockTime_bounds (t : Instant) :
    t.clockTime.hour < 24 ∧ t.clockTime.minute < 60 ∧ t.clockTime.second < 60 ∧ t.subsecond / 1000000 < 10 ^ 3 := by
  simp only [Instant.clockTime, Instant.subsecond, nanosPerSecond]
  omega

theorem clockTime_valid (t : Instant) : t.clockTime.date.Valid := Date.ofDayNumber_valid _

/-- What is left of an instant when its clock is read to the millisecond. -/
theorem instant?_clockTime (t : Instant) :
    ClockTime.instant? { t.clockTime with nanosecond := t.subsecond / 1000000 * 1000000 } = some t.floorMilli := by
  rw [ClockTime.instant?, Instant.ofParts?, Instant.ofNanos?_eq_some_iff]
  simp only [Instant.clockTime, Date.dayNumber_ofDayNumber, Instant.floorMilli, Instant.seconds, Instant.subsecond,
    nanosPerSecond, nanosPerMilli]
  omega

/-- Reading the text of a cell gives the instant, cut to whole milliseconds. -/
theorem read?_cellText (t : Instant) : read? t.cellText = some t.floorMilli := by
  obtain ⟨hhour, hminute, hsecond, hmilli⟩ := clockTime_bounds t
  have hclock := instant?_clockTime t
  simp only [Instant.cellText, Instant.secondText, String.toList_ofList, List.append_assoc, List.cons_append, read?,
    date?_text (clockTime_valid t), mark?_cons, field?_zeroPadded (by decide : 0 < 2) (by omega : t.clockTime.hour < 10 ^ 2),
    field?_zeroPadded (by decide : 0 < 2) (by omega : t.clockTime.minute < 10 ^ 2),
    field?_zeroPadded (by decide : 0 < 2) (by omega : t.clockTime.second < 10 ^ 2),
    field?_zeroPadded (by decide : 0 < 3) hmilli, Option.bind_eq_bind, Option.bind_some]
  rw [if_pos ⟨trivial, hhour, hminute, hsecond⟩]
  exact hclock

theorem floorMilli_of_aligned {t : Instant} (h : t.MilliAligned) : t.floorMilli = t := by
  obtain ⟨nanos, hrange⟩ := t
  have haligned : nanos % nanosPerMilli = 0 := h
  simp only [Instant.floorMilli, Instant.mk.injEq]
  omega

/-- Whole milliseconds have different texts. -/
theorem cellText_injective {t other : Instant} (ht : t.MilliAligned) (hother : other.MilliAligned)
    (h : t.cellText = other.cellText) : t = other := by
  have hread := read?_cellText t
  rw [h, read?_cellText, floorMilli_of_aligned ht, floorMilli_of_aligned hother] at hread
  exact (Option.some.inj hread).symm

-- The first instant that there is lies in a year with a sign and six digits.
example : read? "-262143-01-01T00:00:00.000Z" = some ⟨Instant.firstNanos, by decide⟩ := by decide +kernel

end SampleLoad.CellText
