import SampleLoad.Time.Calendar

/-!
The texts of instants: date, `T`, time of day and `Z`. A row cell has always three decimals; the plain
text has none, three, six or nine, as few as hold the instant exactly.
-/

namespace SampleLoad

/-- A number in decimal with zeros in front up to a width. -/
def zeroPadded (width n : Nat) : List Char :=
  let digits := Nat.toDigits 10 n
  List.replicate (width - digits.length) '0' ++ digits

namespace Date

/-- Years of four digits stand alone; all others have a sign. -/
def yearText (year : Int) : List Char :=
  if 0 ≤ year ∧ year ≤ 9999 then zeroPadded 4 year.toNat
  else (if year < 0 then '-' else '+') :: zeroPadded 4 year.natAbs

def text (d : Date) : List Char :=
  yearText d.year ++ '-' :: zeroPadded 2 d.month ++ '-' :: zeroPadded 2 d.day

end Date

namespace Instant

/-- Date and time of day to the second. -/
def secondText (t : Instant) : List Char :=
  let c := t.clockTime
  c.date.text ++ 'T' :: zeroPadded 2 c.hour ++ ':' :: zeroPadded 2 c.minute ++
    ':' :: zeroPadded 2 c.second

/-- The text of a row cell: three decimals, further ones cut off. -/
def cellText (t : Instant) : String :=
  String.ofList (t.secondText ++ '.' :: zeroPadded 3 (t.subsecond / 1000000) ++ ['Z'])

/-- The decimals of the plain text. -/
def exactDecimals (subsecond : Nat) : List Char :=
  if subsecond = 0 then []
  else if subsecond % 1000000 = 0 then '.' :: zeroPadded 3 (subsecond / 1000000)
  else if subsecond % 1000 = 0 then '.' :: zeroPadded 6 (subsecond / 1000)
  else '.' :: zeroPadded 9 subsecond

/-- The plain text, exact to the nanosecond. -/
def exactText (t : Instant) : String :=
  String.ofList (t.secondText ++ exactDecimals t.subsecond ++ ['Z'])

end Instant

end SampleLoad
