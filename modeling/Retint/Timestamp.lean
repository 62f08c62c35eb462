import Retint.Text

/-!
# Timestamps

A moment is counted in milliseconds from the start of the year 1970, and written as a date and a
time of day.

## Main definitions

* `Timestamp.date` — the year, month and day of a day
* `Timestamp.text` — a moment as it is written

## Implementation notes

Years are counted from the first of March, so that a leap day is the last day of its year. The days
of 400 such years are 146097, and a month's place in the year follows from `(153 * m + 2) / 5`.
-/

namespace Retint.Timestamp

/-- The year, month and day of a day, which is counted from the start of the year 1970. -/
def date (day : Nat) : Nat × Nat × Nat :=
  let era := (day + 719468) / 146097
  let dayOfEra := (day + 719468) % 146097
  let yearOfEra := (dayOfEra - dayOfEra / 1460 + dayOfEra / 36524 - dayOfEra / 146096) / 365
  let dayOfYear := dayOfEra - (365 * yearOfEra + yearOfEra / 4 - yearOfEra / 100)
  let m := (5 * dayOfYear + 2) / 153
  let month := if m < 10 then m + 3 else m - 9
  (yearOfEra + era * 400 + (if month ≤ 2 then 1 else 0), month, dayOfYear - (153 * m + 2) / 5 + 1)

/-- A number with at least so many digits. -/
def padded (width n : Nat) : Text :=
  let digits := Nat.toDigits 10 n
  List.replicate (width - digits.length) '0' ++ digits

/-- A moment: date, time of day, and milliseconds after a point. -/
def text (milliseconds : Nat) : Text :=
  let seconds := milliseconds / 1000
  let (year, month, day) := date (seconds / 86400)
  let time := seconds % 86400
  padded 4 year ++ '-' :: padded 2 month ++ '-' :: padded 2 day ++ ' ' ::
    padded 2 (time / 3600) ++ ':' :: padded 2 (time / 60 % 60) ++ ':' :: padded 2 (time % 60) ++
    '.' :: padded 3 (milliseconds % 1000)

end Retint.Timestamp
