/-! Points in time, and how they are written: date and time of day in UTC. -/

namespace MinEntropy

/-- Seconds since the beginning of 1970 and nanoseconds beyond them. A second that has more than a
thousand million of them is followed by a leap second. -/
structure Timestamp where
  seconds : Int
  nanos : Nat
  deriving DecidableEq, Repr

namespace Timestamp

/-- A day of the calendar. -/
structure Date where
  year : Int
  month : Nat
  day : Nat
  deriving DecidableEq, Repr

/-- Days of the month, counted from a year that begins in March. -/
def monthAndDay (dayOfYear : Nat) : Nat × Nat :=
  let m := (5 * dayOfYear + 2) / 153
  (if m < 10 then m + 3 else m - 9, dayOfYear - (153 * m + 2) / 5 + 1)

/-- The date of a day counted from the first of January 1970. The calendar repeats every 146097
days. -/
def dateOfDay (days : Int) : Date :=
  let z := days + 719468
  let era := z.fdiv 146097
  let d := (z - era * 146097).toNat
  let year := (d - d / 1460 + d / 36524 - d / 146096) / 365
  let (month, day) := monthAndDay (d - (365 * year + year / 4 - year / 100))
  ⟨era * 400 + year + (if month ≤ 2 then 1 else 0), month, day⟩

/-- A number with leading zeros. -/
def padded (width n : Nat) : String :=
  let digits := Nat.toDigits 10 n
  String.ofList (List.replicate (width - digits.length) '0' ++ digits)

/-- Years beyond four digits and before the year zero carry a sign. -/
def yearText (year : Int) : String :=
  if 0 ≤ year ∧ year ≤ 9999 then padded 4 year.toNat
  else (if year < 0 then "-" else "+") ++ padded 4 year.natAbs

/-- Decimals of a second in groups of three, as many as are needed. -/
def fractionText (nanos : Nat) : String :=
  if nanos = 0 then ""
  else if nanos % 1000000 = 0 then "." ++ padded 3 (nanos / 1000000)
  else if nanos % 1000 = 0 then "." ++ padded 6 (nanos / 1000)
  else "." ++ padded 9 nanos

def text (t : Timestamp) : String :=
  let date := dateOfDay (t.seconds.fdiv 86400)
  let second := (t.seconds.fmod 86400).toNat
  let leap := 1000000000 ≤ t.nanos
  let clock := padded 2 (second / 3600) ++ ":" ++ padded 2 (second / 60 % 60) ++ ":" ++
    padded 2 (second % 60 + if leap then 1 else 0)
  yearText date.year ++ "-" ++ padded 2 date.month ++ "-" ++ padded 2 date.day ++ "T" ++ clock ++
    fractionText (if leap then t.nanos - 1000000000 else t.nanos) ++ "Z"

end Timestamp

end MinEntropy
