/-
  Moments: dates and times of TOML.

  * `date` reads a day of the calendar, with leap years, `time` a time of day, which may be a leap
    second, and `offset` the distance from universal time.
  * `moment` reads a date, a time, or both with or without an offset.
-/
import ScalarStubs.Toml.Number

namespace ScalarStubs.Toml

open Reader

/-- Reads a number of so many digits, between two bounds. -/
def fixed (count low high : Nat) : Reader Nat := fun cs => do
  let ds := cs.take count
  guard (ds.length = count ∧ ds.all (isDigitOf 10))
  guard (low ≤ valueOf 10 ds ∧ valueOf 10 ds ≤ high)
  return (valueOf 10 ds, cs.drop count)

/-- Whether a year has a 29th of February. -/
def isLeapYear (year : Nat) : Bool :=
  year % 4 == 0 && (year % 100 != 0 || year % 400 == 0)

/-- The number of days of a month. -/
def daysIn (year month : Nat) : Nat :=
  if month = 2 then if isLeapYear year then 29 else 28
  else if month = 4 ∨ month = 6 ∨ month = 9 ∨ month = 11 then 30
  else 31

/-- Reads a day of the calendar. -/
def date : Reader Unit := do
  let year ← fixed 4 0 9999
  exactly "-"
  let month ← fixed 2 1 12
  exactly "-"
  let _ ← fixed 2 1 (daysIn year month)

/-- Reads a time of day. -/
def time : Reader Unit := do
  let _ ← fixed 2 0 23
  exactly ":"
  let _ ← fixed 2 0 59
  exactly ":"
  let _ ← fixed 2 0 60
  let _ ← optional do
    exactly "."
    let _ ← oneOf (isDigitOf 10)
    span (isDigitOf 10)

/-- Reads the distance from universal time. -/
def offset : Reader Unit :=
  (do let _ ← oneOf fun c => c == 'Z' || c == 'z') <|> (do
    let _ ← oneOf fun c => c == '+' || c == '-'
    let _ ← fixed 2 0 23
    exactly ":"
    let _ ← fixed 2 0 59)

/-- Reads a date, a time of day, or a date and a time. -/
def moment : Reader Unit :=
  (do
    date
    let _ ← optional do
      let _ ← oneOf fun c => c == 'T' || c == 't' || c == ' '
      time
      optional offset) <|>
  time

end ScalarStubs.Toml
