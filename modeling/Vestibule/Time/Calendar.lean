import Vestibule.Text.Integer

/-! Days of the proleptic Gregorian calendar, counted from 1970-01-01. -/

namespace Vestibule

/-- A day, as its distance from 1970-01-01. -/
structure Date where
  day : Int
  deriving DecidableEq, Repr, Inhabited

namespace Date

def isLeapYear (year : Int) : Bool :=
  year % 4 = 0 && (year % 100 ≠ 0 || year % 400 = 0)

def daysInMonth (year : Int) (month : Nat) : Nat :=
  if month = 2 then (if isLeapYear year then 29 else 28)
  else if month = 4 ∨ month = 6 ∨ month = 9 ∨ month = 11 then 30
  else 31

/-- The number of a day whose year is counted from March, so that the leap day ends the year. -/
def ofMarchYear (year : Int) (dayOfYear : Nat) : Int :=
  let era := year / 400
  let yearOfEra := (year % 400).toNat
  era * 146097 + ↑(yearOfEra * 365 + yearOfEra / 4 - yearOfEra / 100 + dayOfYear) - 719468

/-- The day of a year, a month and a day of the month, when there is one. -/
def ofCivil? (year : Int) (month day : Nat) : Option Date :=
  if 1 ≤ month ∧ month ≤ 12 ∧ 1 ≤ day ∧ day ≤ daysInMonth year month then
    let marchYear := if month ≤ 2 then year - 1 else year
    let marchMonth := if month ≤ 2 then month + 9 else month - 3
    some ⟨ofMarchYear marchYear ((153 * marchMonth + 2) / 5 + day - 1)⟩
  else none

/-- Year, month and day of the month. -/
def civil (d : Date) : Int × Nat × Nat :=
  let shifted := d.day + 719468
  let era := shifted / 146097
  let dayOfEra := (shifted % 146097).toNat
  let yearOfEra := (dayOfEra - dayOfEra / 1460 + dayOfEra / 36524 - dayOfEra / 146096) / 365
  let dayOfYear := dayOfEra - (365 * yearOfEra + yearOfEra / 4 - yearOfEra / 100)
  let marchMonth := (5 * dayOfYear + 2) / 153
  let day := dayOfYear - (153 * marchMonth + 2) / 5 + 1
  let month := if marchMonth < 10 then marchMonth + 3 else marchMonth - 9
  let year := ↑yearOfEra + era * 400
  (if month ≤ 2 then year + 1 else year, month, day)

/-- Years from 0 to 9999 have four digits, others a sign and at least four digits. -/
def yearText (year : Int) : List Char :=
  if 0 ≤ year ∧ year ≤ 9999 then Integer.padded 4 year.toNat
  else (if year < 0 then '-' else '+') :: Integer.padded 4 year.natAbs

/-- `YYYY-MM-DD`. -/
def text (d : Date) : List Char :=
  let (year, month, day) := d.civil
  yearText year ++ '-' :: Integer.padded 2 month ++ '-' :: Integer.padded 2 day

end Date

end Vestibule
