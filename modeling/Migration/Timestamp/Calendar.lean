namespace Migration.Calendar

/-! Dates of the Gregorian calendar, extended to all years, and their day numbers. Day 0 is the
first of March of year 0; counted from March a leap day ends its year, and 400 years make one
cycle of 146097 days. -/

structure Date where
  year : Int
  month : Nat
  day : Nat
  deriving DecidableEq

def isLeapYear (year : Int) : Bool :=
  year % 4 = 0 && (year % 100 ≠ 0 || year % 400 = 0)

def daysInMonth (year : Int) (month : Nat) : Nat :=
  if month = 2 then (if isLeapYear year then 29 else 28)
  else if [4, 6, 9, 11].contains month then 30
  else 31

def Date.exists? (date : Date) : Bool :=
  1 ≤ date.month && date.month ≤ 12 && 1 ≤ date.day && date.day ≤ daysInMonth date.year date.month

/-- Days from the start of March to the start of the month that many months later. -/
def daysBeforeMonth (monthsSinceMarch : Int) : Int :=
  (153 * monthsSinceMarch + 2) / 5

/-- Days from the start of a cycle to the start of its year of that number. -/
def daysBeforeYear (yearOfCycle : Int) : Int :=
  365 * yearOfCycle + yearOfCycle / 4 - yearOfCycle / 100

def Date.dayNumber (date : Date) : Int :=
  let year := if date.month ≤ 2 then date.year - 1 else date.year
  let monthsSinceMarch := if date.month ≤ 2 then date.month + 9 else date.month - 3
  year / 400 * 146097 + daysBeforeYear (year % 400) + daysBeforeMonth monthsSinceMarch
    + (date.day - 1)

def Date.ofDayNumber (number : Int) : Date :=
  let dayOfCycle := number % 146097
  let yearOfCycle :=
    (dayOfCycle - dayOfCycle / 1460 + dayOfCycle / 36524 - dayOfCycle / 146096) / 365
  let dayOfYear := dayOfCycle - daysBeforeYear yearOfCycle
  let monthsSinceMarch := (5 * dayOfYear + 2) / 153
  let month := if monthsSinceMarch < 10 then monthsSinceMarch + 3 else monthsSinceMarch - 9
  let year := number / 146097 * 400 + yearOfCycle
  { year := if month ≤ 2 then year + 1 else year
    month := month.toNat
    day := (dayOfYear - daysBeforeMonth monthsSinceMarch + 1).toNat }

example : Date.ofDayNumber (Date.dayNumber ⟨2024, 2, 29⟩ + 1) = ⟨2024, 3, 1⟩ := by decide

/-! The days that a timestamp may fall on. -/

def firstDay : Int := Date.dayNumber ⟨-262143, 1, 1⟩

def lastDay : Int := Date.dayNumber ⟨262142, 12, 31⟩

end Migration.Calendar
