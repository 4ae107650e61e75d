import Migration.Proofs.Timestamp.Calendar
import Migration.Timestamp.Basic

namespace Migration

/-! How dates and timestamps follow each other. Days are numbered in the order of their dates, and
the day after a date is the next one of its month, or else the first of the next month. A timestamp
some seconds later comes after it, as long as its year is one of four digits. -/

namespace Calendar

/-! ## Months, counted through from the March of year 0 -/

/-- The days before the March of a year. -/
def daysBeforeMarch (year : Int) : Int :=
  year / 400 * 146097 + daysBeforeYear (year % 400)

def monthStart (number : Int) : Int :=
  daysBeforeMarch (number / 12) + daysBeforeMonth (number % 12)

theorem daysBeforeMarch_add_one (year : Int) :
    daysBeforeMarch (year + 1) =
      daysBeforeMarch year + (if isLeapYear (year + 1) then 366 else 365) := by
  simp only [daysBeforeMarch, daysBeforeYear, isLeapYear, Bool.and_eq_true, Bool.or_eq_true,
    decide_eq_true_eq]
  split <;> omega

theorem daysBeforeMarch_add_le {first last : Int} (ordered : first < last) :
    daysBeforeMarch first + 365 ≤ daysBeforeMarch last := by
  simp only [daysBeforeMarch, daysBeforeYear]
  omega

theorem monthStart_le {first last : Int} (ordered : first ≤ last) :
    monthStart first ≤ monthStart last := by
  simp only [monthStart, daysBeforeMonth]
  by_cases sameYear : first / 12 = last / 12
  · rw [sameYear]
    omega
  · have years := daysBeforeMarch_add_le (show first / 12 < last / 12 by omega)
    omega

namespace Date

def monthNumber (date : Date) : Int :=
  date.year * 12 + date.month - 3

theorem dayNumber_eq {date : Date} (within : 1 ≤ date.month ∧ date.month ≤ 12) :
    date.dayNumber = monthStart date.monthNumber + (date.day - 1) := by
  rcases date with ⟨year, month, day⟩
  simp only at within
  by_cases early : month ≤ 2
  · have yearEq : (year * 12 + (month : Int) - 3) / 12 = year - 1 := by omega
    have monthEq : (year * 12 + (month : Int) - 3) % 12 = (month + 9 : Nat) := by omega
    simp only [dayNumber, monthStart, monthNumber, yearEq, monthEq, early, if_true]
    rfl
  · have yearEq : (year * 12 + (month : Int) - 3) / 12 = year := by omega
    have monthEq : (year * 12 + (month : Int) - 3) % 12 = (month - 3 : Nat) := by omega
    simp only [dayNumber, monthStart, monthNumber, yearEq, monthEq, early, if_false]
    rfl

/-- A month ends where the next one begins. -/
theorem monthStart_add_one {date : Date} (within : 1 ≤ date.month ∧ date.month ≤ 12) :
    monthStart (date.monthNumber + 1) =
      monthStart date.monthNumber + daysInMonth date.year date.month := by
  rcases date with ⟨year, month, day⟩
  simp only at within
  by_cases february : month = 2
  · -- The year that is counted from March ends with it.
    subst february
    have years := daysBeforeMarch_add_one (year - 1)
    rw [Int.sub_add_cancel] at years
    have yearEq : (year * 12 + (2 : Nat) - 3) / 12 = year - 1 := by omega
    have nextEq : (year * 12 + (2 : Nat) - 3 + 1) / 12 = year := by omega
    have monthEq : (year * 12 + (2 : Nat) - 3) % 12 = 11 := by omega
    have nextMonthEq : (year * 12 + (2 : Nat) - 3 + 1) % 12 = 0 := by omega
    simp only [monthStart, monthNumber, yearEq, nextEq, monthEq, nextMonthEq, years,
      daysBeforeMonth, daysInMonth, if_true]
    split <;> omega
  · generalize counted : year * 12 + (month : Int) - 3 = number
    have yearEq : (number + 1) / 12 = number / 12 := by omega
    have monthEq : (number + 1) % 12 = number % 12 + 1 := by omega
    have named : (if number % 12 < 10 then number % 12 + 3 else number % 12 - 9).toNat = month := by
      split <;> omega
    have length := daysInMonth_eq year (show 0 ≤ number % 12 ∧ number % 12 ≤ 10 by omega)
    rw [named] at length
    simp only [monthStart, monthNumber, counted, yearEq, monthEq, length]
    omega

/-! ## Days -/

def before (left right : Date) : Prop :=
  left.year < right.year ∨ left.year = right.year
    ∧ (left.month < right.month ∨ left.month = right.month ∧ left.day < right.day)

/-- The next day of the month, or else the first of the next month. -/
def next (date : Date) : Date :=
  if date.day < daysInMonth date.year date.month then { date with day := date.day + 1 }
  else if date.month < 12 then ⟨date.year, date.month + 1, 1⟩
  else ⟨date.year + 1, 1, 1⟩

example : (⟨2024, 2, 28⟩ : Date).next = ⟨2024, 2, 29⟩ ∧ (⟨1900, 2, 28⟩ : Date).next = ⟨1900, 3, 1⟩
    ∧ (⟨-1, 12, 31⟩ : Date).next = ⟨0, 1, 1⟩ := by decide

theorem dayNumber_lt_of_before {left right : Date} (leftExists : left.exists? = true)
    (rightExists : right.exists? = true) (isBefore : left.before right) :
    left.dayNumber < right.dayNumber := by
  have ⟨leftFirst, leftLast, _, leftDay⟩ := exists?_eq_true.mp leftExists
  have ⟨rightFirst, rightLast, rightDay, _⟩ := exists?_eq_true.mp rightExists
  rw [dayNumber_eq ⟨leftFirst, leftLast⟩, dayNumber_eq ⟨rightFirst, rightLast⟩]
  have length := monthStart_add_one ⟨leftFirst, leftLast⟩
  by_cases sameMonth : left.monthNumber = right.monthNumber
  · rw [sameMonth]
    simp only [monthNumber] at sameMonth
    rcases isBefore with year | ⟨year, month | ⟨month, day⟩⟩ <;> omega
  · have later : left.monthNumber + 1 ≤ right.monthNumber := by
      simp only [monthNumber] at sameMonth ⊢
      rcases isBefore with year | ⟨year, month | ⟨month, day⟩⟩ <;> omega
    have starts := monthStart_le later
    omega

theorem before_or_eq_or_before (left right : Date) :
    left.before right ∨ left = right ∨ right.before left := by
  rcases left with ⟨leftYear, leftMonth, leftDay⟩
  rcases right with ⟨rightYear, rightMonth, rightDay⟩
  simp only [before, mk.injEq]
  omega

/-- Dates follow each other as their numbers do. -/
theorem before_ofDayNumber {left right : Int} (less : left < right) :
    (ofDayNumber left).before (ofDayNumber right) := by
  have leftExists := exists?_ofDayNumber left
  have rightExists := exists?_ofDayNumber right
  rcases before_or_eq_or_before (ofDayNumber left) (ofDayNumber right) with
    isBefore | same | isBefore
  · exact isBefore
  · have sameNumber := congrArg dayNumber same
    rw [dayNumber_ofDayNumber, dayNumber_ofDayNumber] at sameNumber
    omega
  · have greater := dayNumber_lt_of_before rightExists leftExists isBefore
    rw [dayNumber_ofDayNumber, dayNumber_ofDayNumber] at greater
    omega

theorem year_ofDayNumber_le {left right : Int} (ordered : left ≤ right) :
    (ofDayNumber left).year ≤ (ofDayNumber right).year := by
  rcases Int.le_iff_lt_or_eq.mp ordered with less | rfl
  · rcases before_ofDayNumber less with year | ⟨year, _⟩
    · exact Int.le_of_lt year
    · exact Int.le_of_eq year
  · exact Int.le_refl _

/-- The date of a number is the only one that has it. -/
theorem ofDayNumber_dayNumber {date : Date} (dateExists : date.exists? = true) :
    ofDayNumber date.dayNumber = date := by
  have numberExists := exists?_ofDayNumber date.dayNumber
  have sameNumber := dayNumber_ofDayNumber date.dayNumber
  rcases before_or_eq_or_before (ofDayNumber date.dayNumber) date with
    isBefore | same | isBefore
  · have less := dayNumber_lt_of_before numberExists dateExists isBefore
    omega
  · exact same
  · have less := dayNumber_lt_of_before dateExists numberExists isBefore
    omega

theorem one_le_daysInMonth (year : Int) (month : Nat) : 1 ≤ daysInMonth year month := by
  rw [daysInMonth]
  repeat' split
  all_goals decide

theorem exists?_next {date : Date} (dateExists : date.exists? = true) :
    date.next.exists? = true ∧ date.next.dayNumber = date.dayNumber + 1 := by
  have ⟨first, last, day, dayLast⟩ := exists?_eq_true.mp dateExists
  have number : date.dayNumber = _ := dayNumber_eq ⟨first, last⟩
  have length := monthStart_add_one ⟨first, last⟩
  -- The first of a month comes after the last day of the month before it.
  have firstDay {year : Int} {month : Nat} (within : 1 ≤ month ∧ month ≤ 12)
      (follows : monthNumber ⟨year, month, 1⟩ = date.monthNumber + 1)
      (ends : ¬date.day < daysInMonth date.year date.month) :
      exists? ⟨year, month, 1⟩ = true ∧ dayNumber ⟨year, month, 1⟩ = date.dayNumber + 1 := by
    refine ⟨exists?_eq_true.mpr ⟨within.1, within.2, Nat.le_refl 1, one_le_daysInMonth ..⟩, ?_⟩
    rw [dayNumber_eq within, number, follows, length]
    dsimp only
    omega
  rw [next]
  split
  case isTrue inside =>
    refine ⟨exists?_eq_true.mpr ⟨first, last, Nat.succ_pos _, inside⟩, ?_⟩
    have later : dayNumber { date with day := date.day + 1 } = _ := dayNumber_eq ⟨first, last⟩
    rw [number, later]
    simp only [monthNumber]
    omega
  case isFalse ends =>
    split
    case isTrue notLast =>
      exact firstDay ⟨by omega, notLast⟩ (by simp only [monthNumber]; omega) ends
    case isFalse notBefore =>
      exact firstDay ⟨by omega, by omega⟩ (by simp only [monthNumber]; omega) ends

theorem ofDayNumber_add_one (number : Int) :
    ofDayNumber (number + 1) = (ofDayNumber number).next := by
  have ⟨nextExists, counted⟩ := exists?_next (exists?_ofDayNumber number)
  rw [dayNumber_ofDayNumber] at counted
  rw [← counted, ofDayNumber_dayNumber nextExists]

end Date

end Calendar

/-! ## Timestamps -/

namespace Timestamp

open Calendar

def date (timestamp : Timestamp) : Date :=
  .ofDayNumber timestamp.day

/-- The year that many seconds after the timestamp. -/
def yearAfter (timestamp : Timestamp) (seconds : Nat) : Int :=
  (Date.ofDayNumber (timestamp.day + (timestamp.second + seconds) / 86400)).year

/-- From the timestamp to that many seconds later all years are written with four digits. -/
def WithinFourDigits (timestamp : Timestamp) (seconds : Nat) : Prop :=
  0 ≤ timestamp.date.year ∧ timestamp.yearAfter seconds ≤ 9999

instance (timestamp : Timestamp) (seconds : Nat) : Decidable (timestamp.WithinFourDigits seconds) :=
  inferInstanceAs (Decidable (_ ∧ _))

/-- One second later by the clock and the calendar. What follows a leap second is what follows the
second before it. -/
def IsNextSecond (left right : Timestamp) : Prop :=
  right.leap = false ∧
    if left.second + 1 < 86400 then right.second = left.second + 1 ∧ right.date = left.date
    else right.second = 0 ∧ right.date = left.date.next

theorem yearAfter_le (timestamp : Timestamp) {first last : Nat} (ordered : first ≤ last) :
    timestamp.yearAfter first ≤ timestamp.yearAfter last :=
  Date.year_ofDayNumber_le (by omega)

/-- Up to the year 9999 no sum leaves the calendar. -/
theorem plusSeconds_of_yearAfter_le {timestamp : Timestamp} {seconds : Nat}
    (fits : timestamp.yearAfter seconds ≤ 9999) :
    (timestamp.plusSeconds seconds).day = timestamp.day + (timestamp.second + seconds) / 86400
      ∧ (timestamp.plusSeconds seconds).second = (timestamp.second + seconds) % 86400
      ∧ (0 < seconds → (timestamp.plusSeconds seconds).leap = false) := by
  have secondLess := timestamp.second_lt
  by_cases none : seconds = 0
  · subst none
    rw [Int.ofNat_zero, plusSeconds_zero]
    omega
  have within : firstDay ≤ timestamp.day + ((timestamp.second : Int) + seconds) / 86400
      ∧ timestamp.day + ((timestamp.second : Int) + seconds) / 86400 ≤ lastDay := by
    have dayMem := timestamp.day_mem
    refine ⟨by omega, ?_⟩
    by_contra beyond
    have years := Date.year_ofDayNumber_le (Int.le_of_lt (Int.not_le.mp beyond))
    have lastYear : (Date.ofDayNumber lastDay).year = 262142 := by decide
    rw [yearAfter] at fits
    omega
  have nonzero : (seconds : Int) ≠ 0 := by omega
  have forward : ¬(seconds : Int) < 0 := by omega
  have sum : timestamp.plusSeconds seconds =
      (ofSecondOfDay? timestamp.day ((timestamp.second : Int) + seconds)).getD timestamp := by
    rw [plusSeconds, if_neg nonzero]
    simp [forward]
  rw [sum, ofSecondOfDay?, dif_pos within, Option.getD_some]
  refine ⟨rfl, ?_, fun _ => rfl⟩
  dsimp only
  omega

/-- Of two sums the one of more seconds comes later, from a leap second on too. -/
theorem plusSeconds_before {timestamp : Timestamp} {first last : Nat} (less : first < last)
    (fits : timestamp.yearAfter last ≤ 9999) :
    (timestamp.plusSeconds first).before (timestamp.plusSeconds last) = true := by
  have earlierFits := Int.le_trans (timestamp.yearAfter_le (Nat.le_of_lt less)) fits
  have ⟨lastDay, lastSecond, _⟩ := plusSeconds_of_yearAfter_le fits
  have ⟨firstDay, firstSecond, _⟩ := plusSeconds_of_yearAfter_le earlierFits
  simp only [before, lastDay, lastSecond, firstDay, firstSecond, Bool.or_eq_true, Bool.and_eq_true,
    decide_eq_true_eq]
  omega

/-- A second is carried into minutes and hours, and from the last second of a day into the next
day, month and year. -/
theorem isNextSecond_plusSeconds {timestamp : Timestamp} {seconds : Nat}
    (fits : timestamp.yearAfter (seconds + 1) ≤ 9999) :
    (timestamp.plusSeconds seconds).IsNextSecond (timestamp.plusSeconds (seconds + 1 : Nat)) := by
  have earlierFits := Int.le_trans (timestamp.yearAfter_le (Nat.le_succ seconds)) fits
  have ⟨nextDay, nextSecond, nextLeap⟩ := plusSeconds_of_yearAfter_le fits
  have ⟨day, second, _⟩ := plusSeconds_of_yearAfter_le earlierFits
  refine ⟨nextLeap (Nat.succ_pos seconds), ?_⟩
  rw [nextSecond, date, date, nextDay, second, day]
  split
  case isTrue inside =>
    refine ⟨by omega, congrArg _ ?_⟩
    omega
  case isFalse ends =>
    refine ⟨by omega, ?_⟩
    rw [← Date.ofDayNumber_add_one]
    refine congrArg _ ?_
    omega

end Timestamp

end Migration
