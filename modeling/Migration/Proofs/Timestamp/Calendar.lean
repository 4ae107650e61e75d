import Mathlib.Tactic.IntervalCases
import Migration.Timestamp.Calendar

namespace Migration.Calendar

/-! Every day number is that of a date of the calendar. -/

/-- A day of a cycle: in one of its four centuries, in a run of four years within that, in one of
these years. Only the last year of a run can have 366 days, and the last run of a century has none
such unless the century is the last of the cycle. -/
structure DayOfCycle where
  century : Int
  run : Int
  year : Int
  day : Int
  century_mem : 0 ≤ century ∧ century ≤ 3
  run_mem : 0 ≤ run ∧ run ≤ 24
  year_mem : 0 ≤ year ∧ year ≤ 3
  day_mem : 0 ≤ day ∧ day ≤ 365
  leap : day = 365 → year = 3 ∧ (run = 24 → century = 3)

namespace DayOfCycle

def yearOfCycle (place : DayOfCycle) : Int :=
  100 * place.century + 4 * place.run + place.year

/-- The days of the cycle before the year. -/
def start (place : DayOfCycle) : Int :=
  36524 * place.century + 1461 * place.run + 365 * place.year

theorem exists_of_mem {dayOfCycle : Int} (within : 0 ≤ dayOfCycle ∧ dayOfCycle < 146097) :
    ∃ place : DayOfCycle, dayOfCycle = place.start + place.day := by
  let century := min 3 (dayOfCycle / 36524)
  let dayOfCentury := dayOfCycle - 36524 * century
  let run := dayOfCentury / 1461
  let year := min 3 (dayOfCentury % 1461 / 365)
  let day := dayOfCentury % 1461 - 365 * year
  exact ⟨⟨century, run, year, day, by omega, by omega, by omega, by omega, by omega⟩,
    by simp only [start]; omega⟩

theorem daysBeforeYear_yearOfCycle (place : DayOfCycle) :
    daysBeforeYear place.yearOfCycle = place.start := by
  rcases place with ⟨century, run, year, day, century_mem, run_mem, year_mem, -, -⟩
  simp only [daysBeforeYear, yearOfCycle, start]
  omega

theorem yearOfCycle_eq (place : DayOfCycle) {dayOfCycle : Int}
    (same : dayOfCycle = place.start + place.day) :
    (dayOfCycle - dayOfCycle / 1460 + dayOfCycle / 36524 - dayOfCycle / 146096) / 365 =
      place.yearOfCycle := by
  rcases place with ⟨century, run, year, day, century_mem, run_mem, year_mem, day_mem, leap⟩
  simp only [start, yearOfCycle] at same ⊢
  -- The last two quotients count the centuries, and the first the runs of four years or one more.
  have centuries : dayOfCycle / 36524 - dayOfCycle / 146096 = century := by
    have last : dayOfCycle = 146096 ∧ century = 3 ∨ dayOfCycle < 36524 * (century + 1) := by omega
    rcases last with last | before
    · omega
    · have wholeCenturies : dayOfCycle / 36524 = century := by omega
      have noCycle : dayOfCycle / 146096 = 0 := by omega
      omega
  have runs : dayOfCycle / 1460 = 25 * century + run ∧ day ≤ 364
      ∨ dayOfCycle / 1460 = 25 * century + run + 1 ∧ 1 ≤ day := by omega
  omega

end DayOfCycle

theorem daysInMonth_le (year : Int) (month : Nat) : daysInMonth year month ≤ 31 := by
  rw [daysInMonth]
  repeat' split
  all_goals decide

namespace Date

/-- The date of a day of a cycle, by the month counted from March. -/
theorem exists_ofDayNumber_eq (number : Int) : ∃ (cycle : Int) (place : DayOfCycle),
    number = cycle * 146097 + (place.start + place.day)
      ∧ ofDayNumber number =
        let month := (5 * place.day + 2) / 153
        { year := cycle * 400 + place.yearOfCycle + (if month < 10 then 0 else 1)
          month := (if month < 10 then month + 3 else month - 9).toNat
          day := (place.day - daysBeforeMonth month + 1).toNat } := by
  have within : 0 ≤ number % 146097 ∧ number % 146097 < 146097 := by omega
  rcases DayOfCycle.exists_of_mem within with ⟨place, same⟩
  refine ⟨number / 146097, place, by omega, ?_⟩
  have day : number % 146097 - place.start = place.day := by omega
  have dayMem := place.day_mem
  simp only [ofDayNumber, place.yearOfCycle_eq same, place.daysBeforeYear_yearOfCycle, day]
  split <;> simp <;> omega

theorem dayNumber_ofDayNumber (number : Int) : (ofDayNumber number).dayNumber = number := by
  rcases exists_ofDayNumber_eq number with ⟨cycle, place, whole, same⟩
  have beforeYear := place.daysBeforeYear_yearOfCycle
  have yearMem : 0 ≤ place.yearOfCycle ∧ place.yearOfCycle ≤ 399 := by
    rcases place with ⟨century, run, year, day, century_mem, run_mem, year_mem, -, -⟩
    simp only [DayOfCycle.yearOfCycle]
    omega
  have dayMem := place.day_mem
  have inCycle : (cycle * 400 + place.yearOfCycle) / 400 = cycle
      ∧ (cycle * 400 + place.yearOfCycle) % 400 = place.yearOfCycle := by omega
  rw [same]
  by_cases before : (5 * place.day + 2) / 153 < 10
  · have late : ¬(((5 * place.day + 2) / 153 + 3).toNat ≤ 2) := by omega
    have year : cycle * 400 + place.yearOfCycle + 0 = cycle * 400 + place.yearOfCycle := by omega
    simp only [dayNumber, before, if_true, late, if_false, year, inCycle, beforeYear,
      daysBeforeMonth]
    omega
  · have early : ((5 * place.day + 2) / 153 - 9).toNat ≤ 2 := by omega
    have year : cycle * 400 + place.yearOfCycle + 1 - 1 = cycle * 400 + place.yearOfCycle := by
      omega
    simp only [dayNumber, before, if_true, early, if_false, year, inCycle, beforeYear,
      daysBeforeMonth]
    omega

/-- From March to January, a month ends where the next begins. -/
theorem daysInMonth_eq (year : Int) {month : Int} (within : 0 ≤ month ∧ month ≤ 10) :
    (daysInMonth year (if month < 10 then month + 3 else month - 9).toNat : Int) =
      daysBeforeMonth (month + 1) - daysBeforeMonth month := by
  rcases within with ⟨first, last⟩
  interval_cases month <;> rfl

theorem exists?_eq_true {date : Date} : date.exists? = true ↔
    1 ≤ date.month ∧ date.month ≤ 12 ∧ 1 ≤ date.day
      ∧ date.day ≤ daysInMonth date.year date.month := by
  simp [exists?, and_assoc]

theorem exists?_ofDayNumber (number : Int) : (ofDayNumber number).exists? = true := by
  rcases exists_ofDayNumber_eq number with ⟨cycle, place, -, same⟩
  have dayMem := place.day_mem
  rw [exists?_eq_true, same]
  simp only
  by_cases february : (5 * place.day + 2) / 153 = 11
  · -- It ends with the year, on its day 364 or, if the year that has begun is a leap year, 365.
    have twentyNinth : place.day = 365 →
        isLeapYear (cycle * 400 + place.yearOfCycle + 1) = true := by
      intro last
      have leap := place.leap last
      have runMem := place.run_mem
      have centuryMem := place.century_mem
      simp only [isLeapYear, Bool.and_eq_true, Bool.or_eq_true, decide_eq_true_eq]
      simp only [DayOfCycle.yearOfCycle]
      omega
    have late : ¬(11 : Int) < 10 := by decide
    have second : (11 - 9 : Int).toNat = 2 := by decide
    simp only [february, late, if_false, second, daysBeforeMonth, daysInMonth, if_true]
    refine ⟨by decide, by decide, by omega, ?_⟩
    by_cases last : place.day = 365
    · simp [twentyNinth last, last]
    · split <;> omega
  · have within : 0 ≤ (5 * place.day + 2) / 153 ∧ (5 * place.day + 2) / 153 ≤ 10 := by omega
    have length := daysInMonth_eq (cycle * 400 + place.yearOfCycle
      + (if (5 * place.day + 2) / 153 < 10 then 0 else 1)) within
    simp only [daysBeforeMonth] at length ⊢
    generalize daysInMonth _ _ = days at length ⊢
    refine ⟨?_, ?_, ?_, ?_⟩
    · split <;> omega
    · split <;> omega
    · omega
    · omega

end Date

end Migration.Calendar
