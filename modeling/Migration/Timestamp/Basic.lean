import Migration.Timestamp.Calendar

namespace Migration

open Calendar

/-! The moment a migration is stamped with. A leap second can follow the last second of any
minute. -/

structure Timestamp where
  day : Int
  second : Nat
  leap : Bool
  day_mem : firstDay ≤ day ∧ day ≤ lastDay
  second_lt : second < 86400
  second_of_leap : leap = true → second % 60 = 59
  deriving DecidableEq

namespace Timestamp

def ofSecondOfDay? (day second : Int) : Option Timestamp :=
  let number := day + second / 86400
  if within : firstDay ≤ number ∧ number ≤ lastDay then
    some
      { day := number
        second := (second % 86400).toNat
        leap := false
        day_mem := within
        second_lt := by omega
        second_of_leap := by simp }
  else none

/-- A leap second stands for the second before it on the way forward and for the second after it
on the way back. A sum beyond the last or before the first day leaves the timestamp as it is. -/
def plusSeconds (timestamp : Timestamp) (seconds : Int) : Timestamp :=
  if seconds = 0 then timestamp
  else
    let start : Int :=
      if timestamp.leap && seconds < 0 then timestamp.second + 1 else timestamp.second
    (ofSecondOfDay? timestamp.day (start + seconds)).getD timestamp

@[simp] theorem plusSeconds_zero (timestamp : Timestamp) :
    timestamp.plusSeconds 0 = timestamp := rfl

/-- The first second of 1970. -/
def unixEpoch : Timestamp :=
  ⟨Date.dayNumber ⟨1970, 1, 1⟩, 0, false, by decide, by decide, by decide⟩

/-- The most seconds that one step can span. -/
def longestStep : Nat := 9223372036854775

def plusSeconds? (timestamp : Timestamp) (seconds : Int) : Option Timestamp :=
  if seconds.natAbs ≤ longestStep then some (timestamp.plusSeconds seconds) else none

/-- Whether one moment comes before another. A leap second comes after the second before it. -/
def before (left right : Timestamp) : Bool :=
  left.day < right.day || (left.day = right.day
    && (left.second < right.second || (left.second = right.second && !left.leap && right.leap)))

end Timestamp

end Migration
