import Migration.Failure
import Migration.Json.Coding
import Migration.Text.Blank
import Migration.Timestamp.Basic

namespace Migration

open Calendar Json

/-! The text of a timestamp, as in `2024_01_31_235900`. -/

namespace Timestamp

def digitsOf (width number : Nat) : List Char :=
  let digits := Nat.toDigits 10 number
  List.replicate (width - digits.length) '0' ++ digits

/-- A year of other than four digits carries its sign. -/
def yearText (year : Int) : List Char :=
  if 0 ≤ year ∧ year ≤ 9999 then digitsOf 4 year.toNat
  else (if year < 0 then '-' else '+') :: digitsOf 4 year.natAbs

def characters (timestamp : Timestamp) : List Char :=
  let date := Date.ofDayNumber timestamp.day
  let second := timestamp.second % 60 + (if timestamp.leap then 1 else 0)
  yearText date.year ++ ['_'] ++ digitsOf 2 date.month ++ ['_'] ++ digitsOf 2 date.day ++ ['_']
    ++ digitsOf 2 (timestamp.second / 3600) ++ digitsOf 2 (timestamp.second / 60 % 60)
    ++ digitsOf 2 second

def text (timestamp : Timestamp) : String :=
  .ofList timestamp.characters

/-! Reading takes at most two digits for each part and at most four for a year without a sign, and
passes over blanks before a number. -/

def valueOfDigits (digits : List Char) : Nat :=
  digits.foldl (fun number digit => number * 10 + (digit.toNat - 48)) 0

def readDigits (most : Nat) (text : List Char) : Option (Nat × List Char) :=
  let text := Text.trimLeft text
  let digits := (text.take most).takeWhile Char.isDigit
  if digits.isEmpty then none else some (valueOfDigits digits, text.drop digits.length)

def readSignedYear (sign : Int) (text : List Char) : Option (Int × List Char) :=
  let digits := text.takeWhile Char.isDigit
  if digits.isEmpty then none else some (sign * valueOfDigits digits, text.drop digits.length)

def readYear (text : List Char) : Option (Int × List Char) :=
  match Text.trimLeft text with
  | '-' :: text => readSignedYear (-1) text
  | '+' :: text => readSignedYear 1 text
  | text => (readDigits 4 text).map fun (year, text) => (year, text)

def readSeparator : List Char → Option (List Char)
  | '_' :: text => some text
  | _ => none

/-- The minute may have a sixtieth second, which is a leap second. -/
def ofFields? (date : Date) (hour minute second : Nat) : Option Timestamp :=
  let leap := second = 60
  let secondOfDay := hour * 3600 + minute * 60 + (if leap then 59 else second)
  let number := date.dayNumber
  if valid : date.exists? = true ∧ (firstDay ≤ number ∧ number ≤ lastDay)
      ∧ hour ≤ 23 ∧ minute ≤ 59 ∧ second ≤ 60 then
    some
      { day := number
        second := secondOfDay
        leap := leap
        day_mem := valid.2.1
        second_lt := by
          rcases valid with ⟨-, -, hourWithin, minuteWithin, secondWithin⟩
          simp only [secondOfDay]; split <;> omega
        second_of_leap := by
          intro isLeap
          simp only [leap, decide_eq_true_eq] at isLeap
          simp only [secondOfDay, leap, isLeap, if_true]; omega }
  else none

def ofCharacters? (text : List Char) : Option Timestamp := do
  let (year, text) ← readYear text
  let text ← readSeparator text
  let (month, text) ← readDigits 2 text
  let text ← readSeparator text
  let (day, text) ← readDigits 2 text
  let text ← readSeparator text
  let (hour, text) ← readDigits 2 text
  let (minute, text) ← readDigits 2 text
  let (second, text) ← readDigits 2 text
  if text.isEmpty then ofFields? ⟨year, month, day⟩ hour minute second else none

def ofText? (text : String) : Option Timestamp :=
  ofCharacters? (Text.trim text.toList)

def parse (text : String) : Except Failure Timestamp :=
  match ofText? text with
  | some timestamp => .ok timestamp
  | none => .error (.invalidTimestamp text)

end Timestamp

instance : Encode Timestamp := ⟨fun timestamp => .string timestamp.text⟩

instance : Decode Timestamp where
  decode
    | .string text =>
        match Timestamp.parse text with
        | .ok timestamp => .ok timestamp
        | .error failure => .error (.rejected failure.message)
    | _ => .error (.unexpected "a timestamp")

end Migration
