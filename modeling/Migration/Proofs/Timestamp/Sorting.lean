import Migration.Proofs.Text.Bytes
import Migration.Proofs.Timestamp.Succession
import Migration.Proofs.Timestamp.Text

namespace Migration

/-! Timestamps sort by their texts as they follow each other, as long as their years have four
digits: every part is written at its own width, and the greater parts come first. -/

/-- Of two lists of one length the order does not depend on what follows them. -/
theorem append_lt_append_of_length {α : Type} [LT α] {left right : List α}
    (same : left.length = right.length) (less : left < right) (leftRest rightRest : List α) :
    left ++ leftRest < right ++ rightRest := by
  induction less with
  | nil => simp at same
  | rel first => exact .rel first
  | cons _ induction => exact .cons (induction (Nat.succ.inj same))

namespace Timestamp

/-! ## Digits -/

theorem digitChar_lt {left right : Nat} (less : left < right) (fits : right < 10) :
    Nat.digitChar left < Nat.digitChar right := by
  change (Nat.digitChar left).toNat < (Nat.digitChar right).toNat
  rw [Nat.toNat_digitChar_of_lt_ten (by omega), Nat.toNat_digitChar_of_lt_ten fits]
  omega

theorem digitsOf_succ {width : Nat} (wide : 0 < width) (number : Nat) :
    digitsOf (width + 1) number =
      digitsOf width (number / 10) ++ [Nat.digitChar (number % 10)] := by
  by_cases small : number < 10
  · have quotient : number / 10 = 0 := by omega
    have rest : number % 10 = number := by omega
    simp only [digitsOf, quotient, rest, Nat.toDigits_of_lt_base small, Nat.toDigits_zero,
      List.length_singleton, Nat.add_sub_cancel]
    rw [← List.replicate_succ', Nat.sub_add_cancel wide]
  · rw [digitsOf, digitsOf, Nat.toDigits_of_base_le (by decide) (Nat.not_lt.mp small)]
    simp only [List.length_append, List.length_singleton, Nat.add_sub_add_right,
      List.append_assoc]

theorem digitsOf_lt_digitsOf {width left right : Nat} (wide : 0 < width) (less : left < right)
    (fits : right < 10 ^ width) : digitsOf width left < digitsOf width right := by
  induction width, wide using Nat.le_induction generalizing left right with
  | base =>
      have rightFits : right < 10 := fits
      rw [digitsOf, digitsOf, Nat.toDigits_of_lt_base (Nat.lt_trans less rightFits),
        Nat.toDigits_of_lt_base rightFits]
      exact .rel (digitChar_lt less rightFits)
  | succ width wide induction =>
      have rightFits : right / 10 < 10 ^ width := by omega
      rw [digitsOf_succ wide, digitsOf_succ wide]
      by_cases same : left / 10 = right / 10
      · rw [same]
        exact List.append_left_lt (.rel (digitChar_lt (by omega) (by omega)))
      · have quotients : left / 10 < right / 10 := by omega
        have leftFits : left / 10 < 10 ^ width := by omega
        refine append_lt_append_of_length ?_ (induction quotients rightFits) _ _
        rw [length_digitsOf wide leftFits, length_digitsOf wide rightFits]

/-- A number is compared before what follows it. -/
theorem digitsOf_append_lt {width left right : Nat} {leftRest rightRest : List Char}
    (wide : 0 < width) (leftFits : left < 10 ^ width) (rightFits : right < 10 ^ width)
    (less : left < right ∨ left = right ∧ leftRest < rightRest) :
    digitsOf width left ++ leftRest < digitsOf width right ++ rightRest := by
  rcases less with less | ⟨rfl, restLess⟩
  · refine append_lt_append_of_length ?_ (digitsOf_lt_digitsOf wide less rightFits) _ _
    rw [length_digitsOf wide leftFits, length_digitsOf wide rightFits]
  · exact List.append_left_lt restLess

/-! ## Whole timestamps -/

/-- The second of the minute as it is written. -/
def secondOfMinute (timestamp : Timestamp) : Nat :=
  timestamp.second % 60 + (if timestamp.leap then 1 else 0)

/-- The time of day within the text. -/
def clock (timestamp : Timestamp) : List Char :=
  digitsOf 2 (timestamp.second / 3600) ++
    (digitsOf 2 (timestamp.second / 60 % 60) ++ digitsOf 2 timestamp.secondOfMinute)

/-- The year is written with four digits. -/
def HasFourDigits (timestamp : Timestamp) : Prop :=
  0 ≤ timestamp.date.year ∧ timestamp.date.year ≤ 9999

theorem characters_eq {timestamp : Timestamp} (fourDigits : timestamp.HasFourDigits) :
    timestamp.characters =
      digitsOf 4 timestamp.date.year.toNat ++ '_' :: (digitsOf 2 timestamp.date.month ++
        '_' :: (digitsOf 2 timestamp.date.day ++ '_' :: timestamp.clock)) := by
  have year : yearText timestamp.date.year = digitsOf 4 timestamp.date.year.toNat :=
    if_pos fourDigits
  rw [← year]
  simp only [characters, clock, secondOfMinute, date, List.append_assoc, List.cons_append,
    List.nil_append]

theorem secondOfMinute_le (timestamp : Timestamp) : timestamp.secondOfMinute ≤ 60 := by
  rw [secondOfMinute]
  split <;> omega

theorem clock_lt {left right : Timestamp}
    (less : left.second < right.second
      ∨ left.second = right.second ∧ left.leap = false ∧ right.leap = true) :
    left.clock < right.clock := by
  have leftLess := left.second_lt
  have rightLess := right.second_lt
  have leftSecond := left.secondOfMinute_le
  have rightSecond := right.secondOfMinute_le
  -- A leap second is written after the last second of its minute and before the next minute.
  have parts : left.second / 3600 < right.second / 3600 ∨ left.second / 3600 = right.second / 3600
      ∧ (left.second / 60 % 60 < right.second / 60 % 60
        ∨ left.second / 60 % 60 = right.second / 60 % 60
          ∧ left.secondOfMinute < right.secondOfMinute) := by
    simp only [secondOfMinute]
    rcases less with less | ⟨same, leftOrdinary, rightLeap⟩
    · by_cases leap : left.leap = true
      · have last := left.second_of_leap leap
        simp only [leap, if_true]
        split <;> omega
      · rw [if_neg leap]
        split <;> omega
    · simp [same, leftOrdinary, rightLeap]
  refine digitsOf_append_lt (by decide) (by omega) (by omega) (parts.imp_right ?_)
  rintro ⟨sameHour, parts⟩
  refine ⟨sameHour, digitsOf_append_lt (by decide) (by omega) (by omega) (parts.imp_right ?_)⟩
  rintro ⟨sameMinute, second⟩
  exact ⟨sameMinute, digitsOf_lt_digitsOf (by decide) second (by omega)⟩

theorem date_fits (timestamp : Timestamp) :
    timestamp.date.month < 10 ^ 2 ∧ timestamp.date.day < 10 ^ 2 := by
  have ⟨_, months, _, days⟩ :=
    Calendar.Date.exists?_eq_true.mp (Calendar.Date.exists?_ofDayNumber timestamp.day)
  have longest := Calendar.daysInMonth_le timestamp.date.year timestamp.date.month
  simp only [date] at longest ⊢
  omega

/-- Years, months and days are compared before the time of day. -/
theorem characters_lt_of_before {left right : Timestamp} (leftYear : left.HasFourDigits)
    (rightYear : right.HasFourDigits) (isBefore : left.before right = true) :
    left.characters < right.characters := by
  have parts : left.date.year.toNat < right.date.year.toNat
      ∨ left.date.year.toNat = right.date.year.toNat ∧ (left.date.month < right.date.month
        ∨ left.date.month = right.date.month ∧ (left.date.day < right.date.day
          ∨ left.date.day = right.date.day ∧ left.clock < right.clock)) := by
    simp only [before, Bool.or_eq_true, Bool.and_eq_true, decide_eq_true_eq,
      Bool.not_eq_true'] at isBefore
    rcases isBefore with day | ⟨day, second⟩
    · have dates : left.date.before right.date := Calendar.Date.before_ofDayNumber day
      simp only [Calendar.Date.before] at dates
      simp only [HasFourDigits] at leftYear rightYear
      omega
    · have same : left.date = right.date := congrArg Calendar.Date.ofDayNumber day
      have clocks := clock_lt (second.imp_right and_assoc.mp)
      simp [same, clocks]
  rw [characters_eq leftYear, characters_eq rightYear]
  simp only [HasFourDigits] at leftYear rightYear
  refine digitsOf_append_lt (by decide) (by omega) (by omega) (parts.imp_right ?_)
  rintro ⟨sameYear, parts⟩
  refine ⟨sameYear, .cons ?_⟩
  refine digitsOf_append_lt (by decide) left.date_fits.1 right.date_fits.1 (parts.imp_right ?_)
  rintro ⟨sameMonth, parts⟩
  refine ⟨sameMonth, .cons ?_⟩
  refine digitsOf_append_lt (by decide) left.date_fits.2 right.date_fits.2 (parts.imp_right ?_)
  rintro ⟨sameDay, clocks⟩
  exact ⟨sameDay, .cons clocks⟩

theorem length_characters {timestamp : Timestamp} (fourDigits : timestamp.HasFourDigits) :
    timestamp.characters.length = 17 := by
  have ⟨month, day⟩ := timestamp.date_fits
  have secondLess := timestamp.second_lt
  have second := timestamp.secondOfMinute_le
  have twoDigits {number : Nat} (fits : number < 100) : (digitsOf 2 number).length = 2 :=
    length_digitsOf (by decide) fits
  have year : (digitsOf 4 timestamp.date.year.toNat).length = 4 := by
    simp only [HasFourDigits] at fourDigits
    exact length_digitsOf (by decide) (by omega)
  have hour : timestamp.second / 3600 < 100 := by omega
  have minute : timestamp.second / 60 % 60 < 100 := by omega
  simp only [characters_eq fourDigits, clock, List.length_append, List.length_cons, year,
    twoDigits month, twoDigits day, twoDigits hour, twoDigits minute,
    twoDigits (Nat.lt_of_le_of_lt second (by decide))]

theorem ascii_of_mem_characters {timestamp : Timestamp} (fourDigits : timestamp.HasFourDigits)
    {c : Char} (member : c ∈ timestamp.characters) : c.toNat < 128 := by
  have digits {width number : Nat} (digit : c ∈ digitsOf width number) : c.toNat < 128 := by
    have range : 48 ≤ c.toNat ∧ c.toNat ≤ 57 := by
      simpa [Char.isDigit, UInt32.le_iff_toNat_le] using isDigit_of_mem_digitsOf digit
    omega
  simp only [characters_eq fourDigits, clock, List.mem_append, List.mem_cons] at member
  rcases member with digit | rfl | digit | rfl | digit | rfl | digit | digit | digit
  · exact digits digit
  · decide
  · exact digits digit
  · decide
  · exact digits digit
  · decide
  · exact digits digit
  · exact digits digit
  · exact digits digit

/-- Whatever follows them, the earlier timestamp comes first. -/
theorem bytes_text_append_lt {left right : Timestamp} (leftYear : left.HasFourDigits)
    (rightYear : right.HasFourDigits) (isBefore : left.before right = true)
    (leftRest rightRest : String) :
    Text.bytes (left.text ++ leftRest) < Text.bytes (right.text ++ rightRest) := by
  have leftAscii : ∀ c ∈ left.characters, c.toNat < 128 :=
    fun _ => ascii_of_mem_characters leftYear
  have rightAscii : ∀ c ∈ right.characters, c.toNat < 128 :=
    fun _ => ascii_of_mem_characters rightYear
  have less : Text.bytes left.text < Text.bytes right.text :=
    Text.bytes_lt (characters_lt_of_before leftYear rightYear isBefore)
  have length : (Text.bytes left.text).length = (Text.bytes right.text).length := by
    simp only [text, Text.bytes_ofList_of_ascii leftAscii, Text.bytes_ofList_of_ascii rightAscii,
      List.length_map, length_characters leftYear, length_characters rightYear]
  rw [Text.bytes_append, Text.bytes_append]
  exact append_lt_append_of_length length less _ _

end Timestamp

end Migration
