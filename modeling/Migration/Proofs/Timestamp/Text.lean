import Mathlib.Data.List.TakeWhile
import Migration.Proofs.Timestamp.Calendar
import Migration.Timestamp.Text

namespace Migration

open Calendar Json

/-! The text of a timestamp is read as that timestamp, whatever the year and also in a leap
second, so it stands for no other. -/

namespace Text

theorem isBlank_of_isDigit {c : Char} (digit : c.isDigit = true) : isBlank c = false := by
  have range : 48 ≤ c.toNat ∧ c.toNat ≤ 57 := by
    simpa [Char.isDigit, UInt32.le_iff_toNat_le] using digit
  simp only [isBlank, Bool.or_eq_false_iff, Bool.and_eq_false_iff, decide_eq_false_iff_not]
  omega

theorem trimLeft_of_not_blank {text : List Char} (solid : ∀ c ∈ text, isBlank c = false) :
    trimLeft text = text := by
  cases text with
  | nil => rfl
  | cons c rest => simp [trimLeft, solid c]

theorem trim_of_not_blank {text : List Char} (solid : ∀ c ∈ text, isBlank c = false) :
    trim text = text := by
  have reversed : ∀ c ∈ text.reverse, isBlank c = false := by simpa using solid
  rw [trim, trimLeft_of_not_blank solid, trimLeft_of_not_blank reversed, List.reverse_reverse]

end Text

namespace Timestamp

/-! ## Digits -/

theorem isDigit_of_mem_digitsOf {width number : Nat} {c : Char}
    (member : c ∈ digitsOf width number) : c.isDigit = true := by
  rcases List.mem_append.mp member with zero | digit
  · rw [List.eq_of_mem_replicate zero]
    rfl
  · exact Nat.isDigit_of_mem_toDigits (by decide) (by decide) digit

theorem length_digitsOf {width number : Nat} (wide : 0 < width) (fits : number < 10 ^ width) :
    (digitsOf width number).length = width := by
  have short := (Nat.length_toDigits_le_iff (by decide) wide).mpr fits
  rw [digitsOf, List.length_append, List.length_replicate]
  omega

theorem exists_digitsOf_eq_cons (width number : Nat) :
    ∃ first others, digitsOf width number = first :: others ∧ first.isDigit = true := by
  cases digits : digitsOf width number with
  | nil => exact absurd digits (List.append_ne_nil_of_right_ne_nil _ Nat.toDigits_ne_nil)
  | cons first others =>
      exact ⟨first, others, rfl, isDigit_of_mem_digitsOf (digits ▸ List.mem_cons_self)⟩

theorem isEmpty_digitsOf (width number : Nat) : (digitsOf width number).isEmpty = false := by
  rcases exists_digitsOf_eq_cons width number with ⟨first, others, digits, -⟩
  rw [digits]
  rfl

theorem valueOfDigits_eq (digits : List Char) :
    valueOfDigits digits = Nat.ofDigitChars 10 digits 0 := by
  simp [valueOfDigits, Nat.ofDigitChars, Nat.mul_comm]

theorem valueOfDigits_digitsOf (width number : Nat) :
    valueOfDigits (digitsOf width number) = number := by
  rw [valueOfDigits_eq, digitsOf, Nat.ofDigitChars_append, Nat.ofDigitChars_replicate_zero,
    Nat.mul_zero, Nat.ofDigitChars_ten_toDigits]

theorem trimLeft_digitsOf (width number : Nat) (rest : List Char) :
    Text.trimLeft (digitsOf width number ++ rest) = digitsOf width number ++ rest := by
  rcases exists_digitsOf_eq_cons width number with ⟨first, others, digits, digit⟩
  simp [digits, Text.trimLeft, Text.isBlank_of_isDigit digit]

/-! ## Parts -/

theorem readDigits_digitsOf {width number : Nat} (wide : 0 < width) (fits : number < 10 ^ width)
    (rest : List Char) :
    readDigits width (digitsOf width number ++ rest) = some (number, rest) := by
  have length := length_digitsOf wide fits
  have digits : ((digitsOf width number ++ rest).take width).takeWhile Char.isDigit =
      digitsOf width number := by
    rw [List.take_left' length, List.takeWhile_eq_self_iff]
    exact fun c => isDigit_of_mem_digitsOf
  simp only [readDigits, trimLeft_digitsOf, digits, isEmpty_digitsOf, Bool.false_eq_true,
    if_false, valueOfDigits_digitsOf, List.drop_left]

theorem readSignedYear_digitsOf (sign : Int) (width number : Nat) (rest : List Char) :
    readSignedYear sign (digitsOf width number ++ '_' :: rest) =
      some (sign * number, '_' :: rest) := by
  have digits : (digitsOf width number ++ '_' :: rest).takeWhile Char.isDigit =
      digitsOf width number := by
    rw [List.takeWhile_append_of_pos fun c => isDigit_of_mem_digitsOf]
    simp
  simp only [readSignedYear, digits, isEmpty_digitsOf, Bool.false_eq_true,
    if_false, valueOfDigits_digitsOf, List.drop_left]

theorem readYear_digitsOf {width number : Nat} (rest : List Char) :
    readYear (digitsOf width number ++ rest) =
      (readDigits 4 (digitsOf width number ++ rest)).map fun (year, text) => (year, text) := by
  rcases exists_digitsOf_eq_cons width number with ⟨first, others, digits, digit⟩
  rw [readYear, trimLeft_digitsOf, digits]
  split
  case h_1 signed =>
    cases signed
    cases digit
  case h_2 signed =>
    cases signed
    cases digit
  case h_3 => rfl

theorem readYear_yearText (year : Int) (rest : List Char) :
    readYear (yearText year ++ '_' :: rest) = some (year, '_' :: rest) := by
  rw [yearText]
  by_cases short : 0 ≤ year ∧ year ≤ 9999
  · have fits : year.toNat < 10 ^ 4 := by omega
    rw [if_pos short, readYear_digitsOf, readDigits_digitsOf (by decide) fits]
    simp [Int.toNat_of_nonneg short.1]
  · rw [if_neg short]
    by_cases negative : year < 0
    · have size : (-1 : Int) * year.natAbs = year := by omega
      have signed : readYear (('-' :: digitsOf 4 year.natAbs) ++ '_' :: rest) =
          readSignedYear (-1) (digitsOf 4 year.natAbs ++ '_' :: rest) := rfl
      rw [if_pos negative, signed, readSignedYear_digitsOf, size]
    · have size : (1 : Int) * year.natAbs = year := by omega
      have signed : readYear (('+' :: digitsOf 4 year.natAbs) ++ '_' :: rest) =
          readSignedYear 1 (digitsOf 4 year.natAbs ++ '_' :: rest) := rfl
      rw [if_neg negative, signed, readSignedYear_digitsOf, size]

/-! ## Whole timestamps -/

theorem isBlank_of_mem_characters {timestamp : Timestamp} {c : Char}
    (member : c ∈ timestamp.characters) : Text.isBlank c = false := by
  have digits {width number : Nat} (digit : c ∈ digitsOf width number) : Text.isBlank c = false :=
    Text.isBlank_of_isDigit (isDigit_of_mem_digitsOf digit)
  have year {year : Int} (inYear : c ∈ yearText year) : Text.isBlank c = false := by
    rw [yearText] at inYear
    split at inYear
    case isTrue => exact digits inYear
    case isFalse =>
      rcases List.mem_cons.mp inYear with rfl | digit
      · split <;> decide
      · exact digits digit
  simp only [characters, List.mem_append, List.mem_singleton] at member
  rcases member with
    (((((((inYear | rfl) | digit) | rfl) | digit) | rfl) | digit) | digit) | digit
  · exact year inYear
  · decide
  · exact digits digit
  · decide
  · exact digits digit
  · decide
  · exact digits digit
  · exact digits digit
  · exact digits digit

theorem ofFields?_ofDayNumber (timestamp : Timestamp) :
    ofFields? (Date.ofDayNumber timestamp.day) (timestamp.second / 3600)
      (timestamp.second / 60 % 60) (timestamp.second % 60 + (if timestamp.leap then 1 else 0)) =
        some timestamp := by
  rcases timestamp with ⟨day, second, leap, day_mem, second_lt, second_of_leap⟩
  have valid : (Date.ofDayNumber day).exists? = true
      ∧ (firstDay ≤ (Date.ofDayNumber day).dayNumber ∧ (Date.ofDayNumber day).dayNumber ≤ lastDay)
      ∧ second / 3600 ≤ 23 ∧ second / 60 % 60 ≤ 59
      ∧ second % 60 + (if leap then 1 else 0) ≤ 60 := by
    rw [Date.dayNumber_ofDayNumber]
    refine ⟨Date.exists?_ofDayNumber day, day_mem, by omega, by omega, ?_⟩
    split <;> omega
  rw [ofFields?, dif_pos valid]
  simp only [Option.some.injEq, Timestamp.mk.injEq, Date.dayNumber_ofDayNumber, true_and]
  cases leap with
  | false =>
      have ordinary : second % 60 + 0 ≠ 60 := by omega
      simp only [Bool.false_eq_true, if_false, ordinary, decide_false, and_true]
      omega
  | true =>
      have last : second % 60 = 59 := second_of_leap rfl
      simp only [last, if_true, decide_true, and_true]
      omega

theorem ofCharacters?_characters (timestamp : Timestamp) :
    ofCharacters? timestamp.characters = some timestamp := by
  have ⟨_, months, _, daysOfMonth⟩ :=
    Date.exists?_eq_true.mp (Date.exists?_ofDayNumber timestamp.day)
  have days := daysInMonth_le (Date.ofDayNumber timestamp.day).year
    (Date.ofDayNumber timestamp.day).month
  have seconds := timestamp.second_lt
  have twoDigits {number : Nat} (fits : number < 100) (rest : List Char) :
      readDigits 2 (digitsOf 2 number ++ rest) = some (number, rest) :=
    readDigits_digitsOf (by decide) fits rest
  have month : (Date.ofDayNumber timestamp.day).month < 100 := by omega
  have day : (Date.ofDayNumber timestamp.day).day < 100 := by omega
  have hour : timestamp.second / 3600 < 100 := by omega
  have minute : timestamp.second / 60 % 60 < 100 := by omega
  have second : timestamp.second % 60 + (if timestamp.leap then 1 else 0) < 100 := by
    split <;> omega
  have last := twoDigits second []
  rw [List.append_nil] at last
  simp only [ofCharacters?, characters, List.append_assoc, List.cons_append, List.nil_append,
    readYear_yearText, Option.bind_eq_bind, Option.bind_some, readSeparator, twoDigits month,
    twoDigits day, twoDigits hour, twoDigits minute, last, List.isEmpty_nil, if_true]
  exact ofFields?_ofDayNumber timestamp

theorem ofText?_text (timestamp : Timestamp) : ofText? timestamp.text = some timestamp := by
  have solid : ∀ c ∈ timestamp.characters, Text.isBlank c = false :=
    fun c => isBlank_of_mem_characters
  rw [ofText?, text, String.toList_ofList, Text.trim_of_not_blank solid, ofCharacters?_characters]

theorem parse_text (timestamp : Timestamp) : parse timestamp.text = .ok timestamp := by
  rw [parse, ofText?_text]

theorem text_injective : Function.Injective text := by
  intro left right same
  have sameReading := congrArg ofText? same
  rw [ofText?_text, ofText?_text] at sameReading
  exact Option.some.inj sameReading

/-! ## Steps -/

/-- A run of steps fails only at one that is too long. -/
theorem exists_foldlM_plusSeconds? {steps : List Int}
    (short : ∀ seconds ∈ steps, seconds.natAbs ≤ longestStep) (start : Timestamp) :
    ∃ result, steps.foldlM plusSeconds? start = some result := by
  induction steps generalizing start with
  | nil => exact ⟨start, rfl⟩
  | cons seconds rest induction =>
      have ⟨first, later⟩ := List.forall_mem_cons.mp short
      rcases induction later (start.plusSeconds seconds) with ⟨result, run⟩
      refine ⟨result, ?_⟩
      rw [List.foldlM_cons, plusSeconds?, if_pos first]
      exact run

/-- From any timestamp, however it was read, steps that are not too long lead to one whose text is
read as it, and is the text of no other. -/
theorem exists_foldlM_plusSeconds?_and_parse_text (start : Timestamp) {steps : List Int}
    (short : ∀ seconds ∈ steps, seconds.natAbs ≤ longestStep) :
    ∃ result, steps.foldlM plusSeconds? start = some result
      ∧ parse result.text = .ok result ∧ ∀ other : Timestamp, other.text = result.text →
        other = result := by
  rcases exists_foldlM_plusSeconds? short start with ⟨result, run⟩
  exact ⟨result, run, parse_text result, fun other same => text_injective same⟩

/-- A leap second before the year 0. The first step leads out of the calendar and is not taken, the
second ends the leap second. -/
theorem leapSecond_parse_text :
    ∃ start result, parse "-0001_6_30_235960" = .ok start
      ∧ [9223372036854775, 86400, -1].foldlM plusSeconds? start = some result
      ∧ result.text = "-0001_07_01_235958" ∧ parse result.text = .ok result := by
  have moved : (ofText? "-0001_6_30_235960").bind (fun start =>
      ([9223372036854775, 86400, -1].foldlM plusSeconds? start).map text) =
        some "-0001_07_01_235958" := by decide +kernel
  rcases Option.bind_eq_some_iff.mp moved with ⟨start, read, reached⟩
  rcases exists_foldlM_plusSeconds?_and_parse_text start
    (show ∀ seconds ∈ [9223372036854775, 86400, -1], seconds.natAbs ≤ longestStep by decide)
    with ⟨result, run, back, _⟩
  rw [run] at reached
  exact ⟨start, result, by rw [parse, read], run, Option.some.inj reached, back⟩

end Timestamp

end Migration
