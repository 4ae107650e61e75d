import Migration.Json.Reader
import Migration.Text.CodePoints

namespace Migration.Toml

open Json (Reader Value Numeral)

/-! Reading the parts of a settings text that hold no others: strings, numbers, dates and
keys. -/

def isSpace (c : Char) : Bool :=
  c = ' ' || c = '\t'

def skipSpace (text : List Char) : List Char :=
  text.dropWhile isSpace

/-- Control characters other than the tab stand nowhere. -/
def isPlain (c : Char) : Bool :=
  c = '\t' || (0x20 ≤ c.toNat && c.toNat ≠ 0x7F)

def readLineBreak : List Char → Option (List Char)
  | '\n' :: text => some text
  | '\r' :: '\n' :: text => some text
  | _ => none

/-- The rest of a line may be a comment. -/
def skipComment : List Char → List Char
  | '#' :: text => text.dropWhile isPlain
  | text => text

/-! ## Strings -/

def readHex (count : Nat) (text : List Char) : Option (Char × List Char) := do
  if text.length < count then none
  let digits ← (text.take count).mapM Json.hexDigit?
  let code := digits.foldl (16 * · + ·) 0
  if code < 0xD800 || (0xDFFF < code && code < 0x110000) then
    some (Char.ofNat code, text.drop count)
  else none

def readEscape : Reader Char
  | [] => none
  | c :: rest =>
      if c = 'u' then readHex 4 rest
      else if c = 'U' then readHex 8 rest
      else if c = '"' || c = '\\' then some (c, rest)
      else if c = 'b' then some ('\x08', rest)
      else if c = 'f' then some ('\x0c', rest)
      else if c = 'n' then some ('\n', rest)
      else if c = 'r' then some ('\r', rest)
      else if c = 't' then some ('\t', rest)
      else none

/-- The characters up to the closing quote on one line; `steps` is the length of the text. -/
def readBasic : (steps : Nat) → Reader (List Char)
  | 0, _ => none
  | _, [] => none
  | steps + 1, c :: text =>
      if c = '"' then some ([], text)
      else if c = '\\' then do
        let (escaped, text) ← readEscape text
        let (rest, text) ← readBasic steps text
        some (escaped :: rest, text)
      else if isPlain c then do
        let (rest, text) ← readBasic steps text
        some (c :: rest, text)
      else none

def readLiteral : Reader (List Char)
  | [] => none
  | c :: text =>
      if c = '\'' then some ([], text)
      else if isPlain c then (readLiteral text).map fun (rest, text) => (c :: rest, text)
      else none

/-- A backslash at the end of a line takes the line break away and all space up to the next
character. -/
def skipContinuation (text : List Char) : Option (List Char) := do
  let rest ← readLineBreak (skipSpace text)
  some (rest.dropWhile fun c => isSpace c || c = '\n' || c = '\r')

/-- Up to three closing quotes in a row, of which the text may hold two before the last three. -/
def readLines (quote : Char) (escapes : Bool) : (steps : Nat) → Reader (List Char)
  | 0, _ => none
  | _, [] => none
  | steps + 1, c :: text =>
      if c = quote then
        let quotes := (text.takeWhile (· = quote)).length + 1
        if 3 ≤ quotes then
          if quotes ≤ 5 then some (List.replicate (quotes - 3) quote, text.drop (quotes - 1))
          else none
        else do
          let (rest, text) ← readLines quote escapes steps text
          some (c :: rest, text)
      else if escapes && c = '\\' then
        match skipContinuation text with
        | some text => readLines quote escapes steps text
        | none => do
            let (escaped, text) ← readEscape text
            let (rest, text) ← readLines quote escapes steps text
            some (escaped :: rest, text)
      else match readLineBreak (c :: text) with
        | some text => do
            let (rest, text) ← readLines quote escapes steps text
            some ('\n' :: rest, text)
        | none =>
            if isPlain c then do
              let (rest, text) ← readLines quote escapes steps text
              some (c :: rest, text)
            else none

/-- A line break right after the opening quotes does not count. -/
def readLongString (quote : Char) (escapes : Bool) (text : List Char) :
    Option (String × List Char) :=
  let text := (readLineBreak text).getD text
  (readLines quote escapes (text.length + 1) text).map fun (characters, rest) =>
    (.ofList characters, rest)

def readShortString : Reader String
  | '"' :: text => (readBasic (text.length + 1) text).map fun (characters, rest) =>
      (.ofList characters, rest)
  | '\'' :: text => (readLiteral text).map fun (characters, rest) => (.ofList characters, rest)
  | _ => none

def readString : Reader String
  | '"' :: '"' :: '"' :: text => readLongString '"' true text
  | '\'' :: '\'' :: '\'' :: text => readLongString '\'' false text
  | text => readShortString text

/-! ## Keys -/

def isBareKey (c : Char) : Bool :=
  c.isAlphanum || c = '_' || c = '-'

def readName (text : List Char) : Option (String × List Char) :=
  let bare := text.takeWhile isBareKey
  if bare.isEmpty then readShortString text
  else some (.ofList bare, text.drop bare.length)

/-- Names joined by points, with space around them; `steps` bounds their number. -/
def readKey : (steps : Nat) → Reader (List String)
  | 0, _ => none
  | steps + 1, text => do
      let (name, text) ← readName (skipSpace text)
      match skipSpace text with
      | '.' :: text => do
          let (names, text) ← readKey steps text
          some (name :: names, text)
      | text => some ([name], text)

/-! ## Numbers

A number is cut off where its characters end and then read as a whole. -/

/-- Digits of a base with single underscores between them. -/
def digitsOf? (isDigit : Char → Bool) (text : List Char) : Option (List Char) :=
  let groups := Text.splitWhere (· = '_') text
  if groups.all fun group => !group.isEmpty && group.all isDigit then some groups.flatten else none

def decimalDigits? (text : List Char) : Option (List Char) :=
  digitsOf? Char.isDigit text

/-- Without a zero at the front of others. -/
def wholeDigits? (text : List Char) : Option (List Char) := do
  let digits ← decimalDigits? text
  if digits.length > 1 && digits.head? = some '0' then none else some digits

def valueIn (base : Nat) (digits : List Char) : Int :=
  digits.foldl (fun number digit => base * number + ((Json.hexDigit? digit).getD 0 : Nat)) 0

def inRange? (value : Int) : Option Value :=
  if Json.fitsInt64 value then some (.integer value) else none

def splitSign : List Char → Bool × List Char
  | '-' :: text => (true, text)
  | '+' :: text => (false, text)
  | text => (false, text)

def integer? (text : List Char) : Option Value :=
  match text with
  | '0' :: 'x' :: digits => do
      inRange? (valueIn 16 (← digitsOf? (Json.hexDigit? · |>.isSome) digits))
  | '0' :: 'o' :: digits => do
      inRange? (valueIn 8 (← digitsOf? (fun c => '0' ≤ c && c ≤ '7') digits))
  | '0' :: 'b' :: digits => do
      inRange? (valueIn 2 (← digitsOf? (fun c => c = '0' || c = '1') digits))
  | text => do
      let (negative, text) := splitSign text
      let value := valueIn 10 (← wholeDigits? text)
      inRange? (if negative then -value else value)

/-- Documents hold finite numbers only: infinity stands as the greatest of them, and a value that
is not a number as zero. -/
def specialFloat? (negative : Bool) (text : List Char) : Option Value :=
  if text = ['i', 'n', 'f'] then some (.float ⟨negative, 2047 * Binary64.binadeSize - 1, by decide⟩)
  else if text = ['n', 'a', 'n'] then some (.float (.zero negative))
  else none

def float? (text : List Char) : Option Value := do
  let (negative, text) := splitSign text
  if let some special := specialFloat? negative text then return special
  let mantissa := text.takeWhile fun c => c ≠ 'e' && c ≠ 'E'
  let power := text.drop (mantissa.length + 1)
  let exponent : Option Int ←
    if mantissa.length = text.length then pure none
    else do
      let (negativePower, digits) := splitSign power
      let size := valueIn 10 (← decimalDigits? digits)
      pure (some (if negativePower then -size else size))
  let whole ← wholeDigits? (mantissa.takeWhile (· ≠ '.'))
  let rest := mantissa.dropWhile (· ≠ '.')
  let fraction : Option (List Char) ←
    if rest.isEmpty then pure none else do pure (some (← decimalDigits? (rest.drop 1)))
  if fraction.isNone && exponent.isNone then none
  let number ← Numeral.toBinary64? ⟨negative, whole, fraction, exponent⟩
  return .float number

/-! ## Dates and times -/

private def twoDigits? : List Char → Option Nat
  | [a, b] => if a.isDigit && b.isDigit then some ((a.toNat - 48) * 10 + (b.toNat - 48)) else none
  | _ => none

def isDate (text : List Char) : Bool :=
  match Text.splitWhere (· = '-') text with
  | [year, month, day] =>
      match decimalDigits? year, twoDigits? month, twoDigits? day with
      | some digits, some month, some day =>
          let year := (valueIn 10 digits).toNat
          let leap := year % 4 = 0 && (year % 100 ≠ 0 || year % 400 = 0)
          let days :=
            if month = 2 then (if leap then 29 else 28)
            else if [4, 6, 9, 11].contains month then 30
            else 31
          digits.length = 4 && year < 10000 && 1 ≤ month && month ≤ 12 && 1 ≤ day && day ≤ days
      | _, _, _ => false
  | _ => false

private def isClock (text : List Char) : Bool :=
  match (Text.splitWhere (· = ':') text).map twoDigits? with
  | [some hour, some minute, some second] => hour ≤ 23 && minute ≤ 59 && second ≤ 60
  | _ => false

def isTime (text : List Char) : Bool :=
  let fraction := text.drop 8
  isClock (text.take 8)
    && (fraction.isEmpty || (fraction.head? = some '.' && 1 < fraction.length
      && (fraction.drop 1).all Char.isDigit))

def isOffset : List Char → Bool
  | ['Z'] | ['z'] => true
  | sign :: text =>
      (sign = '+' || sign = '-')
        && match (Text.splitWhere (· = ':') text).map twoDigits? with
          | [some hour, some minute] => hour ≤ 23 && minute ≤ 59
          | _ => false
  | [] => false

/-- A date, a time, or both with or without an offset. -/
def isMoment (text : List Char) : Bool :=
  let date := text.take 10
  let time := text.drop 11
  let clock := time.takeWhile fun c => c.isDigit || c = ':' || c = '.'
  let offset := time.drop clock.length
  isTime text
    || (isDate date && (text.length = 10
      || (((text[10]?).map fun c => c = 'T' || c = 't' || c = ' ').getD false
        && isTime clock && (offset.isEmpty || isOffset offset))))

/-- A moment is an object of one member that no record knows. -/
def moment? (text : List Char) : Option Value :=
  if isMoment text then some (.object [("moment", .string (.ofList text))]) else none

/-! ## Words -/

def isWordCharacter (c : Char) : Bool :=
  c.isAlphanum || c = '+' || c = '-' || c = '_' || c = '.' || c = ':'

def wordValue? (text : List Char) : Option Value :=
  if text = "true".toList then some (.bool true)
  else if text = "false".toList then some (.bool false)
  else ((moment? text).or (float? text)).or (integer? text)

/-- A space may stand between a date and a time. -/
def readWord (text : List Char) : Option (Value × List Char) := do
  let word := text.takeWhile isWordCharacter
  let rest := text.drop word.length
  match rest with
  | ' ' :: more =>
      let longer := word ++ ' ' :: more.takeWhile isWordCharacter
      if isDate word && (more.head?.map Char.isDigit).getD false then
        some (← moment? longer, text.drop longer.length)
      else some (← wordValue? word, rest)
  | _ => some (← wordValue? word, rest)

end Migration.Toml
