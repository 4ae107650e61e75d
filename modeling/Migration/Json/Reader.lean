import Migration.Json.Number

namespace Migration.Json

/-! Reading a document from a text. Each reader takes what it reads off the front of the
characters and hands back the rest. -/

abbrev Reader (α : Type) := List Char → Option (α × List Char)

def isSpace (c : Char) : Bool :=
  c = ' ' || c = '\n' || c = '\r' || c = '\t'

def skipSpace (text : List Char) : List Char :=
  text.dropWhile isSpace

/-! ## Numbers -/

def readDigits (text : List Char) : List Char × List Char :=
  (text.takeWhile Char.isDigit, text.dropWhile Char.isDigit)

def readFraction : Reader (Option (List Char))
  | '.' :: text =>
      match readDigits text with
      | ([], _) => none
      | (digits, rest) => some (some digits, rest)
  | text => some (none, text)

def readExponentDigits (negative : Bool) (text : List Char) : Option (Option Int × List Char) :=
  match readDigits text with
  | ([], _) => none
  | (digits, rest) =>
      let size : Int := digits.foldl (fun number digit => number * 10 + Numeral.digitValue digit) 0
      some (some (if negative then -size else size), rest)

def readExponent : Reader (Option Int)
  | c :: text =>
      if c = 'e' || c = 'E' then
        match text with
        | '-' :: text => readExponentDigits true text
        | '+' :: text => readExponentDigits false text
        | text => readExponentDigits false text
      else some (none, c :: text)
  | [] => some (none, [])

def readNumeral (negative : Bool) : Reader Numeral := fun text => do
  let (whole, rest) := readDigits text
  if whole.isEmpty || (1 < whole.length && whole.head? = some '0') then none
  let (fraction, rest) ← readFraction rest
  let (exponent, rest) ← readExponent rest
  some (⟨negative, whole, fraction, exponent⟩, rest)

def readNumber : Reader Value
  | '-' :: text => do
      let (numeral, rest) ← readNumeral true text
      some (← numeral.toValue?, rest)
  | text => do
      let (numeral, rest) ← readNumeral false text
      some (← numeral.toValue?, rest)

/-! ## Strings -/

def hexDigit? (c : Char) : Option Nat :=
  if c.isDigit then some (c.toNat - 48)
  else if 'a' ≤ c && c ≤ 'f' then some (c.toNat - 87)
  else if 'A' ≤ c && c ≤ 'F' then some (c.toNat - 55)
  else none

/-- The four digits of an escaped unit. -/
def readUnit : Reader Nat
  | a :: b :: c :: d :: rest => do
      let digits ← [a, b, c, d].mapM hexDigit?
      some (digits.foldl (16 * · + ·) 0, rest)
  | _ => none

/-- A unit of the high half of a pair has to be followed by one of the low half. -/
def readEscapedCodePoint : Reader Char := fun text => do
  let (unit, rest) ← readUnit text
  if 0xDC00 ≤ unit && unit ≤ 0xDFFF then none
  else if 0xD800 ≤ unit && unit ≤ 0xDBFF then
    match rest with
    | '\\' :: 'u' :: rest => do
        let (low, rest) ← readUnit rest
        if 0xDC00 ≤ low && low ≤ 0xDFFF then
          some (Char.ofNat (0x10000 + (unit - 0xD800) * 0x400 + (low - 0xDC00)), rest)
        else none
    | _ => none
  else some (Char.ofNat unit, rest)

/-- What follows a backslash. -/
def readEscape : Reader Char
  | [] => none
  | c :: rest =>
      if c = 'u' then readEscapedCodePoint rest
      else if c = '"' || c = '\\' || c = '/' then some (c, rest)
      else if c = 'b' then some ('\x08', rest)
      else if c = 'f' then some ('\x0c', rest)
      else if c = 'n' then some ('\n', rest)
      else if c = 'r' then some ('\r', rest)
      else if c = 't' then some ('\t', rest)
      else none

/-- The characters up to the closing quote; every step takes at least one off the text. -/
def readCharacters : Nat → Reader (List Char)
  | 0, _ => none
  | _, [] => none
  | steps + 1, c :: text =>
      if c = '"' then some ([], text)
      else if c = '\\' then do
        let (escaped, text) ← readEscape text
        let (rest, text) ← readCharacters steps text
        some (escaped :: rest, text)
      else if c.toNat < 0x20 then none
      else do
        let (rest, text) ← readCharacters steps text
        some (c :: rest, text)

def readString : Reader String
  | '"' :: text => (readCharacters (text.length + 1) text).map fun (characters, rest) =>
      (.ofList characters, rest)
  | _ => none

/-! ## Documents

`depth` bounds how deep arrays and objects may nest; `steps` bounds the values and names still to
be read, each of which takes at least one character. -/

def readWord (word : String) (value : Value) : Reader Value := fun text =>
  if word.toList.isPrefixOf text then some (value, text.drop word.length) else none

mutual
def readValue : (steps depth : Nat) → Reader Value
  | 0, _, _ => none
  | steps + 1, depth, text =>
      match skipSpace text with
      | [] => none
      | c :: rest =>
          if c = '"' then
            (readString (c :: rest)).map fun (text, rest) => (.string text, rest)
          else if c = '[' then
            match depth, skipSpace rest with
            | 0, _ => none
            | _ + 1, ']' :: rest => some (.array [], rest)
            | depth + 1, rest => (readItems steps depth rest).map fun (items, rest) =>
                (.array items, rest)
          else if c = '\x7b' then
            match depth, skipSpace rest with
            | 0, _ => none
            | _ + 1, '\x7d' :: rest => some (.object [], rest)
            | depth + 1, rest => (readMembers steps depth rest).map fun (members, rest) =>
                (.object members, rest)
          else if c = 't' then readWord "true" (.bool true) (c :: rest)
          else if c = 'f' then readWord "false" (.bool false) (c :: rest)
          else if c = 'n' then readWord "null" .null (c :: rest)
          else readNumber (c :: rest)

/-- The items up to the closing bracket, at least one. -/
def readItems : (steps depth : Nat) → Reader (List Value)
  | 0, _, _ => none
  | steps + 1, depth, text => do
      let (item, text) ← readValue steps depth text
      match skipSpace text with
      | ',' :: text => do
          let (items, text) ← readItems steps depth text
          some (item :: items, text)
      | ']' :: text => some ([item], text)
      | _ => none

/-- The members up to the closing brace, at least one. -/
def readMembers : (steps depth : Nat) → Reader (List (String × Value))
  | 0, _, _ => none
  | steps + 1, depth, text => do
      let (name, text) ← readString (skipSpace text)
      match skipSpace text with
      | ':' :: text => do
          let (value, text) ← readValue steps depth text
          match skipSpace text with
          | ',' :: text => do
              let (members, text) ← readMembers steps depth text
              some ((name, value) :: members, text)
          | '\x7d' :: text => some ([(name, value)], text)
          | _ => none
      | _ => none
end

/-- Arrays and objects nest at most this deep. -/
def nestingLimit : Nat := 127

/-- The one value that a text consists of. -/
def Value.ofText? (text : String) : Option Value :=
  let characters := text.toList
  match readValue (2 * characters.length + 2) nestingLimit characters with
  | some (value, rest) => if (skipSpace rest).isEmpty then some value else none
  | none => none

end Migration.Json
