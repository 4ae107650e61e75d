import Migration.Text.Printable

namespace Migration.Text

/-! Text between double quotes. The quote, the backslash and the usual control characters have an
escape of two characters; every other character that is not printable is written by its code
point, as in `\u{200b}`. -/

private def hexDigits (number : Nat) : List Char :=
  Nat.toDigits 16 number

def escaped (c : Char) : List Char :=
  if c = '"' then ['\\', '"']
  else if c = '\\' then ['\\', '\\']
  else if c = '\n' then ['\\', 'n']
  else if c = '\r' then ['\\', 'r']
  else if c = '\t' then ['\\', 't']
  else if c.toNat = 0 then ['\\', '0']
  else if isPrintable c then [c]
  else ['\\', 'u', '\x7b'] ++ hexDigits c.toNat ++ ['\x7d']

def quoted (text : String) : String :=
  .ofList (['"'] ++ text.toList.flatMap escaped ++ ['"'])

example : quoted "a\"b\t" = "\"a\\\"b\\t\"" := by decide

end Migration.Text
