import Migration.Json.Value
import Migration.Number.Shortest

namespace Migration.Json

/-! Writing a document as a text. -/

private def hexUnit (c : Char) : List Char :=
  let digits := Nat.toDigits 16 c.toNat
  List.replicate (4 - digits.length) '0' ++ digits

/-- Only the quote, the backslash and the control characters below the space are escaped. -/
def escapedInString (c : Char) : List Char :=
  if c = '"' then ['\\', '"']
  else if c = '\\' then ['\\', '\\']
  else if c = '\n' then ['\\', 'n']
  else if c = '\r' then ['\\', 'r']
  else if c = '\t' then ['\\', 't']
  else if c = '\x08' then ['\\', 'b']
  else if c = '\x0c' then ['\\', 'f']
  else if c.toNat < 0x20 then '\\' :: 'u' :: hexUnit c
  else [c]

def quotedString (text : String) : String :=
  .ofList (['"'] ++ text.toList.flatMap escapedInString ++ ['"'])

/-- Positional from `1e-5` up to below `1e16`, with a point also in a whole number. -/
def floatText (x : Binary64) : String :=
  let decimal := x.shortest
  let exponent := decimal.leadingExponent
  (if x.negative then "-" else "")
    ++ (if -5 ≤ exponent ∧ exponent < 16 then decimal.positional ".0" else decimal.scientific)

/-! The first form has no space at all. The second starts every item and member on a line of its
own, indented by two spaces a level; an empty array or object stays in one piece. -/

mutual
def Value.compact : Value → String
  | .null => "null"
  | .bool value => if value then "true" else "false"
  | .integer value => toString value
  | .float value => floatText value
  | .string text => quotedString text
  | .array items => "[" ++ ",".intercalate (compactItems items) ++ "]"
  | .object members => "\x7b" ++ ",".intercalate (compactMembers members) ++ "\x7d"

def compactItems : List Value → List String
  | [] => []
  | item :: rest => item.compact :: compactItems rest

def compactMembers : List (String × Value) → List String
  | [] => []
  | (name, value) :: rest => (quotedString name ++ ":" ++ value.compact) :: compactMembers rest
end

private def lineAt (level : Nat) : String :=
  "\n" ++ .ofList (List.replicate (2 * level) ' ')

mutual
def Value.indented (level : Nat) : Value → String
  | .array (item :: items) =>
      let lines := indentedItems (level + 1) (item :: items)
      "[" ++ ",".intercalate lines ++ lineAt level ++ "]"
  | .object (member :: members) =>
      let lines := indentedMembers (level + 1) (member :: members)
      "\x7b" ++ ",".intercalate lines ++ lineAt level ++ "\x7d"
  | value => value.compact

def indentedItems (level : Nat) : List Value → List String
  | [] => []
  | item :: rest => (lineAt level ++ item.indented level) :: indentedItems level rest

def indentedMembers (level : Nat) : List (String × Value) → List String
  | [] => []
  | (name, value) :: rest =>
      (lineAt level ++ quotedString name ++ ": " ++ value.indented level)
        :: indentedMembers level rest
end

example : (Value.object [("a", .array [.null, .bool true]), ("b", .object [])]).compact =
    "\x7b\"a\":[null,true],\"b\":\x7b\x7d\x7d" := by decide +kernel

end Migration.Json
