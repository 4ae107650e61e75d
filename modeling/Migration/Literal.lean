import Migration.Json.Coding
import Migration.Number.Shortest
import Migration.Text.Quoted

namespace Migration

open Json

/-! The default of a column, in the type in which it was given. -/

inductive Literal where
  | null
  | bool (value : Bool)
  | int (value : Int64)
  | float (value : Binary64)
  | string (text : String)
  deriving DecidableEq

namespace Literal

def display : Literal → String
  | .null => "null"
  | .bool value => if value then "true" else "false"
  | .int value => toString value.toInt
  | .float value => value.plainText
  | .string text => Text.quoted text

/-- The same value: zero is the same number with either sign. -/
def same : Literal → Literal → Bool
  | .float left, .float right => left.sameNumber right
  | left, right => left = right

end Literal

instance : Encode Literal where
  encode
    | .null => .null
    | .bool value => .bool value
    | .int value => .integer value.toInt
    | .float value => .float value
    | .string text => .string text

/-- A whole number beyond 64 bits with sign is rounded to a floating-point one. -/
instance : Decode Literal where
  decode
    | .null => .ok .null
    | .bool value => .ok (.bool value)
    | .integer value =>
        if fitsInt64 value then .ok (.int (.ofInt value))
        else match Binary64.ofQuotient? (value < 0) value.natAbs 1 with
          | some number => .ok (.float number)
          | none => .error (.unexpected "a number in range")
    | .float value => .ok (.float value)
    | .string text => .ok (.string text)
    | _ => .error (.unexpected "a literal")

end Migration
