import Migration.Number.Binary64

namespace Migration

/-! The fewest decimal digits that read back as the same binary64 number. -/

/-- The magnitude `significand * 10 ^ exponent`. -/
structure Decimal where
  significand : Nat
  exponent : Int
  deriving DecidableEq

namespace Decimal

def digits (decimal : Decimal) : List Char :=
  Nat.toDigits 10 decimal.significand

/-- The exponent of the first digit. -/
def leadingExponent (decimal : Decimal) : Int :=
  decimal.exponent + decimal.digits.length - 1

/-- Without the zeros at its end; each step moves one of at most `steps` zeros to the exponent. -/
def stripZeros : Nat → Decimal → Decimal
  | 0, decimal => decimal
  | steps + 1, decimal =>
      if decimal.significand ≠ 0 ∧ decimal.significand % 10 = 0 then
        stripZeros steps ⟨decimal.significand / 10, decimal.exponent + 1⟩
      else decimal

/-! Two ways of writing the digits down. -/

private def zeros (count : Int) : List Char :=
  List.replicate count.toNat '0'

/-- Without an exponent; `wholeMark` follows a whole number. -/
def positional (wholeMark : String) (decimal : Decimal) : String :=
  let digits := decimal.digits
  let whole : Int := digits.length + decimal.exponent
  .ofList <|
    if 0 ≤ decimal.exponent then digits ++ zeros decimal.exponent ++ wholeMark.toList
    else if 0 < whole then digits.take whole.toNat ++ ['.'] ++ digits.drop whole.toNat
    else ['0', '.'] ++ zeros (-whole) ++ digits

/-- One digit before the point, and the exponent always with its sign. -/
def scientific (decimal : Decimal) : String :=
  let exponent := decimal.leadingExponent
  let mantissa := match decimal.digits with
    | [] => []
    | [digit] => [digit]
    | digit :: rest => digit :: '.' :: rest
  .ofList (mantissa ++ ['e', if exponent < 0 then '-' else '+']
    ++ Nat.toDigits 10 exponent.natAbs)

example : positional ".0" ⟨25, -1⟩ = "2.5" ∧ positional "" ⟨25, 3⟩ = "25000"
    ∧ positional "" ⟨25, -4⟩ = "0.0025" ∧ scientific ⟨25, -8⟩ = "2.5e-7" := by decide

end Decimal

namespace Binary64

/-- The exponent of the first decimal digit of `dividend / divisor`, if it is below one: the least
power of ten that lifts it to one, tried from `power` on at most `steps` times. -/
private def fractionExponent (dividend divisor : Nat) : Nat → Nat → Nat
  | 0, power => power
  | steps + 1, power =>
      if divisor ≤ dividend * Nat.pow 10 power then power
      else fractionExponent dividend divisor steps (power + 1)

def leadingExponentOfUnits (units : Nat) : Int :=
  if oneInUnits ≤ units then (Nat.toDigits 10 (units / oneInUnits)).length - 1
  else -(fractionExponent units oneInUnits 324 1)

/-- Whether a decimal lies between the midpoints to the two neighbours of a rank. The midpoints
belong to the rank of even mantissa. -/
def readsBackAs (rank : Nat) (decimal : Decimal) : Bool :=
  let scale := Nat.pow 10 (-decimal.exponent).toNat
  let point := 2 * decimal.significand * Nat.pow 10 decimal.exponent.toNat * oneInUnits
  let low := (unitsOfRank (rank - 1) + unitsOfRank rank) * scale
  let high := (unitsOfRank rank + unitsOfRank (rank + 1)) * scale
  if rank % 2 = 0 then low ≤ point && point ≤ high else low < point && point < high

/-- Of the two decimals with a given exponent next to a rank, those that read back as it, the
nearer one first. -/
def candidates (rank : Nat) (exponent : Int) : List Decimal :=
  let dividend := unitsOfRank rank * Nat.pow 10 (-exponent).toNat
  let divisor := Nat.pow 10 exponent.toNat * oneInUnits
  let below := dividend / divisor
  let nearest := divideToEven dividend divisor
  let farther := if nearest = below then below + 1 else below
  ([nearest, farther].map (⟨·, exponent⟩ : Nat → Decimal)).filter (readsBackAs rank)

/-- One digit is tried first, and seventeen are always enough. -/
def shortest (x : Binary64) : Decimal :=
  if x.rank = 0 then ⟨0, 0⟩
  else
    let leading := leadingExponentOfUnits x.units
    let found := (List.range 17).findSome? fun (fewer : Nat) =>
      (candidates x.rank (leading - fewer)).head?
    (found.getD ⟨0, 0⟩).stripZeros 17

/-- Plain decimal text, without a point where the number is whole. -/
def plainText (x : Binary64) : String :=
  (if x.negative then "-" else "") ++ x.shortest.positional ""

example : ((ofQuotient? true 1 10).map plainText) = some "-0.1" := by decide +kernel

end Binary64

end Migration
