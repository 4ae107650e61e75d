import Migration.Json.Value

namespace Migration.Json

/-- Whether a whole number is one of 64 bits with sign. -/
def fitsInt64 (value : Int) : Bool :=
  Int64.minValue.toInt ≤ value && value ≤ Int64.maxValue.toInt

/-! A number as it is written: a sign, a whole part, and optionally a fraction and a power of
ten. -/

structure Numeral where
  negative : Bool
  whole : List Char
  fraction : Option (List Char)
  exponent : Option Int

namespace Numeral

def digitValue (digit : Char) : Nat :=
  digit.toNat - 48

/-! Digits are gathered into a significand of 64 bits. The first digit that does not fit ends it;
the digits from there on count as zeros in the whole part and are left out in the fraction. -/

structure Gathered where
  significand : Nat
  exponent : Int
  full : Bool

def gatherWhole (gathered : Gathered) (digit : Char) : Gathered :=
  let longer := gathered.significand * 10 + digitValue digit
  if gathered.full || UInt64.size ≤ longer then
    { gathered with exponent := gathered.exponent + 1, full := true }
  else { gathered with significand := longer }

def gatherFraction (gathered : Gathered) (digit : Char) : Gathered :=
  let longer := gathered.significand * 10 + digitValue digit
  if gathered.full || UInt64.size ≤ longer then { gathered with full := true }
  else ⟨longer, gathered.exponent - 1, false⟩

def gather (numeral : Numeral) : Gathered :=
  let whole := numeral.whole.foldl gatherWhole ⟨0, 0, false⟩
  (numeral.fraction.getD []).foldl gatherFraction { whole with full := false }

/-! A number that is not a whole one of 64 bits is read with two roundings: the significand is
rounded, and then its product or quotient with the rounded power of ten. Of a power beyond the
greatest, a quotient takes off the greatest as often as needed. -/

def powerOfTen (exponent : Nat) : Option Binary64 :=
  Binary64.ofQuotient? false (Nat.pow 10 exponent) 1

def scale : Nat → Binary64 → Int → Option Binary64
  | 0, _, _ => none
  | steps + 1, x, exponent =>
      if exponent.natAbs ≤ 308 then do
        let power ← powerOfTen exponent.natAbs
        if 0 ≤ exponent then x.multiply? power else x.divide? power
      else if x.rank = 0 then some x
      else if 0 ≤ exponent then none
      else do
        let power ← powerOfTen 308
        scale steps (← x.divide? power) (exponent + 308)

/-- Two of the greatest quotients leave nothing of any significand. -/
def toBinary64? (numeral : Numeral) : Option Binary64 := do
  let gathered := numeral.gather
  let significand ← Binary64.ofQuotient? numeral.negative gathered.significand 1
  scale 5 significand (gathered.exponent + numeral.exponent.getD 0)

/-- A minus sign before a whole zero makes it a number with a signed zero. -/
def toValue? (numeral : Numeral) : Option Value :=
  let whole := numeral.whole.foldl (fun number digit => number * 10 + digitValue digit) 0
  let inRange :=
    if numeral.negative then whole ≠ 0 && 2 * whole ≤ UInt64.size else whole < UInt64.size
  if numeral.fraction.isNone && numeral.exponent.isNone && inRange then
    some (.integer (if numeral.negative then -whole else whole))
  else numeral.toBinary64?.map .float

end Numeral

end Migration.Json
