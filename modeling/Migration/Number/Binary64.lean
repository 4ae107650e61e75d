namespace Migration

/-! The finite binary64 numbers. The magnitudes are numbered in increasing order from zero, so that
neighbours have neighbouring ranks; every magnitude is a whole number of units of `2 ^ -1074`. -/

/-- The number of ranks from one power of two to the next. -/
def Binary64.binadeSize : Nat :=
  Nat.pow 2 52

structure Binary64 where
  negative : Bool
  rank : Nat
  rank_lt : rank < 2047 * Binary64.binadeSize
  deriving DecidableEq

namespace Binary64

def mantissaOfRank (rank : Nat) : Nat :=
  if rank < binadeSize then rank else binadeSize + rank % binadeSize

/-- The number one in units. -/
def oneInUnits : Nat :=
  Nat.pow 2 1074

def unitsOfRank (rank : Nat) : Nat :=
  mantissaOfRank rank * Nat.pow 2 (rank / binadeSize - 1)

def units (x : Binary64) : Nat :=
  unitsOfRank x.rank

def zero (negative : Bool) : Binary64 :=
  ⟨negative, 0, by decide⟩

/-- Two zeros are the same number whatever their signs. -/
def sameNumber (left right : Binary64) : Bool :=
  left.rank == right.rank && (left.negative == right.negative || left.rank == 0)

/-- The quotient rounded to the nearest whole number, a tie to the even one. -/
def divideToEven (dividend divisor : Nat) : Nat :=
  let quotient := dividend / divisor
  let twice := 2 * (dividend % divisor)
  if twice < divisor || (twice = divisor && quotient % 2 = 0) then quotient else quotient + 1

/-- The rank nearest to a quotient of units, a tie to the even mantissa. -/
def rankOfUnits (dividend divisor : Nat) : Nat :=
  let shift := (dividend / divisor).log2 - 52
  shift * binadeSize + divideToEven dividend (divisor * Nat.pow 2 shift)

/-- The number nearest to a quotient, unless that lies beyond the greatest one. -/
def ofQuotient? (negative : Bool) (dividend divisor : Nat) : Option Binary64 :=
  let rank := rankOfUnits (dividend * oneInUnits) divisor
  if within : rank < 2047 * binadeSize then some ⟨negative, rank, within⟩ else none

def multiply? (left right : Binary64) : Option Binary64 :=
  ofQuotient? (left.negative != right.negative) (left.units * right.units)
    (oneInUnits * oneInUnits)

def divide? (left right : Binary64) : Option Binary64 :=
  if right.rank = 0 then none
  else ofQuotient? (left.negative != right.negative) left.units right.units

def negate (x : Binary64) : Binary64 :=
  { x with negative := !x.negative }

example : (ofQuotient? false 1 10).map (·.rank) = some 0x3FB999999999999A := by
  decide +kernel

end Binary64

end Migration
