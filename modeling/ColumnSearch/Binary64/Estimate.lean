import ColumnSearch.Binary64

/-!
# Estimated doubles

`Binary64.estimate?` turns a decimal into a double by arithmetic on doubles: the digits are rounded
to a double, which is then multiplied or divided by the double of a power of ten. Each operation
rounds, so the estimate may lie beside the double that is nearest to the decimal.
-/

namespace ColumnSearch.Binary64

/-- The double nearest to the product of two, if it is finite. -/
def mul? (x y : Binary64) : Option Binary64 :=
  ofQuotient? (x.negative != y.negative)
    ((x.significand * y.significand) <<< (x.scale + y.scale)) (1 <<< 2148)

/-- The double nearest to the quotient of two, if it is finite. The divisor is not zero. -/
def div? (x y : Binary64) : Option Binary64 :=
  ofQuotient? (x.negative != y.negative) (x.significand <<< x.scale) (y.significand <<< y.scale)

/-- The greatest exponent of a power of ten that is finite. -/
def maxPower : Nat := 308

/-- The double nearest to a power of ten, if it is finite. -/
def powerOfTen? (power : Nat) : Option Binary64 :=
  ofQuotient? false (Nat.pow 10 power) 1

/-- Divides several times by the greatest power of ten, until nothing is left. -/
def divideRepeatedly? : Nat → Binary64 → Option Binary64
  | 0, x => some x
  | count + 1, x =>
    if x.significand = 0 then some x
    else do divideRepeatedly? count (← x.div? (← powerOfTen? maxPower))

/-- The double that a decimal is taken for. -/
def estimate? (decimal : Decimal) : Option Binary64 := do
  let x ← ofQuotient? decimal.negative decimal.digits 1
  match decimal.exponent with
  | .ofNat power =>
    if power ≤ maxPower then x.mul? (← powerOfTen? power)
    else if x.significand = 0 then some x
    else none
  | .negSucc power =>
    let x ← divideRepeatedly? (power / maxPower) x
    x.div? (← powerOfTen? (power % maxPower + 1))

end ColumnSearch.Binary64
