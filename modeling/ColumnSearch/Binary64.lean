import ColumnSearch.Decimal

/-!
# Finite double-precision numbers

A finite double is a signed multiple `significand · 2 ^ (scale - 1074)` of a power of two, with a
significand of 53 bits whose leading bit is set unless the scale is the smallest. The bounds make
the representation unique.

`Binary64.ofDecimal?` rounds a decimal to the nearest double, to the one with an even significand
when two are equally near. Numbers that round beyond the largest double have none.
-/

namespace ColumnSearch

/-- A finite double-precision number. -/
structure Binary64 where
  negative : Bool
  significand : Nat
  scale : Nat
  significand_lt : significand < 0x20000000000000
  scale_le : scale ≤ 2045
  normal : scale = 0 ∨ 0x10000000000000 ≤ significand
  deriving DecidableEq, Repr

namespace Binary64

/-- The zero of the given sign. -/
def zero (negative : Bool) : Binary64 where
  negative
  significand := 0
  scale := 0
  significand_lt := by decide
  scale_le := by decide
  normal := .inl rfl

/-- The whole number nearest to a quotient, the even one of two equally near. -/
def roundDiv (numerator denominator : Nat) : Nat :=
  let quotient := numerator / denominator
  let twice := 2 * (numerator % denominator)
  if twice < denominator then quotient
  else if denominator < twice then quotient + 1
  else quotient + quotient % 2

/-- The double of a significand and scale that meet the bounds. -/
def ofParts? (negative : Bool) (significand scale : Nat) : Option Binary64 :=
  if bounds : significand < 0x20000000000000 ∧ scale ≤ 2045 ∧
      (scale = 0 ∨ 0x10000000000000 ≤ significand) then
    some ⟨negative, significand, scale, bounds.1, bounds.2.1, bounds.2.2⟩
  else
    none

/-- The double nearest to a positive quotient, if it is finite. The quotient is first counted in
units of `2 ^ (-1074)`, then rounded to the 53 leading bits of that count; a carry out of them moves
to the next scale. -/
def ofQuotient? (negative : Bool) (numerator denominator : Nat) : Option Binary64 :=
  let units := numerator <<< 1074
  let scale := (units / denominator).log2 - 52
  let rounded := roundDiv units (denominator <<< scale)
  if rounded = 0x20000000000000 then ofParts? negative 0x10000000000000 (scale + 1)
  else ofParts? negative rounded scale

/-- The number of decimal digits of a whole number. -/
def digitCount (n : Nat) : Nat :=
  (Nat.toDigits 10 n).length

/-- The double nearest to a decimal, if it is finite. Decimals far outside the range are settled by
the position of their leading digit alone. -/
def ofDecimal? (decimal : Decimal) : Option Binary64 :=
  if decimal.digits = 0 then
    some (zero decimal.negative)
  else
    let top := decimal.exponent + digitCount decimal.digits
    if 400 < top then none
    else if top < -400 then some (zero decimal.negative)
    else
      match decimal.exponent with
      | .ofNat power => ofQuotient? decimal.negative (decimal.digits * Nat.pow 10 power) 1
      | .negSucc power => ofQuotient? decimal.negative decimal.digits (Nat.pow 10 (power + 1))

end Binary64

end ColumnSearch
