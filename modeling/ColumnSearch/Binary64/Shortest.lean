import ColumnSearch.Binary64
import ColumnSearch.Numeral

/-!
# The shortest decimal of a double

Many decimals round to a given double. The one that names it has the fewest digits, and among those
of that many digits it is the nearest to the double; of two equally near it is the even one.

All comparisons are made between whole numbers: the double and the ends of the interval that rounds
to it are counted in units of `10 ^ (-341) / 2 ^ 1076`, so that every decimal of interest falls on a
whole number of units.
-/

namespace ColumnSearch.Binary64

/-- The exponent of the finest decimal place that is counted. -/
def finest : Nat := 341

/-- Units to the power of ten at the finest place. -/
def unitsPerFinest : Nat := 1 <<< 1076

/-- The units of a number of quarters of the least place of a significand. -/
def units (x : Binary64) (quarters : Nat) : Nat :=
  (quarters <<< x.scale) * Nat.pow 10 finest

/-- The double in units. -/
def value (x : Binary64) : Nat :=
  x.units (4 * x.significand)

/-- The lower end of the interval that rounds to the double. Below a power of two the next double is
only half as far. -/
def lower (x : Binary64) : Nat :=
  if x.significand = 0x10000000000000 ∧ x.scale ≠ 0 then x.units (4 * x.significand - 1)
  else x.units (4 * x.significand - 2)

/-- The upper end of the interval that rounds to the double. -/
def upper (x : Binary64) : Nat :=
  x.units (4 * x.significand + 2)

/-- A number of units rounds to the double. The ends of the interval do so when the significand is
even. -/
def reads (x : Binary64) (n : Nat) : Bool :=
  if x.significand % 2 = 0 then decide (x.lower ≤ n) && decide (n ≤ x.upper)
  else decide (x.lower < n) && decide (n < x.upper)

/-- The multiple of a step that names the double: of the two around it those that round to it, and
the nearer one if both do. -/
def onGrid? (x : Binary64) (step : Nat) : Option Nat :=
  let below := x.value / step
  let above := below + 1
  match x.reads (below * step), x.reads (above * step) with
  | false, false => none
  | true, false => some below
  | false, true => some above
  | true, true =>
    let downward := x.value - below * step
    let upward := above * step - x.value
    if downward < upward then some below
    else if upward < downward then some above
    else if below % 2 = 0 then some below else some above

/-- Removes trailing zeros, counting them in the exponent. -/
def dropZeros (digits : Nat) (exponent : Int) : Nat × Int :=
  if digits = 0 then (digits, exponent)
  else if digits % 10 = 0 then dropZeros (digits / 10) (exponent + 1)
  else (digits, exponent)
termination_by digits
decreasing_by omega

/-- The decimal of a double on the grid with the given number of digits, if one rounds to it. -/
def withDigits? (x : Binary64) (count : Nat) : Option (Nat × Int) :=
  let place := digitCount (x.value / unitsPerFinest) - count
  (x.onGrid? (unitsPerFinest * Nat.pow 10 place)).map fun digits =>
    dropZeros digits ((place : Int) - finest)

/-- The digits of the shortest decimal of a double, and the exponent of the last digit. Seventeen
digits always suffice. -/
def shortest (x : Binary64) : Nat × Int :=
  if x.significand = 0 then (0, 0)
  else ((List.range' 1 17).findSome? x.withDigits?).getD (0, 0)

/-- How the digits of a number are laid out. -/
structure Layout where
  /-- The least exponent of a leading digit that is written out in place. -/
  leastPlain : Int
  /-- The greatest exponent of a leading digit that is written out in place. -/
  greatestPlain : Int
  /-- What stands before a positive exponent. -/
  positiveExponent : List Char

/-- The numeral of digits whose first one has the given exponent. -/
def Layout.numeral (form : Layout) (negative : Bool) (digits : List Char) (exponent : Int) :
    Numeral :=
  if form.leastPlain ≤ exponent ∧ exponent ≤ form.greatestPlain then
    match exponent with
    | .ofNat power =>
      let whole := digits.take (power + 1)
      let fraction := digits.drop (power + 1)
      { negative
        whole := whole ++ List.replicate (power + 1 - digits.length) '0'
        fraction := some (if fraction = [] then ['0'] else fraction)
        exponent := none }
    | .negSucc power => ⟨negative, ['0'], some (List.replicate power '0' ++ digits), none⟩
  else
    match digits with
    | first :: second :: rest => ⟨negative, [first], some (second :: rest), some exponent⟩
    | _ => ⟨negative, digits, none, some exponent⟩

/-- The numeral of a double: its shortest decimal in the given layout. -/
def numeral (form : Layout) (x : Binary64) : Numeral :=
  let (digits, exponent) := x.shortest
  let digits := Nat.toDigits 10 digits
  form.numeral x.negative digits (exponent + digits.length - 1)

end ColumnSearch.Binary64
