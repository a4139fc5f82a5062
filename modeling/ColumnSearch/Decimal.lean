/-!
# Decimal numbers

A decimal is a signed whole number of units, the unit being a power of ten. It is what numeric
text spells before it is given a machine representation.
-/

namespace ColumnSearch

/-- The number `± digits · 10 ^ exponent`. -/
structure Decimal where
  negative : Bool
  digits : Nat
  exponent : Int
  deriving DecidableEq, Repr

namespace Decimal

/-- The whole number that a list of digits spells, after the given leading part. -/
def digitsValue (leading : Nat) (cs : List Char) : Nat :=
  cs.foldl (fun value c => 10 * value + (c.toNat - '0'.toNat)) leading

/-- The decimal with the given sign, whole part and fractional part. -/
def ofParts (negative : Bool) (whole fraction : List Char) : Decimal :=
  ⟨negative, digitsValue (digitsValue 0 whole) fraction, -fraction.length⟩

/-- The decimal scaled by a power of ten. -/
def scale (decimal : Decimal) (power : Int) : Decimal :=
  { decimal with exponent := decimal.exponent + power }

end Decimal

end ColumnSearch
