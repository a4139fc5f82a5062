import ColumnSearch.Decimal

/-!
# Numerals

A numeral is how a decimal is written: a sign, digits, and perhaps a fraction and an exponent.
`Numeral.decimal` is the decimal it spells. `Numeral.truncated` keeps only the leading digits, as
many as a word of 64 bits holds.
-/

namespace ColumnSearch

/-- The parts of a written decimal. -/
structure Numeral where
  negative : Bool
  whole : List Char
  fraction : Option (List Char)
  exponent : Option Int
  deriving DecidableEq, Repr

namespace Numeral

/-- The numeral of a whole number. -/
def ofInt (n : Int) : Numeral where
  negative := decide (n < 0)
  whole := Nat.toDigits 10 n.natAbs
  fraction := none
  exponent := none

/-- The numeral has neither a fraction nor an exponent. -/
def isWhole (numeral : Numeral) : Bool :=
  numeral.fraction.isNone && numeral.exponent.isNone

/-- The text of a fraction, if there is one. -/
def fractionChars : Option (List Char) → List Char
  | none => []
  | some digits => '.' :: digits

/-- The text of an exponent, if there is one. The given text stands before one that is not
negative. -/
def exponentChars (plus : List Char) : Option Int → List Char
  | none => []
  | some (.ofNat power) => 'e' :: plus ++ Nat.toDigits 10 power
  | some (.negSucc power) => 'e' :: '-' :: Nat.toDigits 10 (power + 1)

/-- The text of a numeral. -/
def chars (plus : List Char) (numeral : Numeral) : List Char :=
  (if numeral.negative then ['-'] else []) ++
    (numeral.whole ++ (fractionChars numeral.fraction ++ exponentChars plus numeral.exponent))

/-- The decimal a numeral spells. -/
def decimal (numeral : Numeral) : Decimal :=
  (Decimal.ofParts numeral.negative numeral.whole (numeral.fraction.getD [])).scale
    (numeral.exponent.getD 0)

/-- What digits spell after a leading part, as far as a word holds it, and the digits that are left
out. -/
def takeWord (leading : Nat) : List Char → Nat × List Char
  | [] => (leading, [])
  | c :: cs =>
    let next := Decimal.digitsValue leading [c]
    if next < UInt64.size then takeWord next cs else (leading, c :: cs)

/-- The decimal of the leading digits of a numeral. Digits that are left out of the whole part count
as zeros, and those that are left out of the fraction are dropped. -/
def truncated (numeral : Numeral) : Decimal :=
  let fraction := numeral.fraction.getD []
  let (leading, left) := takeWord 0 numeral.whole
  let (digits, dropped) := takeWord leading fraction
  { negative := numeral.negative
    digits
    exponent := left.length - (fraction.length - dropped.length : Nat) + numeral.exponent.getD 0 }

end Numeral

end ColumnSearch
