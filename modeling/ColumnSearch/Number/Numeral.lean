import ColumnSearch.Binary64.Estimate
import ColumnSearch.Binary64.Shortest
import ColumnSearch.Number

/-!
# Numbers and their numerals

Every number has a numeral. Whole numerals are read as words if one holds them, and all others as
doubles, which are estimated from their leading digits.
-/

namespace ColumnSearch

/-- The numeral of a number, with doubles in the given layout. -/
def Number.numeral (layout : Binary64.Layout) : Number → Numeral
  | .signed value => .ofInt value.toInt
  | .unsigned value => .ofInt value.toNat
  | .real value => value.numeral layout

namespace Numeral

/-- The number of a numeral, given its double. A whole numeral becomes a word if one holds it,
except that negative zero is a double. -/
def numberOr (real : Option Binary64) (numeral : Numeral) : Option Number :=
  if numeral.isWhole then
    let magnitude : Int := Decimal.digitsValue 0 numeral.whole
    if numeral.negative then
      if magnitude = 0 then .real <$> real else Number.ofInt? (-magnitude) <|> .real <$> real
    else Number.ofInt? magnitude <|> .real <$> real
  else .real <$> real

/-- The number a numeral is read as. -/
def number? (numeral : Numeral) : Option Number :=
  numeral.numberOr (Binary64.estimate? numeral.truncated)

end Numeral

end ColumnSearch
