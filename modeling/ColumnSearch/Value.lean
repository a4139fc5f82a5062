import ColumnSearch.Number

/-!
# Filter values

The values an equality list compares a column with.
-/

namespace ColumnSearch

/-- A number or a text. -/
inductive Value where
  | number (value : Number)
  | text (value : String)
  deriving DecidableEq, Repr

namespace Value

/-- The text of a textual value. -/
def text? : Value → Option String
  | number _ => none
  | text value => some value

/-- The number of a numeric value. -/
def number? : Value → Option Number
  | number value => some value
  | text _ => none

end Value

end ColumnSearch
