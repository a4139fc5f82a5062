import ColumnSearch.Json

/-!
# Records in JSON

A record is read from an object, in which unknown fields are skipped and known ones must occur
exactly once, or from an array of its fields in order. A name is read from a text, or from an object
that maps just this name to null.
-/

namespace ColumnSearch

namespace Json

/-- The value of the field that bears one of the names, if there is exactly one. -/
def field? (names : List String) (fields : List (String × Json)) : Option Json :=
  match fields.filter (·.1 ∈ names) with
  | [(_, value)] => some value
  | _ => none

/-- The text of a textual value. -/
def text? : Json → Option String
  | .text value => some value
  | _ => none

/-- The items of an array. -/
def items? : Json → Option (List Json)
  | .array items => some items
  | _ => none

/-- The name a value spells. -/
def name? : Json → Option String
  | .text value => some value
  | .object [(name, .null)] => some name
  | _ => none

/-- The whole number below `2 ^ 64` that a value holds. -/
def word? : Json → Option UInt64
  | .number (.signed value) => if 0 ≤ value then some value.toUInt64 else none
  | .number (.unsigned value) => some value
  | _ => none

/-- The values of the named fields in order, from an object or an array. -/
def record? (names : List String) : Json → Option (List Json)
  | .object fields => names.mapM fun name => field? [name] fields
  | .array items => if items.length = names.length then some items else none
  | _ => none

end Json

end ColumnSearch
