import ColumnSearch.Number.Numeral
import ColumnSearch.Value

/-!
# JSON values

JSON trees over a choice of numbers and texts. `Json` is the tree of values; `JsonDocument` is the
tree that well-formed text spells, in which numbers are numerals. It has a value unless a numeral is
beyond the finite doubles or a text has an unpaired surrogate.
-/

namespace ColumnSearch

/-- A JSON tree whose leaves hold the given numbers and texts. The fields of an object keep their
order, and their names may repeat. -/
inductive JsonTree (Num Text : Type) where
  | null
  | bool (value : Bool)
  | number (value : Num)
  | text (value : Text)
  | array (items : List (JsonTree Num Text))
  | object (fields : List (Text × JsonTree Num Text))
  deriving Repr

/-- A JSON value. -/
abbrev Json := JsonTree Number String

/-- What well-formed JSON text spells. -/
abbrev JsonDocument := JsonTree Numeral (Option String)

namespace JsonTree

variable {Num Text : Type}

mutual

/-- The number of arrays and objects around the most deeply nested leaf. -/
def depth : JsonTree Num Text → Nat
  | array items => depthOfItems items + 1
  | object fields => depthOfFields fields + 1
  | _ => 0

/-- The greatest depth among several trees. -/
def depthOfItems : List (JsonTree Num Text) → Nat
  | [] => 0
  | item :: rest => max item.depth (depthOfItems rest)

/-- The greatest depth among the values of several fields. -/
def depthOfFields : List (Text × JsonTree Num Text) → Nat
  | [] => 0
  | (_, value) :: rest => max value.depth (depthOfFields rest)

end

end JsonTree

namespace JsonDocument

variable (number? : Numeral → Option Number)

mutual

/-- The value of a document whose numerals are read in the given way. -/
def toJson? : JsonDocument → Option Json
  | .null => some .null
  | .bool value => some (.bool value)
  | .number numeral => (number? numeral).map .number
  | .text value => value.map .text
  | .array items => (itemsToJson? items).map .array
  | .object fields => (fieldsToJson? fields).map .object

/-- The values of several documents. -/
def itemsToJson? : List JsonDocument → Option (List Json)
  | [] => some []
  | item :: rest => do return (← toJson? item) :: (← itemsToJson? rest)

/-- The values of several fields. -/
def fieldsToJson? : List (Option String × JsonDocument) → Option (List (String × Json))
  | [] => some []
  | (name, value) :: rest => do return (← name, ← toJson? value) :: (← fieldsToJson? rest)

end

end JsonDocument

namespace Json

/-- The number that counts something. -/
def count (n : Nat) : Json :=
  .number ((Number.ofInt? n).getD (.unsigned (UInt64.ofNat n)))

/-- The value of an option, absent options being null. -/
def ofOption {α : Type} (encode : α → Json) : Option α → Json
  | none => .null
  | some value => encode value

/-- An object of the fields that are present. -/
def ofPresent (fields : List (String × Option Json)) : Json :=
  .object (fields.filterMap fun (name, value) => value.map (name, ·))

/-- Keeps the last field of each name. -/
def dropRepeated : List (String × Json) → List (String × Json)
  | [] => []
  | (name, value) :: rest =>
    if rest.any (·.1 == name) then dropRepeated rest else (name, value) :: dropRepeated rest

/-- Puts fields in the order of their names, code point by code point. -/
def sortFields (fields : List (String × Json)) : List (String × Json) :=
  (dropRepeated fields).mergeSort fun a b => decide (a.1 ≤ b.1)

mutual

/-- The value with the fields of every object in the order of their names. -/
def sorted : Json → Json
  | .array items => .array (sortedItems items)
  | .object fields => .object (sortFields (sortedFields fields))
  | json => json

/-- Sorts the objects in several values. -/
def sortedItems : List Json → List Json
  | [] => []
  | item :: rest => sorted item :: sortedItems rest

/-- Sorts the objects in the values of several fields. -/
def sortedFields : List (String × Json) → List (String × Json)
  | [] => []
  | (name, value) :: rest => (name, sorted value) :: sortedFields rest

end

end Json

end ColumnSearch
