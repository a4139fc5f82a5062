import ColumnSearch.Json.Reader
import ColumnSearch.Json.Record
import ColumnSearch.Predicate

/-!
# Reading filters from JSON

Targets, tests, predicates and filter sets are read from the JSON they are written as, and from the
other spellings of records and names.
-/

namespace ColumnSearch

/-- Reads a target. -/
def Target.ofJson? (json : Json) : Option Target :=
  match Json.record? ["table", "column"] json with
  | some [table, column] => do return ⟨← Json.text? table, ← Json.text? column⟩
  | _ => none

/-- Reads a value. -/
def Value.ofJson? : Json → Option Value
  | .number value => some (number value)
  | .text value => some (text value)
  | _ => none

/-- Reads a test. -/
def TextTest.ofJson? (json : Json) : Option TextTest :=
  match Json.record? ["operator", "value"] json with
  | some [operator, value] => do
    return ⟨← Containment.ofName? (← Json.name? operator), ← Json.text? value⟩
  | _ => none

/-- Reads the kind of a filter. -/
def FilterKind.ofJson? (json : Json) : Option FilterKind := do
  FilterKind.ofCode? (← Json.word? json).toNat

namespace Predicate

/-- Reads an equality list. -/
def equalityOfJson? (json : Json) : Option Predicate :=
  match Json.record? ["$schema", "target", "filterType", "operator", "values"] json with
  | some [schema, target, kind, operator, values] => do
    guard ((← Json.name? operator) = membershipName)
    return equality (← Json.text? schema) (← Target.ofJson? target) (← FilterKind.ofJson? kind)
      (← (← Json.items? values).mapM Value.ofJson?)
  | _ => none

/-- Reads joined text tests. -/
def booleanOfJson? (json : Json) : Option Predicate :=
  match Json.record? ["$schema", "target", "filterType", "logicalOperator", "conditions"] json with
  | some [schema, target, kind, op, tests] => do
    return boolean (← Json.text? schema) (← Target.ofJson? target) (← FilterKind.ofJson? kind)
      (← Connective.ofName? (← Json.name? op)) (← (← Json.items? tests).mapM TextTest.ofJson?)
  | _ => none

/-- Reads a predicate, as an equality list if it is one. -/
def ofJson? (json : Json) : Option Predicate :=
  equalityOfJson? json <|> booleanOfJson? json

end Predicate

/-- Reads a filter set, as a bare predicate if it is one. -/
def FilterSet.ofJson? (json : Json) : Option FilterSet :=
  single <$> Predicate.ofJson? json <|> do
    return many (← (← Json.items? json).mapM Predicate.ofJson?)

/-- The greatest depth of JSON text that filters are read from. -/
def Json.maxDepth : Nat := 127

/-- The value that a text spells, if it is not nested too deeply. -/
def Json.parseShallow? (s : String) : Option Json := do
  let json ← Json.parse? s
  guard (json.depth ≤ maxDepth)
  return json

/-- Reads a filter set from JSON text. -/
def FilterSet.parse? (s : String) : Option FilterSet := do
  FilterSet.ofJson? (← Json.parseShallow? s)

/-- Reads a list of predicates from JSON text. -/
def Predicate.parseList? (s : String) : Option (List Predicate) := do
  (← Json.items? (← Json.parseShallow? s)).mapM Predicate.ofJson?

/-- Reads a list of values from JSON text. -/
def Value.parseList? (s : String) : Option (List Value) := do
  (← Json.items? (← Json.parseShallow? s)).mapM Value.ofJson?

end ColumnSearch
