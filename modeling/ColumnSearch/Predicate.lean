import ColumnSearch.Condition
import ColumnSearch.Connective
import ColumnSearch.Json.Printer
import ColumnSearch.Sha256
import ColumnSearch.Target
import ColumnSearch.Value

/-!
# Predicates

A predicate is one filter on a column: an equality list, or text conditions joined by a connective.
A filter set is one predicate, or a list of them that must all hold. Its fingerprint is the hash of
its compact JSON text.
-/

namespace ColumnSearch

/-- The two kinds of filters, by the engine that evaluates them. -/
inductive FilterKind where
  | advanced
  | basic
  deriving DecidableEq, Repr

/-- The number that stands for a kind. -/
def FilterKind.code : FilterKind → Nat
  | advanced => 0
  | basic => 1

/-- The kind of a number. -/
def FilterKind.ofCode? : Nat → Option FilterKind
  | 0 => some advanced
  | 1 => some basic
  | _ => none

/-- Whether a text must or must not occur. -/
inductive Containment where
  | contains
  | doesNotContain
  deriving DecidableEq, Repr

namespace Containment

/-- The name of a containment in filters. -/
def name : Containment → String
  | contains => "Contains"
  | doesNotContain => "DoesNotContain"

/-- The containment of the given name. -/
def ofName? (word : String) : Option Containment :=
  if word = contains.name then some contains
  else if word = doesNotContain.name then some doesNotContain
  else none

/-- Excluded terms must not occur. -/
def ofExclusion (excluded : Bool) : Containment :=
  if excluded then doesNotContain else contains

end Containment

/-- A test of a column for a text. -/
structure TextTest where
  operator : Containment
  value : String
  deriving DecidableEq, Repr

/-- The test a condition asks for. -/
def TextTest.ofCondition (condition : Condition) : TextTest :=
  ⟨.ofExclusion condition.isExcluded, condition.value⟩

/-- One filter on a column. -/
inductive Predicate where
  /-- The column equals one of the values. -/
  | equality (schema : String) (target : Target) (kind : FilterKind) (values : List Value)
  /-- The tests hold, all of them or any of them. -/
  | boolean (schema : String) (target : Target) (kind : FilterKind) (op : Connective)
    (tests : List TextTest)
  deriving DecidableEq, Repr

namespace Predicate

/-- The schema of equality lists. -/
def basicSchema : String := "http://powerbi.com/product/schema#basic"

/-- The schema of text conditions. -/
def advancedSchema : String := "http://powerbi.com/product/schema#advanced"

/-- The name of the only operator of equality lists. -/
def membershipName : String := "In"

/-- The equality list of the given values. -/
def ofValues (target : Target) (values : List Value) : Predicate :=
  equality basicSchema target .basic values

/-- The given tests, joined by a connective. -/
def ofTests (target : Target) (op : Connective) (tests : List TextTest) : Predicate :=
  boolean advancedSchema target .advanced op tests

/-- The column a predicate filters. -/
def target : Predicate → Target
  | equality _ target _ _ => target
  | boolean _ target _ _ _ => target

/-- The predicate is an equality list. -/
def isEquality : Predicate → Bool
  | equality .. => true
  | boolean .. => false

end Predicate

/-- One predicate, or a list of predicates that must all hold. -/
inductive FilterSet where
  | single (predicate : Predicate)
  | many (predicates : List Predicate)
  deriving DecidableEq, Repr

namespace FilterSet

/-- The filter set of a list, a list of one being that one. -/
def ofList : List Predicate → FilterSet
  | [predicate] => single predicate
  | predicates => many predicates

/-- The predicates of a filter set. -/
def toList : FilterSet → List Predicate
  | single predicate => [predicate]
  | many predicates => predicates

/-- The filter set is a bare predicate. -/
def isSingle : FilterSet → Bool
  | single _ => true
  | many _ => false

end FilterSet

/-- A target as JSON. -/
def Target.toJson (target : Target) : Json :=
  .object [("table", .text target.table), ("column", .text target.column)]

/-- A value as JSON. -/
def Value.toJson : Value → Json
  | number value => .number value
  | text value => .text value

/-- A test as JSON. -/
def TextTest.toJson (test : TextTest) : Json :=
  .object [("operator", .text test.operator.name), ("value", .text test.value)]

/-- A predicate as JSON. -/
def Predicate.toJson : Predicate → Json
  | equality schema target kind values =>
    .object [("$schema", .text schema), ("target", target.toJson),
      ("filterType", Json.count kind.code), ("operator", .text membershipName),
      ("values", .array (values.map Value.toJson))]
  | boolean schema target kind op tests =>
    .object [("$schema", .text schema), ("target", target.toJson),
      ("filterType", Json.count kind.code), ("logicalOperator", .text op.name),
      ("conditions", .array (tests.map TextTest.toJson))]

namespace FilterSet

/-- A filter set as JSON: a bare predicate, or an array. -/
def toJson : FilterSet → Json
  | single predicate => predicate.toJson
  | many predicates => .array (predicates.map Predicate.toJson)

/-- The hash of the compact text of a filter set. -/
def fingerprint (filters : FilterSet) : String :=
  Sha256.hex filters.toJson.compact

end FilterSet

end ColumnSearch
