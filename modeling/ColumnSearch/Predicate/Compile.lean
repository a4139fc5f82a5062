import ColumnSearch.Clause
import ColumnSearch.Predicate

/-!
# Filters of clauses

The clauses with one condition are gathered into a single conjunction, which comes first. Every
longer clause becomes a predicate of its own: an equality list when all its conditions name exact
values, and a disjunction of text tests otherwise.
-/

namespace ColumnSearch

namespace Condition

/-- The condition names an exact value: it is unsigned, and quoted or numeric. -/
def isExact (condition : Condition) : Bool :=
  condition.polarity == .neutral && (condition.quoted || Number.isLiteral condition.value)

/-- The value an exact condition names. Phrases are texts, and numeric literals are numbers as far
as they are representable. -/
def exactValue (condition : Condition) : Value :=
  if condition.quoted then .text condition.value
  else
    match Number.parse? condition.value with
    | some number => .number number
    | none => .text condition.value

end Condition

/-- Why a list of clauses has no filters. -/
inductive ClauseFault where
  /-- There is no clause. -/
  | noClauses
  /-- A clause has no condition. -/
  | emptyClause (index : Nat)
  deriving DecidableEq, Repr

/-- The wording of a fault. -/
def ClauseFault.message : ClauseFault → String
  | noClauses => "no clauses to compile"
  | emptyClause index => s!"clause {index} is empty"

namespace Predicate

/-- The predicate of a clause with several conditions. -/
def ofClause (target : Target) (clause : Clause) : Predicate :=
  if clause.all Condition.isExact then ofValues target (clause.map Condition.exactValue)
  else ofTests target .or (clause.map TextTest.ofCondition)

/-- The conjunction of the clauses with one condition, if there are any. -/
def ofSingles (target : Target) (clauses : List Clause) : List Predicate :=
  match clauses.filter (·.length == 1) with
  | [] => []
  | singles => [ofTests target .and (singles.flatten.map TextTest.ofCondition)]

/-- The predicates of a list of clauses. -/
def ofClauses (target : Target) (clauses : List Clause) : List Predicate :=
  ofSingles target clauses ++ (clauses.filter (·.length != 1)).map (ofClause target)

end Predicate

/-- The filters of a list of clauses, none of which may be empty. -/
def FilterSet.ofClauses (target : Target) (clauses : List Clause) : Except ClauseFault FilterSet :=
  if clauses.isEmpty then
    .error .noClauses
  else
    match clauses.findIdx? List.isEmpty with
    | some index => .error (.emptyClause index)
    | none => .ok (.ofList (Predicate.ofClauses target clauses))

end ColumnSearch
