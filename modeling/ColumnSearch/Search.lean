import ColumnSearch.Policy
import ColumnSearch.Predicate.Compile

/-!
# Searches

The way from search text to filters under a policy: tokens, expression, clauses, filters. Every
stage first passes the earlier ones, and repeats their errors.
-/

namespace ColumnSearch

/-- Why a search has no filters. -/
inductive SearchError where
  /-- The text is no expression. -/
  | parse (error : ParseError)
  /-- The search exceeds a limit. -/
  | rejected (rejection : Rejection)
  /-- The clauses cannot be compiled. -/
  | clauses (fault : ClauseFault)
  deriving DecidableEq, Repr

/-- The wording of an error. -/
def SearchError.message : SearchError → String
  | parse error => error.message
  | rejected rejection => "query rejected: " ++ rejection.message
  | clauses fault => "compile invariant violated: " ++ fault.message

/-- The sizes of a compiled search. -/
structure Metrics where
  length : Nat
  tokens : Nat
  leaves : Nat
  clauses : Nat
  predicates : Nat
  deriving DecidableEq, Repr

/-- Sizes as JSON. -/
def Metrics.toJson (metrics : Metrics) : Json :=
  .object [("length", Json.count metrics.length), ("tokens", Json.count metrics.tokens),
    ("leaves", Json.count metrics.leaves), ("clauses", Json.count metrics.clauses),
    ("predicates", Json.count metrics.predicates)]

/-- The filters of a search, and its sizes if the policy asks for them. -/
structure Compiled where
  filters : FilterSet
  metrics : Option Metrics
  deriving DecidableEq, Repr

/-- A compiled search as JSON. -/
def Compiled.toJson (compiled : Compiled) : Json :=
  Json.ofPresent [("filters", some compiled.filters.toJson),
    ("metrics", compiled.metrics.map Metrics.toJson)]

namespace Search

/-- The tokens of a search text within the limits on characters and tokens. -/
def tokens (policy : Policy) (query : String) : Except SearchError (List Token) := do
  (policy.checkLength query).mapError .rejected
  let tokens := tokenize query
  (policy.checkTokens tokens).mapError .rejected
  return tokens

/-- The expression of a search text within all limits but the one on clauses. -/
def parse (policy : Policy) (query : String) : Except SearchError Expr := do
  let tokens ← tokens policy query
  let expr ← (Expr.parse tokens).mapError .parse
  (policy.checkLeaves expr).mapError .rejected
  return expr

/-- The clauses of a search text within all limits. -/
def clauses (policy : Policy) (query : String) : Except SearchError (List Clause) := do
  let expr ← parse policy query
  (expr.clausesWithin policy.maxClauseCount.toNat).mapError .rejected

/-- The filters of a search text, with its sizes if the policy asks for them. -/
def compile (policy : Policy) (target : Target) (query : String) : Except SearchError Compiled := do
  let tokens ← tokens policy query
  let expr ← (Expr.parse tokens).mapError .parse
  (policy.checkLeaves expr).mapError .rejected
  let clauses ← (expr.clausesWithin policy.maxClauseCount.toNat).mapError .rejected
  let filters ← (FilterSet.ofClauses target clauses).mapError .clauses
  let metrics : Metrics :=
    ⟨query.length, tokens.length, expr.leafCount, clauses.length, filters.toList.length⟩
  return ⟨filters, if policy.measured then some metrics else none⟩

/-- The filters of a search text. -/
def filters (policy : Policy) (target : Target) (query : String) :
    Except SearchError FilterSet := do
  return (← compile policy target query).filters

end Search

end ColumnSearch
