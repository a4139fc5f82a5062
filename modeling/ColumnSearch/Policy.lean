import ColumnSearch.Clause
import ColumnSearch.Expr.Parse
import ColumnSearch.Json
import ColumnSearch.Rejection
import ColumnSearch.Token.Lexer

/-!
# Policies

A policy limits the size of searches: their characters, tokens, conditions and clauses. The limits
are checked in this order, cheapest first, and the first one that is exceeded is reported.
-/

namespace ColumnSearch

/-- Limits on the size of searches, and whether sizes are reported. -/
structure Policy where
  maxQueryLength : UInt64 := 500
  maxTokenCount : UInt64 := 100
  maxLeafCount : UInt64 := 50
  maxClauseCount : UInt64 := 256
  measured : Bool := false
  deriving DecidableEq, Repr

namespace Policy

/-- The policy that limits nothing. -/
def unbounded : Policy where
  maxQueryLength := UInt64.ofNat (UInt64.size - 1)
  maxTokenCount := UInt64.ofNat (UInt64.size - 1)
  maxLeafCount := UInt64.ofNat (UInt64.size - 1)
  maxClauseCount := UInt64.ofNat (UInt64.size - 1)

/-- A policy as JSON. -/
def toJson (policy : Policy) : Json :=
  .object [("maxQueryLength", Json.count policy.maxQueryLength.toNat),
    ("maxTokenCount", Json.count policy.maxTokenCount.toNat),
    ("maxClauseLeafCount", Json.count policy.maxLeafCount.toNat),
    ("maxCnfClauses", Json.count policy.maxClauseCount.toNat),
    ("measureChipEnabled", .bool policy.measured)]

/-- Refuses texts with too many characters. -/
def checkLength (policy : Policy) (query : String) : Except Rejection Unit :=
  if policy.maxQueryLength.toNat < query.length then
    .error (.queryTooLong query.length policy.maxQueryLength.toNat)
  else .ok ()

/-- Refuses lists of too many tokens. -/
def checkTokens (policy : Policy) (tokens : List Token) : Except Rejection Unit :=
  if policy.maxTokenCount.toNat < tokens.length then
    .error (.tooManyTokens tokens.length policy.maxTokenCount.toNat)
  else .ok ()

/-- Refuses expressions with too many conditions. -/
def checkLeaves (policy : Policy) (expr : Expr) : Except Rejection Unit :=
  if policy.maxLeafCount.toNat < expr.leafCount then
    .error (.tooManyLeaves expr.leafCount policy.maxLeafCount.toNat)
  else .ok ()

/-- Checks the size of a search text. Conditions are counted only if the text parses. -/
def validate (policy : Policy) (query : String) : Except Rejection Unit := do
  policy.checkLength query
  let tokens := tokenize query
  policy.checkTokens tokens
  match Expr.parse tokens with
  | .ok expr => policy.checkLeaves expr
  | .error _ => .ok ()

end Policy

end ColumnSearch
