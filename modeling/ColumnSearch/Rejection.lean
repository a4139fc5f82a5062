/-!
# Rejections

A search is refused when one of its measures exceeds the limit set for it.
-/

namespace ColumnSearch

/-- A measure that exceeds its limit. -/
inductive Rejection where
  /-- The text has too many characters. -/
  | queryTooLong (length max : Nat)
  /-- The text has too many tokens. -/
  | tooManyTokens (count max : Nat)
  /-- The expression has too many conditions. -/
  | tooManyLeaves (count max : Nat)
  /-- The expression has too many clauses. -/
  | tooManyClauses (count max : Nat)
  deriving DecidableEq, Repr

namespace Rejection

/-- The value that was measured. -/
def count : Rejection → Nat
  | queryTooLong length _ => length
  | tooManyTokens count _ => count
  | tooManyLeaves count _ => count
  | tooManyClauses count _ => count

/-- The limit that was exceeded. -/
def max : Rejection → Nat
  | queryTooLong _ max => max
  | tooManyTokens _ max => max
  | tooManyLeaves _ max => max
  | tooManyClauses _ max => max

/-- The wording of a rejection. -/
def message : Rejection → String
  | queryTooLong length max => s!"query is {length} characters long; the limit is {max}"
  | tooManyTokens count max => s!"query has {count} tokens; the limit is {max}"
  | tooManyLeaves count max => s!"query has {count} search terms; the limit is {max}"
  | tooManyClauses count max => s!"query expands to more than {max} filter clauses ({count} needed)"

end Rejection

end ColumnSearch
