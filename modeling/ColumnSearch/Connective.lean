/-!
# Connectives

The two ways of joining the parts of a search.
-/

namespace ColumnSearch

/-- Conjunction and disjunction. -/
inductive Connective where
  | and
  | or
  deriving DecidableEq, Repr

namespace Connective

/-- The name under which a connective appears in filters. -/
def name : Connective → String
  | and => "And"
  | or => "Or"

/-- The keyword that writes a connective in a search. -/
def keyword : Connective → String
  | and => "AND"
  | or => "OR"

/-- The connective a keyword names, whatever its ASCII case. -/
def ofKeyword? (word : String) : Option Connective :=
  let upper := word.toList.map Char.toUpper
  if upper = and.keyword.toList then some and
  else if upper = or.keyword.toList then some or
  else none

/-- The connective of the given name. -/
def ofName? (word : String) : Option Connective :=
  if word = and.name then some and
  else if word = or.name then some or
  else none

end Connective

end ColumnSearch
