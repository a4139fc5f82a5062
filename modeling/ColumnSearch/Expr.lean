import ColumnSearch.Condition
import ColumnSearch.Connective

/-!
# Search expressions

A search is a tree of conditions joined by connectives. Groups may have any number of children;
`Expr.join` builds the groups a parser needs, where a single child stands for itself.
-/

namespace ColumnSearch

/-- A tree of conditions. -/
inductive Expr where
  | leaf (condition : Condition)
  | group (op : Connective) (children : List Expr)
  deriving Repr

namespace Expr

/-- Joins expressions by a connective; a single one is left as it is. -/
def join (op : Connective) : List Expr → Expr
  | [expr] => expr
  | children => group op children

/-- The expression is a single condition. -/
def isLeaf : Expr → Bool
  | leaf _ => true
  | group _ _ => false

mutual

/-- The conditions of an expression from left to right. -/
def conditions : Expr → List Condition
  | leaf condition => [condition]
  | group _ children => conditionsOf children

/-- The conditions of several expressions from left to right. -/
def conditionsOf : List Expr → List Condition
  | [] => []
  | expr :: rest => expr.conditions ++ conditionsOf rest

end

mutual

/-- The number of conditions in an expression. -/
def leafCount : Expr → Nat
  | leaf _ => 1
  | group _ children => leafCountOf children

/-- The number of conditions in several expressions. -/
def leafCountOf : List Expr → Nat
  | [] => 0
  | expr :: rest => expr.leafCount + leafCountOf rest

end

mutual

/-- The expression as it would be typed, with every group in parentheses. -/
def render : Expr → String
  | leaf condition => condition.render
  | group op children => "(" ++ renderJoined op children ++ ")"

/-- Expressions as they would be typed, joined by the keyword of a connective. -/
def renderJoined (op : Connective) : List Expr → String
  | [] => ""
  | [expr] => expr.render
  | expr :: rest => expr.render ++ " " ++ op.keyword ++ " " ++ renderJoined op rest

end

/-- The conditions of several expressions are those of each one after the other. -/
@[simp]
theorem conditionsOf_eq_flatMap (exprs : List Expr) :
    conditionsOf exprs = exprs.flatMap conditions := by
  induction exprs with
  | nil => rfl
  | cons expr rest ih => simp [conditionsOf, ih]

/-- The conditions of a group are those of its children one after the other. -/
theorem conditions_group (op : Connective) (children : List Expr) :
    (group op children).conditions = children.flatMap conditions := by
  rw [conditions, conditionsOf_eq_flatMap]

end Expr

end ColumnSearch
