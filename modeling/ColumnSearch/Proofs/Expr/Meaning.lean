import ColumnSearch.Expr

/-!
# The meaning of expressions

A valuation says which conditions hold. It extends to expressions: a conjunction holds if all its
children do, and a disjunction if one of them does. Groups of any size have a meaning, so an empty
conjunction holds and an empty disjunction does not.
-/

namespace ColumnSearch

namespace Expr

/-- Induction over expressions, with a hypothesis for every child of a group. -/
@[elab_as_elim, induction_eliminator]
theorem induction {motive : Expr → Prop} (leaf : ∀ condition, motive (leaf condition))
    (group : ∀ op children, (∀ child ∈ children, motive child) → motive (group op children)) :
    ∀ expr, motive expr
  | .leaf condition => leaf condition
  | .group op children => group op children fun child _ => induction leaf group child

mutual

/-- The expression holds under a valuation of its conditions. -/
def holds (valuation : Condition → Bool) : Expr → Bool
  | leaf condition => valuation condition
  | group .and children => allHold valuation children
  | group .or children => anyHolds valuation children

/-- All of several expressions hold. -/
def allHold (valuation : Condition → Bool) : List Expr → Bool
  | [] => true
  | expr :: rest => expr.holds valuation && allHold valuation rest

/-- One of several expressions holds. -/
def anyHolds (valuation : Condition → Bool) : List Expr → Bool
  | [] => false
  | expr :: rest => expr.holds valuation || anyHolds valuation rest

end

variable (valuation : Condition → Bool)

/-- A condition holds where the valuation says so. -/
@[simp]
theorem holds_leaf (condition : Condition) :
    (leaf condition).holds valuation = valuation condition := by
  rw [holds]

@[simp]
private theorem allHold_eq_all (exprs : List Expr) :
    allHold valuation exprs = exprs.all (holds valuation) := by
  induction exprs with
  | nil => rw [allHold, List.all_nil]
  | cons expr rest ih => rw [allHold, List.all_cons, ih]

@[simp]
private theorem anyHolds_eq_any (exprs : List Expr) :
    anyHolds valuation exprs = exprs.any (holds valuation) := by
  induction exprs with
  | nil => rw [anyHolds, List.any_nil]
  | cons expr rest ih => rw [anyHolds, List.any_cons, ih]

/-- A conjunction holds where all its children do. -/
@[simp]
theorem holds_and (children : List Expr) :
    (group .and children).holds valuation = children.all (holds valuation) := by
  rw [holds, allHold_eq_all]

/-- A disjunction holds where one of its children does. -/
@[simp]
theorem holds_or (children : List Expr) :
    (group .or children).holds valuation = children.any (holds valuation) := by
  rw [holds, anyHolds_eq_any]

/-- Joining expressions by `AND` is their conjunction, also if there is only one. -/
theorem holds_join_and (exprs : List Expr) :
    (join .and exprs).holds valuation = exprs.all (holds valuation) := by
  match exprs with
  | [] => rfl
  | [expr] => rw [join, List.all_cons, List.all_nil, Bool.and_true]
  | first :: second :: others => exact holds_and valuation (first :: second :: others)

end Expr

end ColumnSearch
