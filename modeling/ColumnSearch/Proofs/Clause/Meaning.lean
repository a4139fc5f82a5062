import ColumnSearch.Clause
import ColumnSearch.Proofs.Expr.Meaning

/-!
# The meaning of clauses

A list of clauses holds if every clause has a condition that does. The clauses of an expression
hold exactly when the expression does, whatever its shape. They are made of its conditions: each
clause picks some of them and keeps their order.
-/

namespace ColumnSearch

section Distribution

variable (valuation : Condition → Bool)

/-- Conditions put in front of every clause of a list form a disjunction with the list. -/
theorem all_any_map_append (first : Clause) (clauses : List Clause) :
    (clauses.map (first ++ ·)).all (·.any valuation) =
      (first.any valuation || clauses.all (·.any valuation)) := by
  induction clauses with
  | nil => rw [List.map_nil, List.all_nil, Bool.or_true]
  | cons second rest ih =>
      rw [List.map_cons, List.all_cons, List.any_append, ih, List.all_cons,
        Bool.or_and_distrib_left]

/-- Distribution forms the disjunction of two lists. -/
theorem all_any_distribute (left right : List Clause) :
    (distribute left right).all (·.any valuation) =
      (left.all (·.any valuation) || right.all (·.any valuation)) := by
  induction left with
  | nil => rfl
  | cons first rest ih =>
      rw [distribute_cons, List.all_append, all_any_map_append, ih, List.all_cons,
        Bool.or_and_distrib_right]

/-- Distributing lists one after the other takes the disjunction of all of them. -/
theorem all_any_foldl_distribute (lists : List (List Clause)) (done : List Clause) :
    (lists.foldl distribute done).all (·.any valuation) =
      (done.all (·.any valuation) || lists.any fun clauses => clauses.all (·.any valuation)) := by
  induction lists generalizing done with
  | nil => rw [List.foldl_nil, List.any_nil, Bool.or_false]
  | cons clauses rest ih =>
      rw [List.foldl_cons, ih, all_any_distribute, List.any_cons, Bool.or_assoc]

end Distribution

namespace Expr

/-- The clauses of a condition. -/
@[simp]
theorem clauses_leaf (condition : Condition) : (leaf condition).clauses = [[condition]] := by
  rw [clauses]

/-- The clauses of a conjunction are those of its children one after the other. -/
@[simp]
theorem clauses_and (children : List Expr) :
    (group .and children).clauses = children.flatMap clauses := by
  rw [clauses, clausesOfAll_eq_flatMap]

/-- The clauses of a disjunction are those of its children distributed from left to right. -/
@[simp]
theorem clauses_or (children : List Expr) :
    (group .or children).clauses = (children.map clauses).foldl distribute [[]] := by
  rw [clauses, clausesOfAny_eq_foldl]

/-- The clauses of an expression have its meaning. -/
theorem all_any_clauses (valuation : Condition → Bool) (expr : Expr) :
    expr.clauses.all (·.any valuation) = expr.holds valuation := by
  induction expr with
  | leaf condition => simp only [clauses_leaf, holds_leaf, List.all_cons, List.any_cons,
      List.any_nil, List.all_nil, Bool.or_false, Bool.and_true]
  | group op children ih =>
      cases op with
      | and =>
          rw [clauses_and, holds_and, List.all_flatMap]
          rw [Bool.eq_iff_iff, List.all_eq_true, List.all_eq_true]
          exact forall₂_congr fun child member => by rw [ih child member]
      | or =>
          rw [clauses_or, holds_or, all_any_foldl_distribute, List.any_map]
          rw [List.all_cons, List.any_nil, Bool.false_and, Bool.false_or, Bool.eq_iff_iff,
            List.any_eq_true, List.any_eq_true]
          exact exists_congr fun child => and_congr_right fun member => by
            rw [Function.comp_apply, ih child member]

/-- An expression holds exactly when each of its clauses has a condition that does. -/
theorem holds_iff_forall_clauses (expr : Expr) (valuation : Condition → Bool) :
    expr.holds valuation = true ↔
      ∀ clause ∈ expr.clauses, ∃ condition ∈ clause, valuation condition = true := by
  rw [← all_any_clauses, List.all_eq_true]
  simp only [List.any_eq_true]

/-- Distributing the clauses of expressions over clauses found before them extends each of these by
conditions of the expressions, in their order. -/
theorem sublist_of_mem_foldl_distribute {exprs : List Expr}
    (each : ∀ expr ∈ exprs, ∀ clause ∈ expr.clauses, clause.Sublist expr.conditions)
    {done : List Clause} {passed : List Condition}
    (found : ∀ clause ∈ done, clause.Sublist passed) {clause : Clause}
    (member : clause ∈ (exprs.map clauses).foldl distribute done) :
    clause.Sublist (passed ++ exprs.flatMap conditions) := by
  induction exprs generalizing done passed with
  | nil =>
      rw [List.flatMap_nil, List.append_nil]
      exact found clause member
  | cons expr rest ih =>
      rw [List.flatMap_cons, ← List.append_assoc]
      apply ih (fun later inside => each later (List.mem_cons_of_mem expr inside)) _ member
      intro extended inside
      obtain ⟨first, before, second, after, rfl⟩ := mem_distribute.mp inside
      exact (found first before).append (each expr List.mem_cons_self second after)

/-- A clause of an expression consists of conditions of the expression, in their order. -/
theorem sublist_conditions_of_mem_clauses {expr : Expr} {clause : Clause}
    (member : clause ∈ expr.clauses) : clause.Sublist expr.conditions := by
  induction expr generalizing clause with
  | leaf condition =>
      rw [clauses_leaf, List.mem_singleton] at member
      subst member
      exact List.Sublist.refl _
  | group op children ih =>
      rw [conditions_group]
      cases op with
      | and =>
          rw [clauses_and, List.mem_flatMap] at member
          obtain ⟨child, inside, member⟩ := member
          rw [List.flatMap_def]
          exact (ih child inside member).trans
            (List.sublist_flatten_of_mem (List.mem_map_of_mem inside))
      | or =>
          rw [clauses_or] at member
          have empty : ∀ clause ∈ ([[]] : List Clause), clause.Sublist [] := by
            intro clause inside
            obtain rfl := List.mem_singleton.mp inside
            exact List.Sublist.refl _
          exact sublist_of_mem_foldl_distribute (fun child inside _ => ih child inside) empty member

end Expr

end ColumnSearch
