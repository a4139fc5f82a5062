import ColumnSearch.Proofs.Clause.Meaning
import ColumnSearch.Proofs.Expr.Terms
import Mathlib.Data.List.Basic

/-!
# Redundant groups

A group inside a group of the same connective, and a group with a single child, say nothing that
could not be said without them. `Expr.flatten` removes both. Since distribution is associative and
the empty clause is neutral for it, the clauses stay the same, in the same order.
-/

namespace ColumnSearch

section Distribution

@[simp]
private theorem distribute_empty_left (clauses : List Clause) :
    distribute [[]] clauses = clauses := by
  simp [distribute]

@[simp]
private theorem distribute_empty_right (clauses : List Clause) :
    distribute clauses [[]] = clauses := by
  simp [distribute]

private theorem distribute_assoc (first second third : List Clause) :
    distribute (distribute first second) third = distribute first (distribute second third) := by
  simp only [distribute, List.flatMap_assoc, List.flatMap_map, List.map_flatMap, List.map_map,
    Function.comp_def, List.append_assoc]

/-- Distributing lists over clauses found before them is distributing them on their own first. -/
theorem foldl_distribute (lists : List (List Clause)) (done : List Clause) :
    lists.foldl distribute done = distribute done (lists.foldl distribute [[]]) := by
  induction lists generalizing done with
  | nil => rw [List.foldl_nil, List.foldl_nil, distribute_empty_right]
  | cons clauses rest ih =>
      rw [List.foldl_cons, List.foldl_cons, ih, ih (distribute [[]] clauses),
        distribute_empty_left, distribute_assoc]

end Distribution

namespace Expr

/-- What an expression adds to a group around it: the children of a group of the same connective,
and itself otherwise. -/
def operands (op : Connective) : Expr → List Expr
  | leaf condition => [leaf condition]
  | group inner children => if inner = op then children else [group inner children]

mutual

/-- The expression with every group spliced into a group of the same connective around it, and
every group with a single child replaced by the child. -/
def flatten : Expr → Expr
  | leaf condition => leaf condition
  | group op children => join op (flattenInto op children)

/-- What the flattened expressions add to a group around them. -/
def flattenInto (op : Connective) : List Expr → List Expr
  | [] => []
  | expr :: rest => operands op expr.flatten ++ flattenInto op rest

end

/-- No group has a single child or a child that is a group of the same connective. -/
def Flat : Expr → Prop :=
  EveryGroup fun op children =>
    children.length ≠ 1 ∧ ∀ child ∈ children, ∀ inside, child ≠ group op inside

variable {op : Connective} {expr : Expr} {exprs : List Expr}

private theorem flattenInto_eq_flatMap (op : Connective) (exprs : List Expr) :
    flattenInto op exprs = exprs.flatMap fun expr => operands op expr.flatten := by
  induction exprs with
  | nil => rfl
  | cons expr rest ih => rw [flattenInto, List.flatMap_cons, ih]

private theorem flatten_group (op : Connective) (children : List Expr) :
    (group op children).flatten =
      join op (children.flatMap fun child => operands op child.flatten) := by
  rw [flatten, flattenInto_eq_flatMap]

private theorem operands_cases (op : Connective) (expr : Expr) :
    (∃ children, expr = group op children ∧ operands op expr = children) ∨
      (∀ inside, expr ≠ group op inside) ∧ operands op expr = [expr] := by
  cases expr with
  | leaf condition => exact .inr ⟨nofun, rfl⟩
  | group inner children =>
      by_cases same : inner = op
      · subst same
        exact .inl ⟨children, rfl, if_pos rfl⟩
      · refine .inr ⟨?_, if_neg same⟩
        rintro inside ⟨⟩
        exact same rfl

private theorem flat_join (each : ∀ expr ∈ exprs, expr.Flat ∧ ∀ inside, expr ≠ group op inside) :
    (join op exprs).Flat := by
  match exprs with
  | [] => exact .group ⟨nofun, List.forall_mem_nil _⟩ (List.forall_mem_nil _)
  | [expr] => exact (each expr List.mem_cons_self).1
  | first :: second :: others =>
      refine .group ⟨?_, fun child member => (each child member).2⟩
        fun child member => (each child member).1
      simp only [List.length_cons]
      omega

private theorem flat_of_mem_operands (flat : expr.Flat) {operand : Expr}
    (member : operand ∈ operands op expr) :
    operand.Flat ∧ ∀ inside, operand ≠ group op inside := by
  obtain ⟨children, rfl, spliced⟩ | ⟨other, alone⟩ := operands_cases op expr
  · rw [spliced] at member
    cases flat with
    | group here below => exact ⟨below operand member, here.2 operand member⟩
  · rw [alone, List.mem_singleton] at member
    subst member
    exact ⟨flat, other⟩

/-- Flattening leaves no group with a single child or with a child of its own connective. -/
theorem flat_flatten (expr : Expr) : expr.flatten.Flat := by
  induction expr with
  | leaf condition => exact .leaf condition
  | group op children ih =>
      rw [flatten_group]
      apply flat_join
      intro operand member
      obtain ⟨child, inside, member⟩ := List.mem_flatMap.mp member
      exact flat_of_mem_operands (ih child inside) member

section Spliced

variable {α : Type} {parts : Expr → List α}

/-- If a group has the parts of its children, then so does what it adds to a group around it. -/
theorem flatMap_operands
    (spliced : ∀ children, parts (group op children) = children.flatMap parts) (expr : Expr) :
    (operands op expr).flatMap parts = parts expr := by
  obtain ⟨children, rfl, inside⟩ | ⟨_, alone⟩ := operands_cases op expr
  · rw [inside, spliced]
  · rw [alone, List.flatMap_singleton]

private theorem flatMap_operands_flatten
    (spliced : ∀ children, parts (group op children) = children.flatMap parts)
    (each : ∀ expr ∈ exprs, parts expr.flatten = parts expr) :
    (exprs.flatMap fun expr => operands op expr.flatten).flatMap parts =
      exprs.flatMap parts := by
  rw [List.flatMap_assoc]
  apply List.flatMap_congr
  intro expr member
  rw [flatMap_operands spliced, each expr member]

end Spliced

/-- Flattening keeps the conditions and their order. -/
theorem conditions_flatten (expr : Expr) : expr.flatten.conditions = expr.conditions := by
  induction expr with
  | leaf condition => rw [flatten]
  | group op children ih =>
      rw [flatten_group, conditions_join, conditions_group,
        flatMap_operands_flatten (conditions_group op) ih]

private theorem clauses_join_and (exprs : List Expr) :
    (join .and exprs).clauses = exprs.flatMap clauses := by
  match exprs with
  | [] => exact clauses_and []
  | [expr] => rw [join, List.flatMap_singleton]
  | first :: second :: others => exact clauses_and (first :: second :: others)

private theorem clauses_join_or (exprs : List Expr) :
    (join .or exprs).clauses = (exprs.map clauses).foldl distribute [[]] := by
  match exprs with
  | [] => exact clauses_or []
  | [expr] =>
      rw [join, List.map_singleton, List.foldl_cons, List.foldl_nil, distribute_empty_left]
  | first :: second :: others => exact clauses_or (first :: second :: others)

private theorem foldl_distribute_operands (expr : Expr) (done : List Clause) :
    ((operands .or expr).map clauses).foldl distribute done = distribute done expr.clauses := by
  obtain ⟨children, rfl, inside⟩ | ⟨_, alone⟩ := operands_cases .or expr
  · rw [inside, clauses_or, ← foldl_distribute]
  · rw [alone, List.map_singleton, List.foldl_cons, List.foldl_nil]

private theorem foldl_distribute_operands_flatten
    (each : ∀ expr ∈ exprs, expr.flatten.clauses = expr.clauses) (done : List Clause) :
    ((exprs.flatMap fun expr => operands .or expr.flatten).map clauses).foldl distribute done =
      (exprs.map clauses).foldl distribute done := by
  -- What the first child adds is distributed at once, so the clauses done so far stay general.
  induction exprs generalizing done with
  | nil => rfl
  | cons expr rest ih =>
      obtain ⟨first, later⟩ := List.forall_mem_cons.mp each
      rw [List.flatMap_cons, List.map_append, List.foldl_append, foldl_distribute_operands, first,
        ih later, List.map_cons, List.foldl_cons]

/-- Flattening changes no clause, no condition in a clause and no order. -/
theorem clauses_flatten (expr : Expr) : expr.flatten.clauses = expr.clauses := by
  induction expr with
  | leaf condition => rw [flatten]
  | group op children ih =>
      rw [flatten_group]
      cases op with
      | and => rw [clauses_join_and, clauses_and, flatMap_operands_flatten clauses_and ih]
      | or => rw [clauses_join_or, clauses_or, foldl_distribute_operands_flatten ih]

end Expr

end ColumnSearch
