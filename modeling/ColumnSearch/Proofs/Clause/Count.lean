import ColumnSearch.Proofs.Clause.Presence
import ColumnSearch.Proofs.Expr.Terms
import Mathlib.Algebra.BigOperators.Group.List.Basic
import Mathlib.Algebra.Order.Ring.Nat

/-!
# The number of clauses

A conjunction has as many clauses as its children together, and a disjunction as many as there are
ways to pick one clause of every child. The worst expressions for their size are disjunctions of
conjunctions of three conditions, with `3 ^ k` clauses for `3 * k` conditions: the cube of the
number of clauses is at most `3 ^ n` for `n` conditions. Expressions with empty disjunctions are
beyond the bound, since these have a clause without having a condition.
-/

namespace ColumnSearch

/-- What multiplies when two lists are distributed multiplies over all of them. -/
theorem foldl_distribute_eq_mul_prod {count : List Clause → Nat}
    (product : ∀ left right, count (distribute left right) = count left * count right)
    (lists : List (List Clause)) (done : List Clause) :
    count (lists.foldl distribute done) = count done * (lists.map count).prod := by
  induction lists generalizing done with
  | nil => rw [List.foldl_nil, List.map_nil, List.prod_nil, Nat.mul_one]
  | cons clauses rest ih =>
      rw [List.foldl_cons, ih, product, List.map_cons, List.prod_cons, Nat.mul_assoc]

/-- The bound on the number of clauses that a number of conditions can have. -/
structure ClauseBound (conditions clauses : Nat) : Prop where
  cubed : clauses ^ 3 ≤ 3 ^ conditions
  pos : 0 < clauses → 0 < conditions

namespace ClauseBound

variable {conditions others clauses more : Nat}

private theorem zero : ClauseBound 0 0 :=
  ⟨Nat.zero_le _, id⟩

private theorem one : ClauseBound 1 1 :=
  ⟨by decide, id⟩

private theorem mono (bound : ClauseBound conditions clauses) (grown : conditions ≤ others) :
    ClauseBound others clauses where
  cubed := Nat.le_trans bound.cubed (Nat.pow_le_pow_right (by decide) grown)
  pos positive := Nat.lt_of_lt_of_le (bound.pos positive) grown

private theorem mul (first : ClauseBound conditions clauses) (second : ClauseBound others more) :
    ClauseBound (conditions + others) (clauses * more) where
  cubed := by
    rw [Nat.mul_pow, Nat.pow_add]
    exact Nat.mul_le_mul first.cubed second.cubed
  pos positive := Nat.add_pos_left (first.pos (Nat.pos_of_mul_pos_right positive)) others

private theorem succ_cubed_le (large : 3 ≤ clauses) : (clauses + 1) ^ 3 ≤ 3 * clauses ^ 3 := by
  have stretched : (3 * (clauses + 1)) ^ 3 ≤ (4 * clauses) ^ 3 :=
    Nat.pow_le_pow_left (by omega) 3
  rw [Nat.mul_pow, Nat.mul_pow] at stretched
  omega

-- From three clauses on, one more makes the cube grow by less than the factor 3 that a further
-- condition allows. The counts below need their conditions counted exactly.
private theorem succ (bound : ClauseBound conditions clauses) :
    ClauseBound (conditions + 1) (clauses + 1) where
  cubed := by
    match clauses, bound with
    | 0, _ => exact Nat.one_le_pow _ _ (by decide)
    | 1, bound =>
        have several : 2 ≤ conditions + 1 := Nat.succ_le_succ (bound.pos Nat.one_pos)
        calc (1 + 1) ^ 3
            ≤ 3 ^ 2 := by decide
          _ ≤ 3 ^ (conditions + 1) := Nat.pow_le_pow_right (by decide) several
    | 2, bound =>
        have several : 2 ≤ conditions := by
          by_contra few
          have small : 3 ^ conditions ≤ 3 ^ 1 := Nat.pow_le_pow_right (by decide) (by omega)
          have cubed := bound.cubed
          omega
        exact Nat.pow_le_pow_right (by decide) (Nat.succ_le_succ several)
    | clauses + 3, bound =>
        calc (clauses + 3 + 1) ^ 3
            ≤ 3 * (clauses + 3) ^ 3 := succ_cubed_le (Nat.le_add_left 3 clauses)
          _ ≤ 3 * 3 ^ conditions := Nat.mul_le_mul_left 3 bound.cubed
          _ = 3 ^ (conditions + 1) := (Nat.pow_succ').symm
  pos _ := Nat.succ_pos conditions

private theorem add (first : ClauseBound conditions clauses) (second : ClauseBound others more) :
    ClauseBound (conditions + others) (clauses + more) := by
  match clauses, more, first, second with
  | 0, more, _, second =>
      rw [Nat.zero_add]
      exact second.mono (Nat.le_add_left others conditions)
  | clauses, 0, first, _ => exact first.mono (Nat.le_add_right conditions others)
  | 1, more, first, second =>
      have positive := first.pos Nat.one_pos
      rw [Nat.add_comm 1]
      exact second.succ.mono (by omega)
  | clauses, 1, first, second =>
      have positive := second.pos Nat.one_pos
      exact first.succ.mono (by omega)
  | clauses + 2, more + 2, first, second =>
      have product := first.mul second
      have fewer : clauses + 2 + (more + 2) ≤ (clauses + 2) * (more + 2) :=
        Nat.add_le_mul (Nat.le_add_left 2 clauses) (Nat.le_add_left 2 more)
      exact ⟨Nat.le_trans (Nat.pow_le_pow_left fewer 3) product.cubed,
        fun positive => product.pos (Nat.lt_of_lt_of_le positive fewer)⟩

end ClauseBound

namespace Expr

private theorem leafCount_group (op : Connective) (children : List Expr) :
    (group op children).leafCount = (children.map (·.leafCount)).sum := by
  simp only [leafCount_eq_length_conditions, conditions_group, List.length_flatMap]

/-- A condition is one clause. -/
theorem length_clauses_leaf (condition : Condition) : (leaf condition).clauses.length = 1 := by
  rw [clauses_leaf]
  rfl

/-- A conjunction has as many clauses as its children together. -/
theorem length_clauses_and (children : List Expr) :
    (group .and children).clauses.length = (children.map (·.clauses.length)).sum := by
  rw [clauses_and, List.length_flatMap]

/-- A disjunction has a clause for every way to pick one from each child. -/
theorem length_clauses_or (children : List Expr) :
    (group .or children).clauses.length = (children.map (·.clauses.length)).prod := by
  rw [clauses_or, foldl_distribute_eq_mul_prod length_distribute, List.map_map,
    List.length_singleton, Nat.one_mul]
  rfl

section Children

variable {exprs : List Expr}

private theorem clauseBound_sum
    (each : ∀ expr ∈ exprs, ClauseBound expr.leafCount expr.clauses.length) :
    ClauseBound (exprs.map (·.leafCount)).sum (exprs.map (·.clauses.length)).sum := by
  induction exprs with
  | nil => exact .zero
  | cons expr rest ih =>
      obtain ⟨head, tail⟩ := List.forall_mem_cons.mp each
      rw [List.map_cons, List.map_cons, List.sum_cons, List.sum_cons]
      exact head.add (ih tail)

-- The first child starts the product, since the empty product is beyond the bound.
private theorem clauseBound_prod {first : Expr}
    (head : ClauseBound first.leafCount first.clauses.length)
    (tail : ∀ expr ∈ exprs, ClauseBound expr.leafCount expr.clauses.length) :
    ClauseBound ((first :: exprs).map (·.leafCount)).sum
      ((first :: exprs).map (·.clauses.length)).prod := by
  induction exprs generalizing first with
  | nil =>
      rw [List.map_singleton, List.map_singleton, List.sum_singleton, List.prod_singleton]
      exact head
  | cons second rest ih =>
      obtain ⟨next, later⟩ := List.forall_mem_cons.mp tail
      exact head.mul (ih next later)

end Children

/-- Without empty disjunctions, the number of clauses is within the bound that the number of
conditions sets. -/
theorem clauseBound_of_noEmptyDisjunction {expr : Expr} (proper : expr.NoEmptyDisjunction) :
    ClauseBound expr.leafCount expr.clauses.length := by
  induction proper with
  | leaf condition =>
      rw [leafCount, length_clauses_leaf]
      exact .one
  | @group op children here below ih =>
      rw [leafCount_group]
      cases op with
      | and =>
          rw [length_clauses_and]
          exact clauseBound_sum ih
      | or =>
          obtain ⟨first, others, rfl⟩ := List.exists_cons_of_ne_nil (here rfl)
          obtain ⟨head, tail⟩ := List.forall_mem_cons.mp ih
          rw [length_clauses_or]
          exact clauseBound_prod head tail

/-- An expression that the parser returns from at most `3 * size` terms has at most `3 ^ size`
clauses. -/
theorem length_clauses_of_parse_le {tokens : List Token} {expr : Expr} {size : Nat}
    (parsed : parse tokens = .ok expr) (few : tokens.countP Token.isTerm ≤ 3 * size) :
    expr.clauses.length ≤ 3 ^ size := by
  have bound := clauseBound_of_noEmptyDisjunction (branching_of_parse parsed).noEmptyDisjunction
  rw [leafCount_of_parse parsed] at bound
  have cubed := (bound.mono few).cubed
  rw [Nat.mul_comm, Nat.pow_mul] at cubed
  exact (Nat.pow_le_pow_iff_left (by decide)).mp cubed

/-- The disjunction of conjunctions of three conditions each. -/
def ofTriples (triples : List (Condition × Condition × Condition)) : Expr :=
  group .or (triples.map fun (first, second, third) =>
    group .and [leaf first, leaf second, leaf third])

variable (triples : List (Condition × Condition × Condition))

/-- A disjunction of triples has three conditions for each of them. -/
theorem leafCount_ofTriples : (ofTriples triples).leafCount = 3 * triples.length := by
  rw [ofTriples, leafCount_group, List.map_map]
  induction triples with
  | nil => rfl
  | cons triple rest ih =>
      rw [List.map_cons, List.sum_cons, ih, List.length_cons, Nat.mul_succ, Nat.add_comm]
      rfl

/-- A disjunction of triples reaches the bound on the number of clauses. -/
theorem length_clauses_ofTriples : (ofTriples triples).clauses.length = 3 ^ triples.length := by
  rw [ofTriples, length_clauses_or, List.map_map]
  induction triples with
  | nil => rfl
  | cons triple rest ih =>
      rw [List.map_cons, List.prod_cons, ih, List.length_cons, Nat.pow_succ']
      rfl

/-- A disjunction of triples, if there are any, is one that the bound is about. -/
theorem noEmptyDisjunction_ofTriples (nonempty : triples ≠ []) :
    (ofTriples triples).NoEmptyDisjunction := by
  refine .group (fun _ => mt List.map_eq_nil_iff.mp nonempty) ?_
  simp only [List.forall_mem_map]
  intro triple _
  refine .group nofun ?_
  simp only [List.forall_mem_cons]
  exact ⟨.leaf _, .leaf _, .leaf _, List.forall_mem_nil _⟩

end Expr

end ColumnSearch
