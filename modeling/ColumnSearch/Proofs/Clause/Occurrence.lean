import ColumnSearch.Proofs.Clause.Count
import Mathlib.Tactic.Ring

/-!
# How often conditions occur in clauses

Distribution copies the conditions of a child once for every way to pick clauses of the other
children of the same disjunction. So if no two leaves of an expression are the same condition, a
leaf is in as many clauses as the children beside it have, multiplied over all disjunctions above
it, and in no clause twice.

The clauses of a disjunction that lack a condition are the products of such clauses of the children.
Counting these avoids telling apart on which side of a product a condition stands.
-/

namespace ColumnSearch

section Distribution

variable (condition : Condition)

private theorem countP_mem_add_countP_not_mem (clauses : List Clause) :
    clauses.countP (condition ∈ ·) + clauses.countP (condition ∉ ·) = clauses.length := by
  simp [List.length_eq_countP_add_countP (condition ∈ ·) (l := clauses)]

private theorem countP_not_mem_map_append (first : Clause) (clauses : List Clause) :
    (clauses.map (first ++ ·)).countP (condition ∉ ·) =
      if condition ∈ first then 0 else clauses.countP (condition ∉ ·) := by
  rw [List.countP_map]
  by_cases inside : condition ∈ first
  · simp [inside, Function.comp_def]
  · simp [inside, Function.comp_def]

private theorem countP_not_mem_distribute (left right : List Clause) :
    (distribute left right).countP (condition ∉ ·) =
      left.countP (condition ∉ ·) * right.countP (condition ∉ ·) := by
  induction left with
  | nil => rw [distribute, List.flatMap_nil, List.countP_nil, Nat.zero_mul]
  | cons first rest ih =>
      rw [distribute_cons, List.countP_append, countP_not_mem_map_append, ih, List.countP_cons,
        Nat.add_mul, Nat.add_comm]
      by_cases inside : condition ∈ first
      · simp [inside]
      · simp [inside]

end Distribution

namespace Expr

mutual

/-- The children of each disjunction above a condition, from the root downwards. -/
def disjunctionsAbove (condition : Condition) : Expr → List (List Expr)
  | leaf _ => []
  | group .and children => disjunctionsAboveIn condition children
  | group .or children =>
    if condition ∈ conditionsOf children then children :: disjunctionsAboveIn condition children
    else []

/-- The same of several expressions. -/
def disjunctionsAboveIn (condition : Condition) : List Expr → List (List Expr)
  | [] => []
  | expr :: rest => expr.disjunctionsAbove condition ++ disjunctionsAboveIn condition rest

end

/-- The product, over the disjunctions above a condition, of the numbers of clauses of the children
without the condition. -/
def copies (condition : Condition) (expr : Expr) : Nat :=
  ((expr.disjunctionsAbove condition).map fun children =>
    ((children.filter (condition ∉ ·.conditions)).map (·.clauses.length)).prod).prod

variable {condition : Condition} {expr : Expr} {exprs : List Expr}

private theorem disjunctionsAboveIn_eq_flatMap (condition : Condition) (exprs : List Expr) :
    disjunctionsAboveIn condition exprs = exprs.flatMap (disjunctionsAbove condition) := by
  induction exprs with
  | nil => rfl
  | cons expr rest ih => rw [disjunctionsAboveIn, List.flatMap_cons, ih]

private theorem disjunctionsAbove_and (condition : Condition) (children : List Expr) :
    (group .and children).disjunctionsAbove condition =
      children.flatMap (disjunctionsAbove condition) := by
  rw [disjunctionsAbove, disjunctionsAboveIn_eq_flatMap]

private theorem disjunctionsAbove_or {children : List Expr}
    (member : condition ∈ children.flatMap conditions) :
    (group .or children).disjunctionsAbove condition =
      children :: children.flatMap (disjunctionsAbove condition) := by
  rw [disjunctionsAbove, conditionsOf_eq_flatMap, if_pos member, disjunctionsAboveIn_eq_flatMap]

private theorem disjunctionsAbove_of_not_mem (absent : condition ∉ expr.conditions) :
    expr.disjunctionsAbove condition = [] := by
  induction expr with
  | leaf other => rw [disjunctionsAbove]
  | group op children ih =>
      rw [conditions_group] at absent
      cases op with
      | and =>
          rw [disjunctionsAbove_and, List.flatMap_eq_nil_iff]
          intro child member
          apply ih child member
          exact fun inside => absent (List.mem_flatMap.mpr ⟨child, member, inside⟩)
      | or => rw [disjunctionsAbove, conditionsOf_eq_flatMap, if_neg absent]

private theorem flatMap_disjunctionsAbove_of_not_mem
    (absent : ∀ expr ∈ exprs, condition ∉ expr.conditions) :
    exprs.flatMap (disjunctionsAbove condition) = [] := by
  rw [List.flatMap_eq_nil_iff]
  exact fun expr member => disjunctionsAbove_of_not_mem (absent expr member)

private theorem countP_not_mem_clauses (absent : condition ∉ expr.conditions) :
    expr.clauses.countP (condition ∉ ·) = expr.clauses.length := by
  rw [List.countP_eq_length]
  intro clause member
  apply decide_eq_true
  exact fun inside => absent ((sublist_conditions_of_mem_clauses member).subset inside)

private theorem map_countP_not_mem_clauses (absent : ∀ expr ∈ exprs, condition ∉ expr.conditions) :
    exprs.map (·.clauses.countP (condition ∉ ·)) = exprs.map (·.clauses.length) := by
  apply List.map_congr_left
  exact fun expr member => countP_not_mem_clauses (absent expr member)

private theorem countP_mem_clauses_eq_zero (absent : condition ∉ expr.conditions) :
    expr.clauses.countP (condition ∈ ·) = 0 := by
  have total := countP_mem_add_countP_not_mem condition expr.clauses
  rw [countP_not_mem_clauses absent] at total
  omega

private theorem countP_mem_flatMap_clauses_eq_zero
    (absent : ∀ expr ∈ exprs, condition ∉ expr.conditions) :
    (exprs.flatMap clauses).countP (condition ∈ ·) = 0 := by
  rw [List.countP_flatMap]
  apply List.sum_eq_zero
  simp only [List.forall_mem_map]
  exact fun expr member => countP_mem_clauses_eq_zero (absent expr member)

private theorem countP_not_mem_clauses_or (condition : Condition) (children : List Expr) :
    (group .or children).clauses.countP (condition ∉ ·) =
      (children.map (·.clauses.countP (condition ∉ ·))).prod := by
  rw [clauses_or, foldl_distribute_eq_mul_prod (countP_not_mem_distribute condition), List.map_map]
  simp [Function.comp_def]

section Siblings

variable {before after : List Expr} {child : Expr}
  (absent : ∀ other ∈ before ++ after, condition ∉ other.conditions)
include absent

private theorem flatMap_disjunctionsAbove_siblings :
    (before ++ child :: after).flatMap (disjunctionsAbove condition) =
      child.disjunctionsAbove condition := by
  obtain ⟨left, right⟩ := List.forall_mem_append.mp absent
  rw [List.flatMap_append, List.flatMap_cons, flatMap_disjunctionsAbove_of_not_mem left,
    flatMap_disjunctionsAbove_of_not_mem right, List.nil_append, List.append_nil]

private theorem copies_and :
    (group .and (before ++ child :: after)).copies condition = child.copies condition := by
  rw [copies, disjunctionsAbove_and, flatMap_disjunctionsAbove_siblings absent, copies]

private theorem copies_or (inside : condition ∈ child.conditions) :
    (group .or (before ++ child :: after)).copies condition =
      ((before ++ after).map (·.clauses.length)).prod * child.copies condition := by
  have member : condition ∈ (before ++ child :: after).flatMap conditions := by
    simp [inside]
  have siblings : (before ++ child :: after).filter (condition ∉ ·.conditions) =
      before ++ after := by
    obtain ⟨left, right⟩ := List.forall_mem_append.mp absent
    rw [List.filter_append, List.filter_cons_of_neg (by simpa using inside),
      List.filter_eq_self.mpr fun other found => decide_eq_true (left other found),
      List.filter_eq_self.mpr fun other found => decide_eq_true (right other found)]
  rw [copies, disjunctionsAbove_or member, flatMap_disjunctionsAbove_siblings absent,
    List.map_cons, List.prod_cons, siblings, copies]

private theorem countP_mem_clauses_and :
    (group .and (before ++ child :: after)).clauses.countP (condition ∈ ·) =
      child.clauses.countP (condition ∈ ·) := by
  obtain ⟨left, right⟩ := List.forall_mem_append.mp absent
  rw [clauses_and, List.flatMap_append, List.flatMap_cons, List.countP_append, List.countP_append,
    countP_mem_flatMap_clauses_eq_zero left, countP_mem_flatMap_clauses_eq_zero right,
    Nat.zero_add, Nat.add_zero]

private theorem countP_mem_clauses_or :
    (group .or (before ++ child :: after)).clauses.countP (condition ∈ ·) =
      ((before ++ after).map (·.clauses.length)).prod * child.clauses.countP (condition ∈ ·) := by
  obtain ⟨left, right⟩ := List.forall_mem_append.mp absent
  have whole := countP_mem_add_countP_not_mem condition
    (group .or (before ++ child :: after)).clauses
  have part := countP_mem_add_countP_not_mem condition child.clauses
  rw [countP_not_mem_clauses_or, length_clauses_or] at whole
  simp only [List.map_append, List.map_cons, List.prod_append, List.prod_cons,
    map_countP_not_mem_clauses left, map_countP_not_mem_clauses right, ← part] at whole ⊢
  -- The clauses without the condition are the same multiple of those of the child.
  apply Nat.add_right_cancel (whole.trans _)
  ring

end Siblings

/-- Where conditions are distinct, one child of a group has a given one, and its siblings do not. -/
theorem exists_siblings {children : List Expr} (distinct : (children.flatMap conditions).Nodup)
    (member : condition ∈ children.flatMap conditions) :
    ∃ before child after, children = before ++ child :: after ∧ condition ∈ child.conditions ∧
      child.conditions.Nodup ∧ ∀ other ∈ before ++ after, condition ∉ other.conditions := by
  obtain ⟨child, listed, inside⟩ := List.mem_flatMap.mp member
  obtain ⟨before, after, rfl⟩ := List.append_of_mem listed
  rw [List.flatMap_append, List.flatMap_cons] at distinct
  obtain ⟨_, distinct, earlier⟩ := List.nodup_append.mp distinct
  obtain ⟨alone, _, later⟩ := List.nodup_append.mp distinct
  refine ⟨before, child, after, rfl, inside, alone, ?_⟩
  rw [List.forall_mem_append]
  constructor
  · intro other found again
    have passed := List.mem_flatMap.mpr ⟨other, found, again⟩
    exact earlier condition passed condition (List.mem_append_left _ inside) rfl
  · intro other found again
    have coming := List.mem_flatMap.mpr ⟨other, found, again⟩
    exact later condition inside condition coming rfl

private theorem countP_mem_clauses (distinct : expr.conditions.Nodup)
    (member : condition ∈ expr.conditions) :
    expr.clauses.countP (condition ∈ ·) = expr.copies condition := by
  induction expr with
  | leaf other =>
      rw [conditions, List.mem_singleton] at member
      subst member
      rw [clauses_leaf, copies, disjunctionsAbove]
      simp
  | group op children ih =>
      rw [conditions_group] at distinct member
      obtain ⟨before, child, after, rfl, inside, alone, absent⟩ := exists_siblings distinct member
      have counted := ih child (by simp) alone inside
      cases op with
      | and => rw [countP_mem_clauses_and absent, copies_and absent, counted]
      | or => rw [countP_mem_clauses_or absent, copies_or absent inside, counted]

/-- Every clause picks conditions of the expression in their order. If no two leaves are the same
condition, each of them occurs at most once in a clause, and in as many clauses as the product over
the disjunctions above it says. -/
theorem leaves_occur_once_per_path (expr : Expr) :
    (∀ clause ∈ expr.clauses, clause.Sublist expr.conditions) ∧
    (expr.conditions.Nodup → ∀ condition ∈ expr.conditions,
      (∀ clause ∈ expr.clauses, clause.count condition ≤ 1) ∧
      expr.clauses.countP (condition ∈ ·) = expr.copies condition) := by
  refine ⟨fun clause => sublist_conditions_of_mem_clauses, fun distinct condition member => ?_⟩
  refine ⟨fun clause listed => ?_, countP_mem_clauses distinct member⟩
  have contained := sublist_conditions_of_mem_clauses listed
  exact List.nodup_iff_count.mp (distinct.sublist contained) condition

/-- Two disjunctions stand above `d`, and what stands beside it has two clauses in each. -/
theorem leaves_occur_once_per_path_nested_disjunctions :
    let named := fun value => leaf (.word value)
    let expr := group .or [group .and [named "a", group .or [group .and [named "b", named "c"],
      named "d"]], group .and [named "e", named "f"]]
    expr.conditions.Nodup ∧ expr.clauses.countP (.word "a" ∈ ·) = 2 ∧
      expr.clauses.countP (.word "d" ∈ ·) = 4 ∧ expr.clauses.countP (.word "e" ∈ ·) = 3 := by
  intro named expr
  have distinct : expr.conditions.Nodup := by simp [expr, named, conditions, Condition.word]
  obtain ⟨_, occur⟩ := leaves_occur_once_per_path expr
  have counted : ∀ condition ∈ expr.conditions,
      expr.clauses.countP (condition ∈ ·) = expr.copies condition :=
    fun condition member => (occur distinct condition member).2
  refine ⟨distinct, ?_, ?_, ?_⟩
  · rw [counted _ (by simp [expr, named, conditions])]
    rfl
  · rw [counted _ (by simp [expr, named, conditions])]
    rfl
  · rw [counted _ (by simp [expr, named, conditions])]
    rfl

end Expr

end ColumnSearch
