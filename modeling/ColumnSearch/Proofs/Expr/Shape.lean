import ColumnSearch.Proofs.Expr.Meaning
import ColumnSearch.Proofs.Expr.Parse

/-!
# The shape of expressions

Properties that hold of every group in an expression, how deep its groups are nested, and what holds
of all expressions the parser returns: their groups have at least two children, and no way from the
root to a leaf is long. Each of the at most 128 groups that are open at once is a disjunction of
conjunctions and the parts of a search are one more conjunction, so the limit on open groups also
limits the expression.
-/

namespace ColumnSearch

namespace Expr

/-- Every group in the expression has the property. -/
inductive EveryGroup (property : Connective → List Expr → Prop) : Expr → Prop where
  | leaf (condition : Condition) : EveryGroup property (leaf condition)
  | group {op : Connective} {children : List Expr} (here : property op children)
    (below : ∀ child ∈ children, EveryGroup property child) :
    EveryGroup property (group op children)

/-- A property of all groups may be weakened. -/
theorem EveryGroup.mono {property weaker : Connective → List Expr → Prop}
    (implies : ∀ op children, property op children → weaker op children) {expr : Expr}
    (every : expr.EveryGroup property) : expr.EveryGroup weaker := by
  induction every with
  | leaf condition => exact .leaf condition
  | group here _ ih => exact .group (implies _ _ here) ih

/-- Every group has at least two children. -/
def Branching : Expr → Prop :=
  EveryGroup fun _ children => 2 ≤ children.length

/-- No conjunction is empty. -/
def NoEmptyConjunction : Expr → Prop :=
  EveryGroup fun op children => op = .and → children ≠ []

/-- An expression whose groups all branch has no empty conjunction. -/
theorem Branching.noEmptyConjunction {expr : Expr} (branching : expr.Branching) :
    expr.NoEmptyConjunction := by
  refine EveryGroup.mono ?_ branching
  rintro op children several _ rfl
  cases several

private theorem branching_join (op : Connective) {first : Expr} {others : List Expr}
    (head : first.Branching) (tail : ∀ expr ∈ others, expr.Branching) :
    (join op (first :: others)).Branching := by
  cases others with
  | nil => exact head
  | cons second others =>
      refine .group (Nat.le_add_left 2 others.length) ?_
      intro child member
      rcases List.mem_cons.mp member with rfl | member
      · exact head
      · exact tail child member

mutual

/-- The largest number of groups that are nested in one another. -/
def nesting : Expr → Nat
  | leaf _ => 0
  | group _ children => nestingOf children + 1

/-- The largest number of nested groups in several expressions. -/
def nestingOf : List Expr → Nat
  | [] => 0
  | expr :: rest => max expr.nesting (nestingOf rest)

end

/-- No child is nested deeper than the children together. -/
theorem nesting_le_of_mem {child : Expr} {children : List Expr} (member : child ∈ children) :
    child.nesting ≤ nestingOf children := by
  induction children with
  | nil => cases member
  | cons first others ih =>
      rw [nestingOf]
      rcases List.mem_cons.mp member with rfl | member
      · exact Nat.le_max_left _ _
      · exact Nat.le_trans (ih member) (Nat.le_max_right _ _)

private theorem nestingOf_le {exprs : List Expr} {bound : Nat}
    (each : ∀ expr ∈ exprs, expr.nesting ≤ bound) : nestingOf exprs ≤ bound := by
  induction exprs with
  | nil => exact Nat.zero_le _
  | cons first others ih =>
      obtain ⟨head, tail⟩ := List.forall_mem_cons.mp each
      exact Nat.max_le.mpr ⟨head, ih tail⟩

private theorem exists_mem_nesting_eq {children : List Expr} (nonempty : children ≠ []) :
    ∃ child ∈ children, child.nesting = nestingOf children := by
  induction children with
  | nil => exact (nonempty rfl).elim
  | cons first others ih =>
      rw [nestingOf]
      rcases Nat.le_total (nestingOf others) first.nesting with deepest | deeper
      · exact ⟨first, List.mem_cons_self, (Nat.max_eq_left deepest).symm⟩
      · rw [Nat.max_eq_right deeper]
        by_cases last : others = []
        · subst last
          exact ⟨first, List.mem_cons_self, Nat.le_zero.mp deeper⟩
        · obtain ⟨child, member, same⟩ := ih last
          exact ⟨child, List.mem_cons_of_mem _ member, same⟩

/-- Joining expressions nests them in one more group, or in none. -/
theorem nesting_join_le (op : Connective) {exprs : List Expr} {bound : Nat}
    (each : ∀ expr ∈ exprs, expr.nesting ≤ bound) : (join op exprs).nesting ≤ bound + 1 := by
  match exprs with
  | [] => exact Nat.succ_le_succ (Nat.zero_le _)
  | [expr] => exact Nat.le_succ_of_le (each expr List.mem_cons_self)
  | first :: second :: others => exact Nat.succ_le_succ (nestingOf_le each)

/-- The nodes on a way from the root of an expression down to a leaf. -/
inductive Path : Expr → List Expr → Prop where
  | leaf (condition : Condition) : Path (leaf condition) [leaf condition]
  | group {op : Connective} {children : List Expr} {child : Expr} {nodes : List Expr}
    (member : child ∈ children) (below : Path child nodes) :
    Path (group op children) (group op children :: nodes)

private theorem Path.length_le {expr : Expr} {nodes : List Expr} (path : expr.Path nodes) :
    nodes.length ≤ expr.nesting + 1 := by
  induction path with
  | leaf condition => exact Nat.le_refl 1
  | group member below ih =>
      have deepest := nesting_le_of_mem member
      rw [List.length_cons, nesting]
      omega

/-- If every group has children, then a longest path passes through all nested groups. -/
theorem Branching.exists_path {expr : Expr} (branching : expr.Branching) :
    ∃ nodes, expr.Path nodes ∧ nodes.length = expr.nesting + 1 := by
  induction branching with
  | leaf condition => exact ⟨_, .leaf condition, rfl⟩
  | @group op children several below ih =>
      have nonempty : children ≠ [] := List.ne_nil_of_length_pos (Nat.lt_of_succ_lt several)
      obtain ⟨child, member, deepest⟩ := exists_mem_nesting_eq nonempty
      obtain ⟨nodes, path, length⟩ := ih child member
      refine ⟨_, .group member path, ?_⟩
      rw [List.length_cons, length, deepest, nesting]

end Expr

namespace Grammar

/-- Properties of the operands, conjunctions and disjunctions inside a number of open groups that
pass from parts to wholes. -/
structure Invariant (operands conjunctions disjunctions : Nat → Expr → Prop) : Prop where
  leaf (depth : Nat) (condition : Condition) : operands depth (.leaf condition)
  group {depth : Nat} {expr : Expr} (room : depth < Expr.maxNesting)
    (body : disjunctions (depth + 1) expr) : operands depth expr
  conjunction {depth : Nat} {first : Expr} {others : List Expr} (head : operands depth first)
    (tail : ∀ expr ∈ others, operands depth expr) :
    conjunctions depth (.join .and (first :: others))
  disjunction {depth : Nat} {first : Expr} {others : List Expr} (head : conjunctions depth first)
    (tail : ∀ expr ∈ others, conjunctions depth expr) :
    disjunctions depth (.join .or (first :: others))

section Invariant

variable {operands conjunctions disjunctions : Nat → Expr → Prop}

mutual

private theorem Operand.satisfies {depth : Nat} {tokens rest : List Token}
    (invariant : Invariant operands conjunctions disjunctions) :
    (operand : Operand depth tokens rest) → operands depth operand.expr
  | .group _ room body _ => by
      rw [Operand.expr]
      exact invariant.group room (body.satisfies invariant)
  | .openGroup _ room body => by
      rw [Operand.expr]
      exact invariant.group room (body.satisfies invariant)
  | .negated _ _ _ _ => by
      rw [Operand.expr]
      exact invariant.leaf depth _
  | .term _ _ => by
      rw [Operand.expr]
      exact invariant.leaf depth _

private theorem Conjunction.satisfies {depth : Nat} {tokens rest : List Token}
    (invariant : Invariant operands conjunctions disjunctions) :
    (conjunction : Conjunction depth tokens rest) → conjunctions depth conjunction.expr
  | .mk first _ others => by
      rw [Conjunction.expr]
      exact invariant.conjunction (first.satisfies invariant) (others.satisfies invariant)

private theorem Factors.satisfies {depth : Nat} {tokens rest : List Token}
    (invariant : Invariant operands conjunctions disjunctions) :
    (factors : Factors depth tokens rest) → ∀ expr ∈ factors.exprs, operands depth expr
  | .none => by
      rw [Factors.exprs]
      exact List.forall_mem_nil _
  | .more _ next _ others => by
      rw [Factors.exprs]
      exact List.forall_mem_cons.mpr ⟨next.satisfies invariant, others.satisfies invariant⟩

private theorem Disjunction.satisfies {depth : Nat} {tokens rest : List Token}
    (invariant : Invariant operands conjunctions disjunctions) :
    (disjunction : Disjunction depth tokens rest) → disjunctions depth disjunction.expr
  | .mk first others => by
      rw [Disjunction.expr]
      exact invariant.disjunction (first.satisfies invariant) (others.satisfies invariant)

private theorem Alternatives.satisfies {depth : Nat} {tokens rest : List Token}
    (invariant : Invariant operands conjunctions disjunctions) :
    (alternatives : Alternatives depth tokens rest) →
      ∀ expr ∈ alternatives.exprs, conjunctions depth expr
  | .none => by
      rw [Alternatives.exprs]
      exact List.forall_mem_nil _
  | .more _ next others => by
      rw [Alternatives.exprs]
      exact List.forall_mem_cons.mpr ⟨next.satisfies invariant, others.satisfies invariant⟩

end

private theorem Parts.satisfies {tokens : List Token}
    (invariant : Invariant operands conjunctions disjunctions) (parts : Parts tokens) :
    ∀ expr ∈ parts.exprs, disjunctions 0 expr := by
  induction parts with
  | none closings => exact List.forall_mem_nil _
  | more closes closings next others ih =>
      exact List.forall_mem_cons.mpr ⟨next.satisfies invariant, ih⟩

/-- An expression that the parser returns joins parts with the properties of disjunctions outside
all groups. -/
theorem Invariant.exists_of_parse {tokens : List Token} {expr : Expr}
    (invariant : Invariant operands conjunctions disjunctions)
    (parsed : Expr.parse tokens = .ok expr) :
    ∃ first others, expr = .join .and (first :: others) ∧ disjunctions 0 first ∧
      ∀ part ∈ others, disjunctions 0 part := by
  obtain ⟨⟨first, others⟩, rfl⟩ := exists_query_of_parse parsed
  exact ⟨_, _, rfl, first.satisfies invariant, others.satisfies invariant⟩

end Invariant

private theorem invariant_branching :
    Invariant (fun _ => Expr.Branching) (fun _ => Expr.Branching) fun _ => Expr.Branching where
  leaf _ condition := .leaf condition
  group _ body := body
  conjunction head tail := Expr.branching_join .and head tail
  disjunction head tail := Expr.branching_join .or head tail

/-- Every group that may still be opened nests two groups: its disjunction and a conjunction. -/
theorem invariant_nesting :
    Invariant (fun depth expr => expr.nesting ≤ 2 * (Expr.maxNesting - depth))
      (fun depth expr => expr.nesting ≤ 2 * (Expr.maxNesting - depth) + 1)
      fun depth expr => expr.nesting ≤ 2 * (Expr.maxNesting - depth) + 2 where
  leaf _ _ := Nat.zero_le _
  group room body := by omega
  conjunction head tail := Expr.nesting_join_le .and (List.forall_mem_cons.mpr ⟨head, tail⟩)
  disjunction head tail := Expr.nesting_join_le .or (List.forall_mem_cons.mpr ⟨head, tail⟩)

end Grammar

namespace Expr

variable {tokens : List Token} {expr : Expr}

/-- In an expression that the parser returns, every group has at least two children. -/
theorem branching_of_parse (parsed : parse tokens = .ok expr) : expr.Branching := by
  obtain ⟨first, others, rfl, head, tail⟩ := Grammar.invariant_branching.exists_of_parse parsed
  exact branching_join .and head tail

private theorem nesting_of_parse_le (parsed : parse tokens = .ok expr) :
    expr.nesting ≤ 2 * maxNesting + 3 := by
  obtain ⟨first, others, rfl, head, tail⟩ := Grammar.invariant_nesting.exists_of_parse parsed
  exact nesting_join_le .and (List.forall_mem_cons.mpr ⟨head, tail⟩)

/-- Whatever the tokens, an expression that the parser returns has no group with fewer than two
children, and no path from its root to a leaf has more than 260 nodes. -/
theorem parsed_shape_is_bounded (parsed : parse tokens = .ok expr) :
    expr.EveryGroup (fun _ children => 2 ≤ children.length) ∧
      ∀ nodes, expr.Path nodes → nodes.length ≤ 260 := by
  refine ⟨branching_of_parse parsed, fun nodes path => ?_⟩
  calc nodes.length
      ≤ expr.nesting + 1 := path.length_le
    _ ≤ 2 * maxNesting + 3 + 1 := Nat.succ_le_succ (nesting_of_parse_le parsed)

/-- The bound is reached: 128 groups are opened, each behind an alternative and a factor, and a
parenthesis that closes none of them ends the first of two parts. -/
theorem parsed_shape_is_bounded_deepest :
    let level : List Token := [⟨.word, "a"⟩, ⟨.operator, "OR"⟩, ⟨.word, "b"⟩]
    let tokens := (List.replicate 128 (level ++ [⟨.paren, "("⟩])).flatten ++ level ++
      ⟨.word, "c"⟩ :: List.replicate 129 ⟨.paren, ")"⟩ ++ [⟨.word, "d"⟩]
    ∃ expr nodes, parse tokens = .ok expr ∧ expr.Path nodes ∧ nodes.length = 260 ∧
      ∀ others, expr.Path others → others.length ≤ nodes.length := by
  intro level tokens
  have deepest : (parse tokens).toOption.map nesting = some 259 := by decide +kernel
  cases parsed : parse tokens with
  | error error =>
      rw [parsed] at deepest
      cases deepest
  | ok expr =>
      rw [parsed] at deepest
      obtain ⟨branching, bounded⟩ := parsed_shape_is_bounded parsed
      obtain ⟨nodes, path, length⟩ := Branching.exists_path branching
      have longest : nodes.length = 260 := by rw [length, Option.some.inj deepest]
      exact ⟨expr, nodes, rfl, path, longest, fun others path => longest ▸ bounded others path⟩

end Expr

end ColumnSearch
