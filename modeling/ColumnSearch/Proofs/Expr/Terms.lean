import ColumnSearch.Proofs.Expr.Shape

/-!
# The terms of a search

Every term among the tokens gives one condition, which is barred when `NOT` stands right before the
term. An expression that the parser returns has the conditions of the terms, each once and in the
order of the tokens: groups, connectives and lone signs only decide how they are joined.
-/

namespace ColumnSearch

namespace Token

/-- The condition of a term, given whether `NOT` stands right before it. -/
def condition (negated : Bool) (term : Token) : Condition :=
  if negated then (Condition.ofTerm term).withPolarity .excluded else .ofTerm term

/-- `NOT` stands right before a position, given whether it stands right before the first one. -/
def negatedAt (negated : Bool) (tokens : List Token) : Nat → Bool
  | 0 => negated
  | before + 1 => tokens[before]?.any (isOperator · "NOT")

/-- The condition of the term at a position, if there is a term. -/
def conditionAt? (negated : Bool) (tokens : List Token) (position : Nat) : Option Condition :=
  (tokens[position]?.filter isTerm).map (condition (negatedAt negated tokens position))

/-- The conditions of the terms among tokens, from left to right. -/
def conditions (negated : Bool) : List Token → List Condition
  | [] => []
  | token :: rest =>
    if token.isTerm then token.condition negated :: conditions false rest
    else conditions (token.isOperator "NOT") rest

variable {token : Token} {tokens rest : List Token} {negated : Bool}

/-- A term is no operator. -/
theorem isOperator_of_isTerm (term : token.isTerm = true) (name : String) :
    token.isOperator name = false := by
  obtain ⟨kind, text⟩ := token
  cases kind with
  | word => rfl
  | quoted => rfl
  | operator => cases term
  | paren => cases term
  | modifier => cases term

/-- Behind the first token, positions are those of the rest. -/
theorem conditionAt?_succ (position : Nat) :
    conditionAt? negated (token :: rest) (position + 1) =
      conditionAt? (token.isOperator "NOT") rest position := by
  cases position with
  | zero => rfl
  | succ position => rfl

/-- The conditions of tokens are those of their positions, in order. -/
theorem conditions_eq_filterMap (negated : Bool) (tokens : List Token) :
    conditions negated tokens =
      (List.range tokens.length).filterMap (conditionAt? negated tokens) := by
  induction tokens generalizing negated with
  | nil => rfl
  | cons token rest ih =>
      have later : (conditionAt? negated (token :: rest)) ∘ Nat.succ =
          conditionAt? (token.isOperator "NOT") rest := by
        funext position
        exact conditionAt?_succ position
      rw [conditions, List.length_cons, List.range_succ_eq_map, List.filterMap_cons,
        List.filterMap_map, later, ← ih]
      by_cases term : token.isTerm = true
      · have first : conditionAt? negated (token :: rest) 0 = some (token.condition negated) := by
          rw [conditionAt?, List.getElem?_cons_zero, Option.filter_some_pos term]
          rfl
        rw [if_pos term, first, isOperator_of_isTerm term]
      · have first : conditionAt? negated (token :: rest) 0 = none := by
          rw [conditionAt?, List.getElem?_cons_zero,
            Option.filter_some_neg (Bool.eq_false_iff.mpr term)]
          rfl
        rw [if_neg term, first]

/-- The conditions of a list of tokens are those that its positions name. -/
theorem mem_conditions_iff {found : Condition} :
    found ∈ conditions negated tokens ↔
      ∃ position, conditionAt? negated tokens position = some found := by
  rw [conditions_eq_filterMap, List.mem_filterMap]
  refine exists_congr fun position => and_iff_right_of_imp fun stands => ?_
  obtain ⟨token, inside, _⟩ := Option.map_eq_some_iff.mp stands
  obtain ⟨present, _⟩ := List.getElem?_eq_some_iff.mp (Option.filter_eq_some_iff.mp inside).1
  exact List.mem_range.mpr present

private theorem length_conditions (negated : Bool) (tokens : List Token) :
    (conditions negated tokens).length = tokens.countP isTerm := by
  induction tokens generalizing negated with
  | nil => rfl
  | cons token rest ih =>
      rw [conditions]
      by_cases term : token.isTerm = true
      · rw [if_pos term, List.length_cons, ih, List.countP_cons_of_pos term]
      · rw [if_neg term, ih, List.countP_cons_of_neg term]

private theorem length_conditions_le (negated : Bool) (tokens : List Token) :
    (conditions negated tokens).length ≤ tokens.length := by
  rw [length_conditions]
  exact List.countP_le_length

private theorem conditions_cons_term (named : token.role = .term) :
    conditions negated (token :: rest) = token.condition negated :: conditions false rest := by
  rw [conditions, if_pos (isTerm_iff.mpr named)]

private theorem conditions_cons_negation (negates : token.role = .negation) :
    conditions negated (token :: rest) = conditions true rest := by
  have other : ¬token.isTerm = true := by
    rw [isTerm_iff, negates]
    exact Role.noConfusion
  rw [conditions, if_neg other, isOperator_not_iff.mpr negates]

private theorem conditions_cons_other (term : token.role ≠ .term)
    (negation : token.role ≠ .negation) :
    conditions negated (token :: rest) = conditions false rest := by
  rw [conditions, if_neg (mt isTerm_iff.mp term),
    Bool.eq_false_iff.mpr (mt isOperator_not_iff.mp negation)]

end Token

/-- Joining expressions puts their conditions one after the other. -/
theorem Expr.conditions_join (op : Connective) (exprs : List Expr) :
    (join op exprs).conditions = exprs.flatMap conditions := by
  match exprs with
  | [] => rfl
  | [expr] => rw [join, List.flatMap_cons, List.flatMap_nil, List.append_nil]
  | first :: second :: others => exact conditions_group op (first :: second :: others)

namespace Grammar

variable {tokens rest : List Token}

/-- Tokens of a role that is neither a term nor `NOT` give no conditions. -/
theorem Run.conditions_eq {role : Token.Role} (run : Run role tokens rest) (term : role ≠ .term)
    (negation : role ≠ .negation) :
    Token.conditions false tokens = Token.conditions false rest := by
  induction run with
  | none => rfl
  | more named others ih =>
      rw [Token.conditions_cons_other (named ▸ term) (named ▸ negation), ih]

private theorem Joint.conditions_eq (joint : Joint tokens rest) :
    Token.conditions false tokens = Token.conditions false rest := by
  cases joint with
  | adjacent => rfl
  | keyword named =>
      rw [Token.conditions_cons_other (named ▸ Token.Role.noConfusion)
        (named ▸ Token.Role.noConfusion)]

-- What a derivation spans never starts behind a `NOT`, since only a term can stand there and
-- `NOT` and its term are derived together.
mutual

private theorem Operand.conditions_eq {depth : Nat} {tokens rest : List Token} :
    (operand : Operand depth tokens rest) →
      Token.conditions false tokens = operand.expr.conditions ++ Token.conditions false rest
  | .group opens _ body closes => by
      rw [Token.conditions_cons_other (opens ▸ Token.Role.noConfusion)
        (opens ▸ Token.Role.noConfusion), body.conditions_eq, Operand.expr,
        Token.conditions_cons_other (closes ▸ Token.Role.noConfusion)
        (closes ▸ Token.Role.noConfusion)]
  | .openGroup opens _ body => by
      rw [Token.conditions_cons_other (opens ▸ Token.Role.noConfusion)
        (opens ▸ Token.Role.noConfusion), body.conditions_eq, Operand.expr]
  | .negated _ term negates named => by
      rw [Token.conditions_cons_negation negates, Token.conditions_cons_term named, Operand.expr,
        Expr.conditions]
      rfl
  | .term term named => by
      rw [Token.conditions_cons_term named, Operand.expr, Expr.conditions]
      rfl

private theorem Conjunction.conditions_eq {depth : Nat} {tokens rest : List Token} :
    (conjunction : Conjunction depth tokens rest) →
      Token.conditions false tokens = conjunction.expr.conditions ++ Token.conditions false rest
  | .mk first signs others => by
      rw [first.conditions_eq, signs.conditions_eq Token.Role.noConfusion Token.Role.noConfusion,
        others.conditions_eq, Conjunction.expr, Expr.conditions_join, List.flatMap_cons,
        List.append_assoc]

private theorem Factors.conditions_eq {depth : Nat} {tokens rest : List Token} :
    (factors : Factors depth tokens rest) →
      Token.conditions false tokens =
        factors.exprs.flatMap Expr.conditions ++ Token.conditions false rest
  | .none => by
      rw [Factors.exprs, List.flatMap_nil, List.nil_append]
  | .more joint next signs others => by
      rw [joint.conditions_eq, next.conditions_eq,
        signs.conditions_eq Token.Role.noConfusion Token.Role.noConfusion, others.conditions_eq,
        Factors.exprs, List.flatMap_cons, List.append_assoc]

private theorem Disjunction.conditions_eq {depth : Nat} {tokens rest : List Token} :
    (disjunction : Disjunction depth tokens rest) →
      Token.conditions false tokens = disjunction.expr.conditions ++ Token.conditions false rest
  | .mk first others => by
      rw [first.conditions_eq, others.conditions_eq, Disjunction.expr, Expr.conditions_join,
        List.flatMap_cons, List.append_assoc]

private theorem Alternatives.conditions_eq {depth : Nat} {tokens rest : List Token} :
    (alternatives : Alternatives depth tokens rest) →
      Token.conditions false tokens =
        alternatives.exprs.flatMap Expr.conditions ++ Token.conditions false rest
  | .none => by
      rw [Alternatives.exprs, List.flatMap_nil, List.nil_append]
  | .more named next others => by
      rw [Token.conditions_cons_other (named ▸ Token.Role.noConfusion)
        (named ▸ Token.Role.noConfusion), next.conditions_eq, others.conditions_eq,
        Alternatives.exprs, List.flatMap_cons, List.append_assoc]

end

private theorem Parts.conditions_eq (parts : Parts tokens) :
    Token.conditions false tokens = parts.exprs.flatMap Expr.conditions := by
  induction parts with
  | none closings =>
      rw [closings.conditions_eq Token.Role.noConfusion Token.Role.noConfusion]
      rfl
  | more closes closings next others ih =>
      rw [Token.conditions_cons_other (closes ▸ Token.Role.noConfusion)
        (closes ▸ Token.Role.noConfusion),
        closings.conditions_eq Token.Role.noConfusion Token.Role.noConfusion, next.conditions_eq,
        ih, Parts.exprs, List.flatMap_cons]

private theorem Query.conditions_eq (query : Query tokens) :
    Token.conditions false tokens = query.expr.conditions := by
  obtain ⟨first, others⟩ := query
  rw [first.conditions_eq, others.conditions_eq, Query.expr, Expr.conditions_join,
    List.flatMap_cons]

end Grammar

namespace Expr

/-- An expression that the parser returns has the conditions of the terms among the tokens. -/
theorem conditions_of_parse {tokens : List Token} {expr : Expr}
    (parsed : parse tokens = .ok expr) : expr.conditions = Token.conditions false tokens := by
  obtain ⟨query, rfl⟩ := Grammar.exists_query_of_parse parsed
  exact query.conditions_eq.symm

/-- The leaves of an expression are counted one for each condition. -/
theorem leafCount_eq_length_conditions (expr : Expr) :
    expr.leafCount = expr.conditions.length := by
  induction expr with
  | leaf condition => rfl
  | group op children ih =>
      rw [leafCount, conditions]
      induction children with
      | nil => rfl
      | cons child rest counted =>
          obtain ⟨first, others⟩ := List.forall_mem_cons.mp ih
          rw [leafCountOf, conditionsOf, List.length_append, first, counted others]

/-- An expression that the parser returns has as many conditions as there are terms. -/
theorem leafCount_of_parse {tokens : List Token} {expr : Expr}
    (parsed : parse tokens = .ok expr) : expr.leafCount = tokens.countP Token.isTerm := by
  rw [leafCount_eq_length_conditions, conditions_of_parse parsed, Token.length_conditions]

/-- An expression that the parser returns has at most as many conditions as there are tokens. -/
theorem leafCount_le_of_parse {tokens : List Token} {expr : Expr}
    (parsed : parse tokens = .ok expr) : expr.leafCount ≤ tokens.length := by
  rw [leafCount_eq_length_conditions, conditions_of_parse parsed]
  exact Token.length_conditions_le false tokens

/-- Parsing keeps every term, once and in order: the conditions are those of the positions at which
a term stands, barred where `NOT` stands right before, and there are as many as there are terms. -/
theorem conditions_follow_terms {tokens : List Token} {expr : Expr}
    (parsed : parse tokens = .ok expr) :
    expr.conditions =
        (List.range tokens.length).filterMap (Token.conditionAt? false tokens) ∧
      expr.leafCount = tokens.countP Token.isTerm := by
  refine ⟨?_, leafCount_of_parse parsed⟩
  rw [conditions_of_parse parsed, Token.conditions_eq_filterMap]

/-- A parenthesis that closes nothing, a group that is never closed and a lone sign lose no term,
and `NOT` bars the term right after it only. -/
theorem conditions_follow_terms_stray_parenthesis :
    let tokens : List Token := [⟨.operator, "NOT"⟩, ⟨.word, "+a"⟩, ⟨.paren, ")"⟩, ⟨.paren, "("⟩,
      ⟨.quoted, "-b"⟩, ⟨.modifier, "-"⟩, ⟨.word, "c"⟩]
    ∃ expr, parse tokens = .ok expr ∧
      expr.conditions = [⟨"a", false, .excluded⟩, ⟨"-b", true, .neutral⟩, ⟨"c", false, .neutral⟩] ∧
      expr.leafCount = 3 := by
  intro tokens
  have parsed : parse tokens = .ok (group .and [leaf ⟨"a", false, .excluded⟩,
      group .and [leaf ⟨"-b", true, .neutral⟩, leaf ⟨"c", false, .neutral⟩]]) := rfl
  obtain ⟨conditions, leaves⟩ := conditions_follow_terms parsed
  exact ⟨_, parsed, conditions.trans rfl, leaves.trans rfl⟩

end Expr

end ColumnSearch
