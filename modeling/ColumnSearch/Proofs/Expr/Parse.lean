import ColumnSearch.Proofs.Expr.Reading
import Mathlib.Tactic.ByContra

/-!
# The parser and the grammar

`Expr.parse` accepts exactly the lists of tokens that have a derivation, and returns the expression
of the derivation.

One direction follows a derivation: reading the tokens it spans adds its expressions to the current
group. The other finds a derivation in a successful run, by recursion on the tokens that are left.
-/

namespace ColumnSearch

open ColumnSearch.Expr

namespace Grammar

variable {depth : Nat} {tokens rest : List Token} {reading : Reading} {expr : Expr}

/-- The expressions of all operands of a conjunction. -/
def Conjunction.factors : Conjunction depth tokens rest → List Expr
  | .mk first _ others => first.expr :: others.exprs

private theorem Conjunction.expr_eq_join (conjunction : Conjunction depth tokens rest) :
    conjunction.expr = .join .and conjunction.factors := by
  obtain ⟨first, signs, others⟩ := conjunction
  rw [Conjunction.expr, Conjunction.factors]

/-- Lone signs after an operand change nothing. -/
theorem Run.yields_signs (signs : Run .sign tokens rest) (expects : reading.expects = .connector) :
    reading.Yields tokens expr ↔ reading.Yields rest expr := by
  induction signs with
  | none => exact Iff.rfl
  | more named others ih => rw [Reading.yields_cons (Reading.step_sign expects named), ih]

/-- What joins two operands is read without a trace. -/
theorem Joint.yields (joint : Joint tokens rest) (expects : reading.expects = .connector) :
    ∃ expectation, expectation ≠ .negated ∧ ∀ expr,
      (reading.Yields tokens expr ↔ (reading.expecting expectation).Yields rest expr) := by
  cases joint with
  | adjacent =>
      refine ⟨reading.expects, ?_, fun _ => Iff.rfl⟩
      rw [expects]
      exact Expectation.noConfusion
  | keyword named =>
      exact ⟨.operand, Expectation.noConfusion, fun _ =>
        Reading.yields_cons (Reading.step_and expects named)⟩

/-- The factors of a conjunction complete the alternative that they are added to. -/
theorem Conjunction.allAlternatives_addFactors (conjunction : Conjunction depth tokens rest)
    (fresh : reading.frame.factors = []) :
    (reading.addFactors conjunction.factors).frame.allAlternatives =
      reading.frame.alternatives ++ [conjunction.expr] := by
  rw [conjunction.expr_eq_join, Reading.addFactors, Frame.allAlternatives, fresh, List.nil_append]
  rfl

mutual

/-- Reading an operand adds its expression to the current alternative. -/
theorem Operand.yields {depth : Nat} {tokens rest : List Token} (reading : Reading) (expr : Expr) :
    (operand : Operand depth tokens rest) → reading.outer.length = depth →
      reading.expects ≠ .negated →
      (reading.Yields tokens expr ↔ (reading.addFactors [operand.expr]).Yields rest expr)
  | .group opens room body closes, level, expects => by
      obtain ⟨frame, built, reads⟩ :=
        body.yields reading.enter (congrArg (· + 1) level) rfl Expectation.noConfusion
      rw [Reading.yields_cons (Reading.step_opening expects opens (level ▸ room)), reads,
        Reading.yields_cons (Reading.step_closing rfl closes), Operand.expr, ← built]
      -- Closing the group returns to the one around it, with the body as its last factor.
      exact Iff.rfl
  | .openGroup opens room body, level, expects => by
      obtain ⟨frame, built, reads⟩ :=
        body.yields reading.enter (congrArg (· + 1) level) rfl Expectation.noConfusion
      rw [Reading.yields_cons (Reading.step_opening expects opens (level ▸ room)), reads,
        Operand.expr, ← built]
      -- No token is left, and `finish` closes the open group before those around it.
      exact Iff.rfl
  | .negated _ term negates named, _, expects => by
      rw [Reading.yields_cons (Reading.step_negation expects negates),
        Reading.yields_cons (Reading.step_negated rfl named), Operand.expr]
      exact Iff.rfl
  | .term term named, _, expects => by
      rw [Reading.yields_cons (Reading.step_term expects named), Operand.expr]

/-- Reading a conjunction into an empty alternative fills the alternative with its factors. -/
theorem Conjunction.yields {depth : Nat} {tokens rest : List Token} (reading : Reading)
    (expr : Expr) :
    (conjunction : Conjunction depth tokens rest) → reading.outer.length = depth →
      reading.expects ≠ .negated →
      (reading.Yields tokens expr ↔ (reading.addFactors conjunction.factors).Yields rest expr)
  | .mk first signs others, level, expects => by
      rw [first.yields reading expr level expects, signs.yields_signs rfl,
        others.yields (reading.addFactors [first.expr]) expr level rfl, Conjunction.factors,
        Reading.addFactors_addFactors]
      exact Iff.rfl

/-- Reading further operands of a conjunction adds their expressions to the alternative. -/
theorem Factors.yields {depth : Nat} {tokens rest : List Token} (reading : Reading) (expr : Expr) :
    (factors : Factors depth tokens rest) → reading.outer.length = depth →
      reading.expects = .connector →
      (reading.Yields tokens expr ↔ (reading.addFactors factors.exprs).Yields rest expr)
  | .none, level, expects => by
      rw [Factors.exprs, Reading.addFactors_nil expects]
  | .more joint next signs others, level, expects => by
      obtain ⟨expectation, free, joins⟩ := joint.yields expects
      rw [joins, next.yields (reading.expecting expectation) expr level free,
        Reading.addFactors_expecting, signs.yields_signs rfl,
        others.yields (reading.addFactors [next.expr]) expr level rfl, Factors.exprs,
        Reading.addFactors_addFactors]
      exact Iff.rfl

/-- Reading a disjunction into an empty group fills the group with its alternatives. -/
theorem Disjunction.yields {depth : Nat} {tokens rest : List Token} (reading : Reading) :
    (disjunction : Disjunction depth tokens rest) → reading.outer.length = depth →
      reading.frame = {} → reading.expects ≠ .negated →
      ∃ frame : Frame, frame.toExpr = disjunction.expr ∧ ∀ expr,
        (reading.Yields tokens expr ↔ (reading.within frame).Yields rest expr)
  | .mk first others, level, fresh, expects => by
      obtain ⟨frame, built, reads⟩ :=
        others.yields (reading.addFactors first.factors) level rfl
      refine ⟨frame, ?_, fun expr => ?_⟩
      · rw [Frame.toExpr, built, first.allAlternatives_addFactors (by rw [fresh]), fresh,
          Disjunction.expr]
        rfl
      · rw [first.yields reading expr level expects, reads]
        exact Iff.rfl

/-- Reading further alternatives adds them to the current group. -/
theorem Alternatives.yields {depth : Nat} {tokens rest : List Token} (reading : Reading) :
    (alternatives : Alternatives depth tokens rest) → reading.outer.length = depth →
      reading.expects = .connector →
      ∃ frame : Frame,
        frame.allAlternatives = reading.frame.allAlternatives ++ alternatives.exprs ∧ ∀ expr,
        (reading.Yields tokens expr ↔ (reading.within frame).Yields rest expr)
  | .none, _, expects => by
      refine ⟨reading.frame, (List.append_nil _).symm, fun expr => ?_⟩
      rw [Reading.within_frame expects]
  | .more named next others, level, expects => by
      obtain ⟨frame, built, reads⟩ :=
        others.yields (reading.nextAlternative.addFactors next.factors) level rfl
      refine ⟨frame, ?_, fun expr => ?_⟩
      · rw [built, next.allAlternatives_addFactors rfl, Alternatives.exprs, List.append_assoc]
        rfl
      · rw [Reading.yields_cons (Reading.step_or expects named),
          next.yields reading.nextAlternative expr level Expectation.noConfusion, reads]
        exact Iff.rfl

end

/-- Surplus closing parentheses between parts change nothing. -/
theorem Run.yields_closings (closings : Run .closing tokens rest)
    (expects : reading.expects = .part) :
    reading.Yields tokens expr ↔ reading.Yields rest expr := by
  induction closings with
  | none => exact Iff.rfl
  | more closes others ih => rw [Reading.yields_cons (Reading.step_part_closing expects closes), ih]

/-- Outside all groups, reading the remaining parts ends with the conjunction of all parts. -/
theorem Parts.yields (parts : Parts tokens) (expects : reading.expects = .connector)
    (outside : reading.outer = []) :
    reading.Yields tokens expr ↔
      expr = .join .and (reading.parts ++ reading.frame.toExpr :: parts.exprs) := by
  induction parts generalizing reading with
  | none closings =>
      cases closings with
      | none =>
          rw [Reading.Yields, Reading.finish_connector expects, outside, Parts.exprs,
            Except.ok.injEq, eq_comm]
          exact Iff.rfl
      | more closes closings =>
          rw [Reading.yields_cons (Reading.step_closing expects closes),
            Reading.close_of_outer_eq_nil outside, closings.yields_closings rfl, Reading.Yields,
            Reading.finish_part rfl, Parts.exprs, Except.ok.injEq, eq_comm]
  | more closes closings next others ih =>
      rw [Reading.yields_cons (Reading.step_closing expects closes),
        Reading.close_of_outer_eq_nil outside, closings.yields_closings rfl]
      obtain ⟨frame, built, reads⟩ := next.yields
        { parts := reading.parts ++ [reading.frame.toExpr], expects := .part } rfl rfl
        Expectation.noConfusion
      rw [reads, ih rfl rfl, Parts.exprs, ← built, Reading.within, List.append_assoc]
      exact Iff.rfl

/-- Reading all tokens of a derivation gives its expression. -/
theorem Query.yields (query : Query tokens) :
    Reading.Yields {} tokens expr ↔ expr = query.expr := by
  obtain ⟨first, others⟩ := query
  obtain ⟨frame, built, reads⟩ := first.yields {} rfl rfl Expectation.noConfusion
  rw [reads, others.yields rfl rfl, Query.expr, ← built]
  exact Iff.rfl

/-- Where an operand is due, a successful run finds the start of one. -/
theorem exists_head_of_yields (yields : reading.Yields tokens expr)
    (expects : reading.expects = .operand) :
    ∃ token after, tokens = token :: after ∧ StartsOperand token.role := by
  cases tokens with
  | nil =>
      rw [Reading.Yields, Reading.finish, expects] at yields
      cases yields
  | cons token after =>
      refine ⟨token, after, rfl, ?_⟩
      obtain ⟨next, step, _⟩ := yields
      rw [Reading.step, expects] at step
      exact Reading.startsOperand_of_operand step

/-- After an operand, a successful run finds the end of the conjunction, a sign, `AND` or the start
of another operand. -/
theorem exists_of_connector {token : Token} {after : List Token}
    (yields : reading.Yields (token :: after) expr) (expects : reading.expects = .connector) :
    EndsConjunction token.role ∨ token.role = .sign ∨ token.role = .connective .and ∨
      StartsOperand token.role := by
  obtain ⟨next, step, _⟩ := yields
  rw [Reading.step, expects] at step
  dsimp only at step
  rw [Reading.connector_eq] at step
  cases role : token.role with
  | closing => exact .inl (.inl rfl)
  | sign => exact .inr (.inl rfl)
  | connective op =>
      cases op with
      | and => exact .inr (.inr (.inl rfl))
      | or => exact .inl (.inr rfl)
  | _ =>
      rw [role] at step
      exact .inr (.inr (.inr (role ▸ Reading.startsOperand_of_operand step)))

/-- After `NOT`, a successful run finds a term. -/
theorem exists_term_of_yields (yields : reading.Yields tokens expr)
    (expects : reading.expects = .negated) :
    ∃ token after, tokens = token :: after ∧ token.role = .term := by
  cases tokens with
  | nil =>
      rw [Reading.Yields, Reading.finish, expects] at yields
      cases yields
  | cons token after =>
      refine ⟨token, after, rfl, ?_⟩
      obtain ⟨next, step, _⟩ := yields
      rw [Reading.step, expects] at step
      dsimp only at step
      rw [Reading.negated_eq] at step
      by_contra other
      rw [if_neg other] at step
      cases step

/-- A conjunction, with what joins it to the operands before it, continues their conjunction. -/
def Factors.ofConjunction {joined : List Token} (joint : Joint tokens joined) :
    Conjunction depth joined rest → Factors depth tokens rest
  | .mk first signs others => .more joint first signs others

-- Each theorem below calls the others on fewer tokens, or on the same tokens when they come before
-- it in this order: operand, conjunction, all others.
mutual

private theorem exists_operand {depth : Nat} {token : Token} {after : List Token}
    {reading : Reading} {expr : Expr} (yields : reading.Yields (token :: after) expr)
    (level : reading.outer.length = depth) (expects : reading.expects ≠ .negated)
    (starts : StartsOperand token.role) :
    ∃ rest, Nonempty (Operand depth (token :: after) rest) := by
  obtain ⟨next, step, yields⟩ := yields
  rw [Reading.step_of_startsOperand expects starts, Reading.operand_eq] at step
  rcases starts with opens | negates | named
  · rw [opens] at step
    by_cases deep : maxNesting ≤ reading.outer.length
    · simp only [deep, ↓reduceIte, reduceCtorEq] at step
    · simp only [deep, ↓reduceIte, Except.ok.injEq] at step
      subst step
      have room : depth < maxNesting := level ▸ Nat.not_le.mp deep
      obtain ⟨first, others, rfl, starts⟩ := exists_head_of_yields yields rfl
      obtain ⟨rest, ⟨body⟩, ends⟩ :=
        exists_disjunction yields (congrArg (· + 1) level) Expectation.noConfusion starts
      cases rest with
      | nil => exact ⟨[], ⟨.openGroup opens room body⟩⟩
      | cons closing rest => exact ⟨rest, ⟨.group opens room body (heads_cons.mp ends)⟩⟩
  · rw [negates] at step
    cases step
    obtain ⟨term, rest, rfl, named⟩ := exists_term_of_yields yields rfl
    exact ⟨rest, ⟨.negated token term negates named⟩⟩
  · exact ⟨after, ⟨.term token named⟩⟩
termination_by 3 * (after.length + 1)

private theorem exists_conjunction {depth : Nat} {token : Token} {after : List Token}
    {reading : Reading} {expr : Expr} (yields : reading.Yields (token :: after) expr)
    (level : reading.outer.length = depth) (expects : reading.expects ≠ .negated)
    (starts : StartsOperand token.role) :
    ∃ rest, Nonempty (Conjunction depth (token :: after) rest) ∧ Heads EndsConjunction rest := by
  obtain ⟨afterFirst, ⟨first⟩⟩ := exists_operand yields level expects starts
  have shorter : afterFirst.length < after.length + 1 := first.length_lt
  rw [first.yields reading expr level expects] at yields
  obtain ⟨afterSigns, rest, ⟨signs⟩, ⟨others⟩, ends⟩ := exists_factors yields level rfl
  exact ⟨rest, ⟨.mk first signs others⟩, ends⟩
termination_by 3 * (after.length + 1) + 1

private theorem exists_factors {depth : Nat} {tokens : List Token} {reading : Reading} {expr : Expr}
    (yields : reading.Yields tokens expr) (level : reading.outer.length = depth)
    (expects : reading.expects = .connector) :
    ∃ afterSigns rest, Nonempty (Run .sign tokens afterSigns) ∧
      Nonempty (Factors depth afterSigns rest) ∧ Heads EndsConjunction rest := by
  cases tokens with
  | nil => exact ⟨[], [], ⟨.none⟩, ⟨.none⟩, heads_nil _⟩
  | cons token after =>
      rcases exists_of_connector yields expects with role | role | role | starts
      · exact ⟨_, _, ⟨.none⟩, ⟨.none⟩, heads_cons.mpr role⟩
      · rw [Reading.yields_cons (Reading.step_sign expects role)] at yields
        obtain ⟨afterSigns, rest, ⟨signs⟩, others, ends⟩ := exists_factors yields level expects
        exact ⟨afterSigns, rest, ⟨.more role signs⟩, others, ends⟩
      · rw [Reading.yields_cons (Reading.step_and expects role)] at yields
        obtain ⟨first, others, rfl, starts⟩ := exists_head_of_yields yields rfl
        obtain ⟨rest, ⟨conjunction⟩, ends⟩ :=
          exists_conjunction yields level Expectation.noConfusion starts
        exact ⟨_, rest, ⟨.none⟩, ⟨.ofConjunction (.keyword role) conjunction⟩, ends⟩
      · obtain ⟨rest, ⟨conjunction⟩, ends⟩ :=
          exists_conjunction yields level (by rw [expects]; exact Expectation.noConfusion) starts
        exact ⟨_, rest, ⟨.none⟩, ⟨.ofConjunction .adjacent conjunction⟩, ends⟩
termination_by 3 * tokens.length + 2

private theorem exists_alternatives {depth : Nat} {tokens : List Token} {reading : Reading}
    {expr : Expr} (yields : reading.Yields tokens expr) (level : reading.outer.length = depth)
    (expects : reading.expects = .connector) (ends : Heads EndsConjunction tokens) :
    ∃ rest, Nonempty (Alternatives depth tokens rest) ∧ Heads EndsDisjunction rest := by
  cases tokens with
  | nil => exact ⟨[], ⟨.none⟩, heads_nil _⟩
  | cons token after =>
      rcases heads_cons.mp ends with closes | named
      · exact ⟨_, ⟨.none⟩, heads_cons.mpr closes⟩
      · rw [Reading.yields_cons (Reading.step_or expects named)] at yields
        obtain ⟨first, others, rfl, starts⟩ := exists_head_of_yields yields rfl
        obtain ⟨afterNext, ⟨next⟩, ends⟩ :=
          exists_conjunction yields level Expectation.noConfusion starts
        have shorter : afterNext.length < others.length + 1 := next.length_lt
        rw [next.yields reading.nextAlternative expr level Expectation.noConfusion] at yields
        obtain ⟨rest, ⟨others⟩, ends⟩ := exists_alternatives yields level rfl ends
        exact ⟨rest, ⟨.more named next others⟩, ends⟩
termination_by 3 * tokens.length + 2
decreasing_by
  all_goals
    subst_vars
    simp only [List.length_cons]
    omega

private theorem exists_disjunction {depth : Nat} {token : Token} {after : List Token}
    {reading : Reading} {expr : Expr} (yields : reading.Yields (token :: after) expr)
    (level : reading.outer.length = depth) (expects : reading.expects ≠ .negated)
    (starts : StartsOperand token.role) :
    ∃ rest, Nonempty (Disjunction depth (token :: after) rest) ∧ Heads EndsDisjunction rest := by
  obtain ⟨afterFirst, ⟨first⟩, ends⟩ := exists_conjunction yields level expects starts
  have shorter : afterFirst.length < after.length + 1 := first.length_lt
  rw [first.yields reading expr level expects] at yields
  obtain ⟨rest, ⟨others⟩, ends⟩ := exists_alternatives yields level rfl ends
  exact ⟨rest, ⟨.mk first others⟩, ends⟩
termination_by 3 * (after.length + 1) + 2

end

/-- Between parts, a successful run passes closing parentheses and finds the end or the start of
another part. -/
theorem exists_closings (yields : reading.Yields tokens expr) (expects : reading.expects = .part) :
    ∃ rest, Nonempty (Run .closing tokens rest) ∧
      (rest = [] ∨ ∃ token after, rest = token :: after ∧ StartsOperand token.role) := by
  induction tokens with
  | nil => exact ⟨[], ⟨.none⟩, .inl rfl⟩
  | cons token after ih =>
      by_cases closes : token.role = .closing
      · rw [Reading.yields_cons (Reading.step_part_closing expects closes)] at yields
        obtain ⟨rest, ⟨closings⟩, ends⟩ := ih yields
        exact ⟨rest, ⟨.more closes closings⟩, ends⟩
      · obtain ⟨next, step, _⟩ := yields
        rw [Reading.step, expects] at step
        dsimp only at step
        rw [if_neg (mt Token.isCloseParen_iff.mp closes)] at step
        exact ⟨_, ⟨.none⟩, .inr ⟨token, after, rfl, Reading.startsOperand_of_operand step⟩⟩

private theorem exists_parts {tokens : List Token} {reading : Reading}
    (yields : reading.Yields tokens expr) (expects : reading.expects = .connector)
    (outside : reading.outer = [])
    (ends : Heads EndsDisjunction tokens) : Nonempty (Parts tokens) := by
  cases tokens with
  | nil => exact ⟨.none .none⟩
  | cons token after =>
      have closes := heads_cons.mp ends
      rw [Reading.yields_cons (Reading.step_closing expects closes),
        Reading.close_of_outer_eq_nil outside] at yields
      obtain ⟨rest, ⟨closings⟩, rfl | ⟨first, others, rfl, starts⟩⟩ := exists_closings yields rfl
      · exact ⟨.none (.more closes closings)⟩
      · have shorter : others.length + 1 ≤ after.length := closings.length_le
        rw [closings.yields_closings rfl] at yields
        obtain ⟨afterNext, ⟨next⟩, ends⟩ :=
          exists_disjunction yields rfl Expectation.noConfusion starts
        have fewer : afterNext.length < others.length + 1 := next.length_lt
        obtain ⟨frame, _, reads⟩ := next.yields _ rfl rfl Expectation.noConfusion
        rw [reads] at yields
        obtain ⟨parts⟩ := exists_parts yields rfl rfl ends
        exact ⟨.more closes closings next parts⟩
termination_by tokens.length
decreasing_by
  subst_vars
  simp only [List.length_cons]
  omega

/-- Tokens that are read successfully have a derivation. -/
theorem exists_query (yields : Reading.Yields {} tokens expr) : Nonempty (Query tokens) := by
  obtain ⟨token, after, rfl, starts⟩ := exists_head_of_yields yields rfl
  obtain ⟨rest, ⟨first⟩, ends⟩ := exists_disjunction yields rfl Expectation.noConfusion starts
  obtain ⟨frame, _, reads⟩ := first.yields {} rfl rfl Expectation.noConfusion
  rw [reads] at yields
  obtain ⟨others⟩ := exists_parts yields rfl rfl ends
  exact ⟨.mk first others⟩

/-- The parser returns the expression of a derivation. -/
theorem exists_query_of_parse (parsed : Expr.parse tokens = .ok expr) :
    ∃ query : Query tokens, query.expr = expr := by
  rw [Reading.parse_eq_ok_iff_yields] at parsed
  obtain ⟨query⟩ := exists_query parsed
  exact ⟨query, (query.yields.mp parsed).symm⟩

end Grammar

namespace Expr

/-- The parser accepts exactly the tokens that have a derivation and returns its expression; no
tokens have two derivations. -/
theorem parse_eq_ok_iff_derivation (tokens : List Token) :
    (∀ expr, parse tokens = .ok expr ↔ ∃ query : Grammar.Query tokens, query.expr = expr) ∧
      ∀ first second : Grammar.Query tokens, first = second := by
  refine ⟨fun expr => ⟨Grammar.exists_query_of_parse, ?_⟩, Grammar.Query.unique⟩
  rintro ⟨query, rfl⟩
  exact Reading.parse_eq_ok_iff_yields.mpr (query.yields.mpr rfl)

end Expr

end ColumnSearch
