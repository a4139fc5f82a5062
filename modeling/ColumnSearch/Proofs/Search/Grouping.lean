import ColumnSearch.Proofs.Clause.Flatten
import ColumnSearch.Proofs.Search.Limits
import ColumnSearch.Proofs.Token.Render

/-!
# Searches that differ in their groups

Two texts whose expressions become the same when they are flattened have the same clauses, and so
the same filters. The limits on conditions and clauses do not tell them apart either. Only their
characters and tokens are counted as they were typed.
-/

namespace ColumnSearch

namespace Search

variable {policy : Policy} {target : Target} {query : String} {expr other : Expr}

/-- A text is refused for its clauses exactly if it is within all other limits and has too many. -/
theorem compile_eq_tooManyClauses_iff :
    (∃ count max, compile policy target query = .error (.rejected (.tooManyClauses count max))) ↔
      ∃ expr, parse policy query = .ok expr ∧
        policy.maxClauseCount.toNat < expr.clauses.length := by
  constructor
  · rintro ⟨count, max, refused⟩
    cases outcome : parse policy query with
    | error failure =>
        -- Whatever is refused for its clauses has passed validation, which parsing agrees with.
        cases (compile_eq_error_of_parse outcome).symm.trans refused
        have passed := validate_eq_ok_iff_compile.mpr (.inr (.inr ⟨count, max, refused⟩))
        cases passed.symm.trans (parse_eq_rejected_iff.mp outcome)
    | ok expr =>
        refine ⟨expr, rfl, Nat.not_le.mp fun fits => ?_⟩
        obtain ⟨compiled, success, _⟩ := compile_of_clauses_le outcome fits
        cases success.symm.trans refused
  · rintro ⟨expr, parsed, exceeds⟩
    obtain ⟨count, refused⟩ := compile_of_lt_clauses parsed exceeds
    exact ⟨count, _, refused⟩

/-- Within the limits on characters and tokens, only conditions and clauses are counted. -/
theorem compile_eq_tooManyClauses_iff_of_tokens {lexed : List Token}
    (passed : tokens policy query = .ok lexed) (read : Expr.parse (tokenize query) = .ok expr) :
    (∃ count max, compile policy target query = .error (.rejected (.tooManyClauses count max))) ↔
      expr.conditions.length ≤ policy.maxLeafCount.toNat ∧
        policy.maxClauseCount.toNat < expr.clauses.length := by
  obtain ⟨_, _, rfl⟩ := tokens_eq_ok_iff.mp passed
  have parsed : ∀ found, parse policy query = .ok found ↔
      found = expr ∧ expr.conditions.length ≤ policy.maxLeafCount.toNat := by
    intro found
    simp only [parse, passed, Except.ok_bind, read, Except.mapError_ok, Except.bind_eq_ok_iff,
      Except.mapError_eq_ok_iff, Except.pure_eq_ok_iff]
    constructor
    · rintro ⟨_, few, rfl⟩
      exact ⟨rfl, Policy.checkLeaves_eq_ok_iff.mp few⟩
    · rintro ⟨rfl, few⟩
      exact ⟨(), Policy.checkLeaves_eq_ok_iff.mpr few, rfl⟩
  rw [compile_eq_tooManyClauses_iff]
  constructor
  · rintro ⟨found, reads, exceeds⟩
    obtain ⟨rfl, few⟩ := (parsed found).mp reads
    exact ⟨few, exceeds⟩
  · rintro ⟨few, exceeds⟩
    exact ⟨expr, (parsed expr).mpr ⟨rfl, few⟩, exceeds⟩

private theorem clauses_eq_of_flatten_eq (same : expr.flatten = other.flatten) :
    expr.clauses = other.clauses := by
  rw [← expr.clauses_flatten, same, other.clauses_flatten]

private theorem conditions_eq_of_flatten_eq (same : expr.flatten = other.flatten) :
    expr.conditions = other.conditions := by
  rw [← expr.conditions_flatten, same, other.conditions_flatten]

/-- Texts with the same clauses have the same filters, each under its own policy. -/
theorem filters_eq_of_clauses_eq {first second : String} {looser : Policy}
    {compiled again : Compiled} (read : Expr.parse (tokenize first) = .ok expr)
    (reread : Expr.parse (tokenize second) = .ok other) (same : expr.clauses = other.clauses)
    (success : compile policy target first = .ok compiled)
    (succeeds : compile looser target second = .ok again) : compiled.filters = again.filters := by
  obtain ⟨_, parsed, _, built⟩ := exists_expr_of_compile success
  obtain ⟨_, reparsed, _, rebuilt⟩ := exists_expr_of_compile succeeds
  cases read.symm.trans parsed
  cases reread.symm.trans reparsed
  rw [same, rebuilt] at built
  exact (Except.ok.inj built).symm

-- What the lexer asks about the characters of the texts below. With these at hand the texts are
-- taken apart by rewriting, and no table of characters is searched.
@[simp]
private theorem isIdentifier_letter {c : Char} (letter : c ∈ ['a', 'b', 'c', 'O', 'R']) :
    Text.isIdentifier c = true := by
  simp only [List.mem_cons, List.not_mem_nil, or_false] at letter
  rcases letter with rfl | rfl | rfl | rfl | rfl <;> rfl

@[simp]
private theorem isIdentifier_space : Text.isIdentifier ' ' = false :=
  Token.isSeparator_space.2

@[simp]
private theorem isIdentifier_closing : Text.isIdentifier ')' = false :=
  Token.isIdentifier_of_mem_marks (by decide)

/-- Redundant groups change neither the clauses of an expression nor, therefore, the filters of a
search. Expressions that flatten alike exceed the same limits on clauses, and texts of such
expressions are refused alike for too many clauses if both are within the limits on characters and
tokens. -/
theorem grouping_keeps_clauses_and_filters :
    (∀ expr : Expr, expr.flatten.clauses = expr.clauses ∧ expr.flatten.Flat) ∧
    ∀ first second expr other, Expr.parse (tokenize first) = .ok expr →
      Expr.parse (tokenize second) = .ok other → expr.flatten = other.flatten →
      (∀ policy target compiled again, compile policy target first = .ok compiled →
        compile policy target second = .ok again →
        compiled.filters = again.filters ∧
          compiled.filters.fingerprint = again.filters.fingerprint) ∧
      (∀ max, (∃ count, expr.clausesWithin max = .error (.tooManyClauses count max)) ↔
        ∃ count, other.clausesWithin max = .error (.tooManyClauses count max)) ∧
      ∀ policy measured target lexed relexed, tokens policy first = .ok lexed →
        tokens { policy with measured } second = .ok relexed →
        ((∃ count max,
            compile policy target first = .error (.rejected (.tooManyClauses count max))) ↔
          ∃ count max, compile { policy with measured } target second =
            .error (.rejected (.tooManyClauses count max))) := by
  refine ⟨fun expr => ⟨expr.clauses_flatten, expr.flat_flatten⟩, ?_⟩
  intro first second expr other read reread same
  have clauses := clauses_eq_of_flatten_eq same
  have conditions := conditions_eq_of_flatten_eq same
  refine ⟨?_, ?_, ?_⟩
  · intro policy target compiled again success succeeds
    have equal := filters_eq_of_clauses_eq read reread clauses success succeeds
    exact ⟨equal, congrArg FilterSet.fingerprint equal⟩
  · intro max
    rw [Expr.clausesWithin_eq_error_iff (Expr.branching_of_parse read).noEmptyConjunction,
      Expr.clausesWithin_eq_error_iff (Expr.branching_of_parse reread).noEmptyConjunction, clauses]
  · intro policy measured target lexed relexed passed passes
    rw [compile_eq_tooManyClauses_iff_of_tokens passed read,
      compile_eq_tooManyClauses_iff_of_tokens passes reread, clauses, conditions]

/-- A disjunction nested to the left and one nested to the right are different expressions with the
same filters. -/
theorem grouping_keeps_clauses_and_filters_nested_disjunction :
    let target : Target := ⟨"Tickets", "Priority"⟩
    ∃ expr other compiled again, Expr.parse (tokenize "a OR (b OR c)") = .ok expr ∧
      Expr.parse (tokenize "(a OR b) OR c") = .ok other ∧ expr ≠ other ∧
      expr.flatten = other.flatten ∧ compile {} target "a OR (b OR c)" = .ok compiled ∧
      compile {} target "(a OR b) OR c" = .ok again ∧ compiled.filters = again.filters := by
  intro target
  have lexed : tokenize "a OR (b OR c)" = [⟨.word, "a"⟩, ⟨.operator, "OR"⟩, ⟨.paren, "("⟩,
      ⟨.word, "b"⟩, ⟨.operator, "OR"⟩, ⟨.word, "c"⟩, ⟨.paren, ")"⟩] := by
    simp [tokenize, Token.lex, Token.ofIdentifier, Token.keywords, List.takeWhile, List.dropWhile]
  have relexed : tokenize "(a OR b) OR c" = [⟨.paren, "("⟩, ⟨.word, "a"⟩, ⟨.operator, "OR"⟩,
      ⟨.word, "b"⟩, ⟨.paren, ")"⟩, ⟨.operator, "OR"⟩, ⟨.word, "c"⟩] := by
    simp [tokenize, Token.lex, Token.ofIdentifier, Token.keywords, List.takeWhile, List.dropWhile]
  have read : Expr.parse (tokenize "a OR (b OR c)") = .ok (.group .or [.leaf (.word "a"),
      .group .or [.leaf (.word "b"), .leaf (.word "c")]]) := by
    rw [lexed]
    rfl
  have reread : Expr.parse (tokenize "(a OR b) OR c") = .ok (.group .or [.group .or
      [.leaf (.word "a"), .leaf (.word "b")], .leaf (.word "c")]) := by
    rw [relexed]
    rfl
  have success : compile {} target "a OR (b OR c)" = .ok ⟨.single (.ofTests target .or
      [⟨.contains, "a"⟩, ⟨.contains, "b"⟩, ⟨.contains, "c"⟩]), none⟩ := by
    rw [compile, tokens, lexed]
    rfl
  have succeeds : compile {} target "(a OR b) OR c" = .ok ⟨.single (.ofTests target .or
      [⟨.contains, "a"⟩, ⟨.contains, "b"⟩, ⟨.contains, "c"⟩]), none⟩ := by
    rw [compile, tokens, relexed]
    rfl
  obtain ⟨filters, _, _⟩ := grouping_keeps_clauses_and_filters.2 _ _ _ _ read reread rfl
  refine ⟨_, _, _, _, read, reread, ?_, rfl, success, succeeds,
    (filters {} target _ _ success succeeds).1⟩
  intro same
  cases same

/-- Parentheses count as tokens, so the same expression can be refused for its clauses when it is
typed without them, and for its tokens when it is typed with them. -/
theorem refusal_for_clauses_depends_on_tokens :
    let policy : Policy := { maxTokenCount := 2, maxClauseCount := 1 }
    let target : Target := ⟨"Tickets", "Priority"⟩
    (∃ expr other, Expr.parse (tokenize "a b") = .ok expr ∧
      Expr.parse (tokenize "(a b)") = .ok other ∧ expr.flatten = other.flatten) ∧
    compile policy target "a b" = .error (.rejected (.tooManyClauses 2 1)) ∧
    compile policy target "(a b)" = .error (.rejected (.tooManyTokens 4 2)) ∧
    ¬((∃ count max,
        compile policy target "a b" = .error (.rejected (.tooManyClauses count max))) ↔
      ∃ count max,
        compile policy target "(a b)" = .error (.rejected (.tooManyClauses count max))) := by
  intro policy target
  have lexed : tokenize "a b" = [⟨.word, "a"⟩, ⟨.word, "b"⟩] := by
    simp [tokenize, Token.lex, Token.ofIdentifier, Token.keywords, List.takeWhile, List.dropWhile]
  have relexed : tokenize "(a b)" =
      [⟨.paren, "("⟩, ⟨.word, "a"⟩, ⟨.word, "b"⟩, ⟨.paren, ")"⟩] := by
    simp [tokenize, Token.lex, Token.ofIdentifier, Token.keywords, List.takeWhile, List.dropWhile]
  have plain : compile policy target "a b" = .error (.rejected (.tooManyClauses 2 1)) := by
    rw [compile, tokens, lexed]
    rfl
  have grouped : compile policy target "(a b)" = .error (.rejected (.tooManyTokens 4 2)) := by
    rw [compile, tokens, relexed]
    rfl
  refine ⟨⟨_, _, by rw [lexed]; rfl, by rw [relexed]; rfl, rfl⟩, plain, grouped, fun alike => ?_⟩
  obtain ⟨count, max, refused⟩ := alike.mp ⟨2, 1, plain⟩
  cases grouped.symm.trans refused

end Search

end ColumnSearch
