import ColumnSearch.Proofs.Clause.Limit
import ColumnSearch.Proofs.Predicate.Meaning
import ColumnSearch.Search

/-!
# The meaning of searches

A search passes through tokens, an expression, clauses and filters. Its filters say what the
expression says, whatever the policy.
-/

namespace ColumnSearch

namespace Search

variable {policy : Policy} {target : Target} {query : String}

/-- The tokens are returned exactly when the query and they are within their limits. -/
theorem tokens_eq_ok_iff {result : List Token} :
    tokens policy query = .ok result ↔
      policy.checkLength query = .ok () ∧ policy.checkTokens (tokenize query) = .ok () ∧
        tokenize query = result := by
  simp only [tokens, Except.bind_eq_ok_iff, Except.mapError_eq_ok_iff, Except.pure_eq_ok_iff]
  constructor
  · rintro ⟨_, short, _, few, same⟩
    exact ⟨short, few, same⟩
  · rintro ⟨short, few, same⟩
    exact ⟨(), short, (), few, same⟩

/-- A search that compiles passes every stage: its text parses, and its filters are those of the
clauses of the expression. -/
theorem exists_expr_of_compile {compiled : Compiled}
    (success : compile policy target query = .ok compiled) :
    ∃ expr, Expr.parse (tokenize query) = .ok expr ∧
      expr.clausesWithin policy.maxClauseCount.toNat = .ok expr.clauses ∧
      FilterSet.ofClauses target expr.clauses = .ok compiled.filters := by
  obtain ⟨tokens, lexed, success⟩ := Except.bind_eq_ok_iff.mp success
  obtain ⟨expr, parsed, success⟩ := Except.bind_eq_ok_iff.mp success
  obtain ⟨_, _, success⟩ := Except.bind_eq_ok_iff.mp success
  obtain ⟨clauses, found, success⟩ := Except.bind_eq_ok_iff.mp success
  obtain ⟨filters, built, success⟩ := Except.bind_eq_ok_iff.mp success
  obtain ⟨_, _, rfl⟩ := tokens_eq_ok_iff.mp lexed
  rw [Except.mapError_eq_ok_iff] at parsed found built
  obtain rfl := Except.pure_eq_ok_iff.mp success
  obtain ⟨rfl, _⟩ := Expr.eq_clauses_of_clausesWithin found
  exact ⟨expr, parsed, found, built⟩

/-- The filters of a search hold of a column exactly when its expression does, if the column equals
the value of an exact condition of the expression just when it contains its text. -/
theorem holds_filters_eq_holds_expr {compiled : Compiled}
    (success : compile policy target query = .ok compiled) :
    ∃ expr, Expr.parse (tokenize query) = .ok expr ∧
      ∀ (contains : String → Bool) (equals : Value → Bool),
        (∀ condition ∈ expr.conditions, condition.isExact = true →
          equals condition.exactValue = contains condition.value) →
        compiled.filters.holds contains equals = expr.holds (Condition.holds contains) := by
  obtain ⟨expr, parsed, _, built⟩ := exists_expr_of_compile success
  refine ⟨expr, parsed, fun contains equals agree => ?_⟩
  have agreeInClauses : ∀ clause ∈ expr.clauses, ∀ condition ∈ clause,
      condition.isExact = true → equals condition.exactValue = contains condition.value :=
    fun clause member condition inside =>
      agree condition ((Expr.sublist_conditions_of_mem_clauses member).subset inside)
  rw [FilterSet.holds_of_ofClauses contains equals built agreeInClauses, Expr.all_any_clauses]

/-- A phrase and a number share an equality list; a column that contains and equals the phrase
passes both the filters and the expression. -/
theorem holds_filters_eq_holds_expr_equality_list :
    ∃ compiled expr,
      compile {} ⟨"Tickets", "Priority"⟩ "(\"12\" OR 7) NOT x" = .ok compiled ∧
      Expr.parse (tokenize "(\"12\" OR 7) NOT x") = .ok expr ∧
      compiled.filters.holds (· == "12") (· == .text "12") =
        expr.holds (Condition.holds (· == "12")) ∧
      compiled.filters.holds (· == "12") (· == .text "12") = true := by
  have lexed : tokenize "(\"12\" OR 7) NOT x" =
      [⟨.paren, "("⟩, ⟨.quoted, "12"⟩, ⟨.operator, "OR"⟩, ⟨.word, "7"⟩, ⟨.paren, ")"⟩,
        ⟨.operator, "NOT"⟩, ⟨.word, "x"⟩] := by
    decide +kernel
  have success : compile {} ⟨"Tickets", "Priority"⟩ "(\"12\" OR 7) NOT x" =
      .ok ⟨.many [.ofTests ⟨"Tickets", "Priority"⟩ .and [⟨.doesNotContain, "x"⟩],
        .ofValues ⟨"Tickets", "Priority"⟩ [.text "12", .number (.signed 7)]], none⟩ := by
    rw [compile, tokens, lexed]
    rfl
  have parsed : Expr.parse (tokenize "(\"12\" OR 7) NOT x") =
      .ok (.group .and [.group .or [.leaf (.phrase "12"), .leaf (.word "7")],
        .leaf ((Condition.word "x").withPolarity .excluded)]) := by
    rw [lexed]
    rfl
  obtain ⟨expr, same, meaning⟩ := holds_filters_eq_holds_expr success
  obtain rfl := Except.ok.inj (same.symm.trans parsed)
  refine ⟨_, _, success, parsed, meaning _ _ ?_, ?_⟩
  · decide
  · rfl

end Search

end ColumnSearch
