import ColumnSearch.Proofs.Clause.Count
import ColumnSearch.Proofs.Search.Grouping
import ColumnSearch.Proofs.Search.Stages

/-!
# Searches with few terms

How many clauses a search has depends on how its terms are grouped. The worst grouping of 15 terms
gives 243 clauses, so a policy that allows these never refuses a search with at most 15 terms for
its clauses.
-/

namespace ColumnSearch

namespace Search

variable {policy : Policy} {target : Target} {query : String} {count max : Nat}

/-- The filters fail as the compilation does, with the same error. -/
theorem filters_eq_error_iff {error : SearchError} :
    filters policy target query = .error error ↔ compile policy target query = .error error := by
  rw [filters, Except.bind_eq_error_iff]
  refine or_iff_left_of_imp ?_
  rintro ⟨compiled, _, ⟨⟩⟩

private theorem compile_ne_tooManyClauses_of_terms (size : Nat)
    (few : (tokenize query).countP Token.isTerm ≤ 3 * size)
    (room : 3 ^ size ≤ policy.maxClauseCount.toNat) :
    compile policy target query ≠ .error (.rejected (.tooManyClauses count max)) := by
  intro refused
  obtain ⟨expr, parsed, exceeds⟩ := compile_eq_tooManyClauses_iff.mp ⟨count, max, refused⟩
  obtain ⟨_, read⟩ := parse_eq_ok_iff.mp parsed
  have bounded := Expr.length_clauses_of_parse_le read few
  omega

/-- The number of clauses is the sum over the children of a conjunction and the product over those
of a disjunction. If no disjunction is empty, the cube of the number of clauses of `n` conditions is
at most `3 ^ n`, and disjunctions of conjunctions of three conditions reach that. So under a policy
that allows 243 clauses, as the default does, no search with at most 15 terms is refused for its
clauses. -/
theorem clause_count_is_bounded :
    (∀ condition, (Expr.leaf condition).clauses.length = 1) ∧
    (∀ children,
      (Expr.group .and children).clauses.length = (children.map (·.clauses.length)).sum) ∧
    (∀ children,
      (Expr.group .or children).clauses.length = (children.map (·.clauses.length)).prod) ∧
    (∀ expr : Expr, expr.NoEmptyDisjunction → expr.clauses.length ^ 3 ≤ 3 ^ expr.leafCount) ∧
    (∀ triples,
      (Expr.ofTriples triples).leafCount = 3 * triples.length ∧
      (Expr.ofTriples triples).clauses.length ^ 3 = 3 ^ (Expr.ofTriples triples).leafCount ∧
      (triples ≠ [] → (Expr.ofTriples triples).NoEmptyDisjunction)) ∧
    ({} : Policy).maxClauseCount = 256 ∧
    ∀ policy : Policy, 243 ≤ policy.maxClauseCount.toNat →
      ∀ query, (tokenize query).countP Token.isTerm ≤ 15 → ∀ target count max,
        clauses policy query ≠ .error (.rejected (.tooManyClauses count max)) ∧
        compile policy target query ≠ .error (.rejected (.tooManyClauses count max)) ∧
        filters policy target query ≠ .error (.rejected (.tooManyClauses count max)) := by
  refine ⟨Expr.length_clauses_leaf, Expr.length_clauses_and, Expr.length_clauses_or,
    fun expr proper => (Expr.clauseBound_of_noEmptyDisjunction proper).cubed, fun triples => ?_,
    rfl, fun policy room query few target count max => ?_⟩
  · refine ⟨Expr.leafCount_ofTriples triples, ?_, Expr.noEmptyDisjunction_ofTriples triples⟩
    rw [Expr.length_clauses_ofTriples, Expr.leafCount_ofTriples, ← Nat.pow_mul, Nat.mul_comm]
  · have accepted : compile policy target query ≠ .error (.rejected (.tooManyClauses count max)) :=
      compile_ne_tooManyClauses_of_terms 5 few room
    exact ⟨mt compile_eq_error_of_clauses accepted, accepted, mt filters_eq_error_iff.mp accepted⟩

/-- A conjunction of three conditions is within the bound. Five of them as a text are accepted by a
limit of 243 clauses, and refused by a limit of 242. -/
theorem clause_count_is_bounded_five_conjunctions :
    let expr := Expr.ofTriples [(.word "a", .word "b", .word "c")]
    let query := r#""a""b""c"OR"d""e""f"OR"g""h""i"OR"j""k""l"OR"m""n""o""#
    let target : Target := ⟨"Tickets", "Priority"⟩
    expr.NoEmptyDisjunction ∧ expr.clauses.length ^ 3 ≤ 3 ^ expr.leafCount ∧
      (tokenize query).countP Token.isTerm = 15 ∧
      (∀ count max, compile { maxClauseCount := 243 } target query ≠
        .error (.rejected (.tooManyClauses count max))) ∧
      compile { maxClauseCount := 242 } target query =
        .error (.rejected (.tooManyClauses 243 242)) := by
  intro expr query target
  -- One evaluation for both facts, so that the text is split into tokens only once.
  obtain ⟨terms, refused⟩ : (tokenize query).countP Token.isTerm = 15 ∧
      compile { maxClauseCount := 242 } target query =
        .error (.rejected (.tooManyClauses 243 242)) := by
    decide +kernel
  obtain ⟨_, _, _, bounded, reached, _, accepted⟩ := clause_count_is_bounded
  have proper : expr.NoEmptyDisjunction := (reached _).2.2 (List.cons_ne_nil _ _)
  refine ⟨proper, bounded expr proper, terms, fun count max => ?_, refused⟩
  exact (accepted { maxClauseCount := 243 } (by decide) query terms.le target count max).2.1

end Search

end ColumnSearch
