import ColumnSearch.Proofs.Search.Limits

/-!
# The outcomes of searches

A search has filters, or its text does not parse, or it exceeds a limit. The clauses of a parsed
expression can always be compiled, so no search reports a fault of its clauses.
-/

namespace ColumnSearch

namespace Search

variable {policy : Policy} {target : Target} {query : String}

/-- A search fails because its text does not parse or because it exceeds a limit. -/
theorem compile_eq_error {error : SearchError}
    (failed : compile policy target query = .error error) :
    (∃ fault, error = .parse fault) ∨ ∃ rejection, error = .rejected rejection := by
  cases outcome : policy.validate query with
  | error rejection =>
      cases (compile_eq_rejected_of_validate outcome target).symm.trans failed
      exact .inr ⟨rejection, rfl⟩
  | ok _ =>
      rcases compile_of_validate outcome target with ⟨_, other⟩ | ⟨fault, same⟩ | ⟨_, _, same⟩
      · cases other.symm.trans failed
      · cases same.symm.trans failed
        exact .inl ⟨fault, rfl⟩
      · cases same.symm.trans failed
        exact .inr ⟨_, rfl⟩

/-- The filters of a search have at least one predicate. -/
theorem toList_filters_ne_nil {compiled : Compiled}
    (success : compile policy target query = .ok compiled) : compiled.filters.toList ≠ [] := by
  obtain ⟨expr, _, _, built⟩ := exists_expr_of_compile success
  obtain ⟨nonempty, _, same⟩ := FilterSet.ofClauses_eq_ok_iff.mp built
  rw [same, FilterSet.toList_ofList]
  exact Predicate.ofClauses_ne_nil target nonempty

/-- A search has at least one predicate, or its text does not parse, or it exceeds a limit, and
nothing else can happen: the clauses of a parsed expression are not empty. Only lists of clauses
that are empty or have an empty member cannot be compiled, and the first such member is named. -/
theorem compile_never_faults (policy : Policy) (target : Target) (query : String) :
    ((∃ compiled, compile policy target query = .ok compiled ∧
        filters policy target query = .ok compiled.filters ∧ compiled.filters.toList ≠ []) ∨
      (∃ error, compile policy target query = .error (.parse error) ∧
        filters policy target query = .error (.parse error)) ∨
      ∃ rejection, compile policy target query = .error (.rejected rejection) ∧
        filters policy target query = .error (.rejected rejection)) ∧
    (∀ tokens expr, Expr.parse tokens = .ok expr →
      expr.clauses ≠ [] ∧ ∀ clause ∈ expr.clauses, clause ≠ []) ∧
    ∀ clauses : List Clause,
      ((∃ fault, FilterSet.ofClauses target clauses = .error fault) ↔
        clauses = [] ∨ [] ∈ clauses) ∧
      (FilterSet.ofClauses target clauses = .error .noClauses ↔ clauses = []) ∧
      ∀ index, FilterSet.ofClauses target clauses = .error (.emptyClause index) ↔
        clauses[index]? = some [] ∧ ∀ earlier < index, clauses[earlier]? ≠ some [] := by
  refine ⟨?_, fun tokens expr => Expr.clauses_of_parse, fun clauses =>
    ⟨FilterSet.exists_ofClauses_eq_error_iff, FilterSet.ofClauses_eq_noClauses_iff,
      fun index => FilterSet.ofClauses_eq_emptyClause_iff⟩⟩
  unfold filters
  cases outcome : compile policy target query with
  | ok compiled => exact .inl ⟨compiled, rfl, rfl, toList_filters_ne_nil outcome⟩
  | error error =>
      rcases compile_eq_error outcome with ⟨fault, rfl⟩ | ⟨rejection, rfl⟩
      · exact .inr (.inl ⟨fault, rfl, rfl⟩)
      · exact .inr (.inr ⟨rejection, rfl, rfl⟩)

end Search

end ColumnSearch
