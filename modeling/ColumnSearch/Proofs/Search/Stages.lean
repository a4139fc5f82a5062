import ColumnSearch.Proofs.Search.Limits

/-!
# The stages of searches

The tokens, the expression and the clauses of a search can be asked for on their own. Compiling
goes through the same stages, although it does not ask for them one by one: it ends as they end,
and the sizes it reports are those of what they return.
-/

namespace ColumnSearch

namespace Search

variable {policy : Policy} {target : Target} {query : String} {error : SearchError}

/-- A search has the filters of its clauses, or fails as its clauses or their filters do. -/
theorem map_filters_compile (policy : Policy) (target : Target) (query : String) :
    (compile policy target query).map Compiled.filters = (do
      let found ← clauses policy query
      (FilterSet.ofClauses target found).mapError .clauses) := by
  rw [compile_eq_bind_parse, clauses]
  cases parse policy query with
  | error error => rfl
  | ok expr =>
      rw [Except.ok_bind, Except.ok_bind]
      cases expr.clausesWithin policy.maxClauseCount.toNat with
      | error error => rfl
      | ok found =>
          rw [Except.mapError_ok, Except.ok_bind, Except.ok_bind]
          cases FilterSet.ofClauses target found with
          | error fault => rfl
          | ok filters => rfl

/-- A failure to find the clauses is the failure to compile. -/
theorem compile_eq_error_of_clauses (failed : clauses policy query = .error error) :
    compile policy target query = .error error := by
  have outcome := map_filters_compile policy target query
  rw [failed, Except.error_bind] at outcome
  cases compiled : compile policy target query with
  | error other =>
      rw [compiled] at outcome
      cases outcome
      rfl
  | ok result =>
      rw [compiled] at outcome
      cases outcome

/-- A failure to find the tokens is the failure to parse. -/
theorem parse_eq_error_of_tokens (failed : tokens policy query = .error error) :
    parse policy query = .error error := by
  rw [parse, failed, Except.error_bind]

/-- A failure to parse is the failure to find the clauses. -/
theorem clauses_eq_error_of_parse (failed : parse policy query = .error error) :
    clauses policy query = .error error := by
  rw [clauses, failed, Except.error_bind]

private theorem exists_tokens_of_parse {expr : Expr} (parsed : parse policy query = .ok expr) :
    ∃ lexed, tokens policy query = .ok lexed := by
  obtain ⟨lexed, passed, _⟩ := Except.bind_eq_ok_iff.mp parsed
  exact ⟨lexed, passed⟩

private theorem exists_expr_of_clauses {found : List Clause}
    (normalized : clauses policy query = .ok found) : ∃ expr, parse policy query = .ok expr := by
  obtain ⟨expr, parsed, _⟩ := Except.bind_eq_ok_iff.mp normalized
  exact ⟨expr, parsed⟩

/-- A search that compiles passes every stage, and reports the sizes of what the stages return if
the policy asks for them. -/
theorem exists_stages_of_compile {compiled : Compiled}
    (success : compile policy target query = .ok compiled) :
    ∃ lexed expr found, tokens policy query = .ok lexed ∧ parse policy query = .ok expr ∧
      clauses policy query = .ok found ∧
      FilterSet.ofClauses target found = .ok compiled.filters ∧
      compiled.metrics = if policy.measured then
        some ⟨query.length, lexed.length, expr.leafCount, found.length,
          compiled.filters.toList.length⟩ else none := by
  obtain ⟨lexed, passed, success⟩ := Except.bind_eq_ok_iff.mp success
  obtain ⟨expr, read, success⟩ := Except.bind_eq_ok_iff.mp success
  obtain ⟨_, few, success⟩ := Except.bind_eq_ok_iff.mp success
  obtain ⟨found, normalized, success⟩ := Except.bind_eq_ok_iff.mp success
  obtain ⟨filters, built, success⟩ := Except.bind_eq_ok_iff.mp success
  obtain rfl := Except.pure_eq_ok_iff.mp success
  have parsed : parse policy query = .ok expr := by
    rw [parse, passed, Except.ok_bind, read, Except.ok_bind, few, Except.ok_bind]
    rfl
  refine ⟨lexed, expr, found, passed, parsed, ?_, Except.mapError_eq_ok_iff.mp built, rfl⟩
  rw [clauses, parsed, Except.ok_bind, normalized]

private theorem clauses_measured (policy : Policy) (measured : Bool) (query : String) :
    clauses { policy with measured } query = clauses policy query :=
  rfl

/-- Compiling a search agrees with the stages that can be asked for on their own. It returns the
filters of the clauses or the error of the first stage that fails, which every later stage repeats.
The sizes are the lengths of the text, the tokens, the clauses and the filters, and the number of
conditions of the expression. Asking for sizes changes neither filters nor errors. -/
theorem compile_agrees_with_stages (policy : Policy) (target : Target) (query : String) :
    (compile policy target query).map Compiled.filters = (do
      let found ← clauses policy query
      (FilterSet.ofClauses target found).mapError .clauses) ∧
    (∀ error, tokens policy query = .error error → parse policy query = .error error) ∧
    (∀ error, parse policy query = .error error → clauses policy query = .error error) ∧
    (∀ error, clauses policy query = .error error → compile policy target query = .error error) ∧
    (∀ found, clauses policy query = .ok found → ∃ expr, parse policy query = .ok expr) ∧
    (∀ expr, parse policy query = .ok expr → ∃ lexed, tokens policy query = .ok lexed) ∧
    (∀ compiled, compile policy target query = .ok compiled →
      ∃ lexed expr found, tokens policy query = .ok lexed ∧ parse policy query = .ok expr ∧
        clauses policy query = .ok found ∧
        FilterSet.ofClauses target found = .ok compiled.filters ∧
        compiled.metrics = if policy.measured then
          some ⟨query.length, lexed.length, expr.leafCount, found.length,
            compiled.filters.toList.length⟩ else none) ∧
    ∀ measured, (compile { policy with measured } target query).map Compiled.filters =
      (compile policy target query).map Compiled.filters := by
  refine ⟨map_filters_compile policy target query, ?_, ?_, ?_, ?_, ?_, ?_, fun measured => ?_⟩
  · exact fun _ => parse_eq_error_of_tokens
  · exact fun _ => clauses_eq_error_of_parse
  · exact fun _ => compile_eq_error_of_clauses
  · exact fun _ => exists_expr_of_clauses
  · exact fun _ => exists_tokens_of_parse
  · exact fun _ => exists_stages_of_compile
  · rw [map_filters_compile, map_filters_compile, clauses_measured]

end Search

end ColumnSearch
