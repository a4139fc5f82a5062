import ColumnSearch.Proofs.Clause.Presence
import ColumnSearch.Proofs.Policy
import ColumnSearch.Proofs.Predicate.Fault
import ColumnSearch.Proofs.Search.Meaning

/-!
# Searches and the limits of policies

The stages of a search check the same limits as validation, in the same order. So validation
foretells every refusal but the one for too many clauses, and higher limits change no outcome but a
refusal.
-/

namespace ColumnSearch

namespace Search

variable {policy looser : Policy} {target : Target} {query : String} {rejection : Rejection}
  {expr : Expr} {error : ParseError}

/-- Parsing a search is validating its text and then parsing its tokens. -/
theorem parse_eq_validate (policy : Policy) (query : String) :
    parse policy query = (do
      (policy.validate query).mapError .rejected
      (Expr.parse (tokenize query)).mapError .parse) := by
  rw [parse, tokens, Policy.validate]
  dsimp only
  cases policy.checkLength query with
  | error long => rfl
  | ok _ =>
      cases policy.checkTokens (tokenize query) with
      | error many => rfl
      | ok _ =>
          simp only [Except.mapError_ok, Except.ok_bind, pure_bind]
          cases Expr.parse (tokenize query) with
          | error error => rfl
          | ok expr => rfl

/-- Parsing refuses a query for a limit exactly when validation does. -/
theorem parse_eq_rejected_iff :
    parse policy query = .error (.rejected rejection) ↔
      policy.validate query = .error rejection := by
  simp [parse_eq_validate, Except.bind_eq_error_iff, Except.mapError_eq_error_iff]

private theorem parse_eq_syntax_iff :
    parse policy query = .error (.parse error) ↔
      policy.validate query = .ok () ∧ Expr.parse (tokenize query) = .error error := by
  simp [parse_eq_validate, Except.bind_eq_error_iff, Except.mapError_eq_error_iff]

/-- Parsing succeeds exactly on queries that pass validation and whose tokens make up an expression.
-/
theorem parse_eq_ok_iff :
    parse policy query = .ok expr ↔
      policy.validate query = .ok () ∧ Expr.parse (tokenize query) = .ok expr := by
  simp [parse_eq_validate, Except.bind_eq_ok_iff]

/-- Compiling a search goes on from its expression. -/
theorem compile_eq_bind_parse (policy : Policy) (target : Target) (query : String) :
    compile policy target query = (do
      let expr ← parse policy query
      let clauses ← (expr.clausesWithin policy.maxClauseCount.toNat).mapError .rejected
      let filters ← (FilterSet.ofClauses target clauses).mapError .clauses
      return ⟨filters, if policy.measured then
        some ⟨query.length, (tokenize query).length, expr.leafCount, clauses.length,
          filters.toList.length⟩ else none⟩) := by
  rw [compile, parse]
  cases lexed : tokens policy query with
  | error error => rfl
  | ok found =>
      obtain ⟨_, _, rfl⟩ := tokens_eq_ok_iff.mp lexed
      simp only [Except.ok_bind]
      cases Expr.parse (tokenize query) with
      | error error => rfl
      | ok expr =>
          simp only [Except.mapError_ok, Except.ok_bind]
          cases policy.checkLeaves expr with
          | error many => rfl
          | ok _ => rfl

/-- A failure to parse is the failure to compile. -/
theorem compile_eq_error_of_parse {failure : SearchError}
    (failed : parse policy query = .error failure) :
    compile policy target query = .error failure := by
  rw [compile_eq_bind_parse, failed, Except.error_bind]

private theorem ofClauses_of_parse {tokens : List Token} {expr : Expr}
    (parsed : Expr.parse tokens = .ok expr) (target : Target) :
    FilterSet.ofClauses target expr.clauses =
      .ok (.ofList (Predicate.ofClauses target expr.clauses)) := by
  obtain ⟨nonempty, filled⟩ := Expr.clauses_of_parse parsed
  exact FilterSet.ofClauses_eq_ok_iff.mpr ⟨nonempty, fun empty => filled [] empty rfl, rfl⟩

/-- An expression with no more clauses than their limit compiles to the predicates of its clauses.
-/
theorem compile_of_clauses_le (parsed : parse policy query = .ok expr)
    (fits : expr.clauses.length ≤ policy.maxClauseCount.toNat) :
    ∃ compiled, compile policy target query = .ok compiled ∧
      compiled.filters = .ofList (Predicate.ofClauses target expr.clauses) := by
  obtain ⟨_, read⟩ := parse_eq_ok_iff.mp parsed
  have proper := (Expr.branching_of_parse read).noEmptyConjunction
  rw [compile_eq_bind_parse, parsed]
  simp only [Expr.clausesWithin_of_le proper fits, ofClauses_of_parse read,
    Except.mapError_ok, Except.ok_bind]
  exact ⟨_, rfl, rfl⟩

/-- An expression with more clauses than their limit is refused for them. -/
theorem compile_of_lt_clauses (parsed : parse policy query = .ok expr)
    (exceeds : policy.maxClauseCount.toNat < expr.clauses.length) :
    ∃ count, compile policy target query =
      .error (.rejected (.tooManyClauses count policy.maxClauseCount.toNat)) := by
  obtain ⟨_, read⟩ := parse_eq_ok_iff.mp parsed
  have proper := (Expr.branching_of_parse read).noEmptyConjunction
  obtain ⟨count, refused⟩ := Expr.clausesWithin_of_lt proper exceeds
  refine ⟨count, ?_⟩
  rw [compile_eq_bind_parse, parsed, Except.ok_bind, refused, Except.mapError_error,
    Except.error_bind]

/-- Behind the expression, a search can only fail for too many clauses. -/
theorem compile_of_parse (parsed : parse policy query = .ok expr) (target : Target) :
    (∃ compiled, compile policy target query = .ok compiled) ∨
      ∃ count max,
        compile policy target query = .error (.rejected (.tooManyClauses count max)) := by
  by_cases fits : expr.clauses.length ≤ policy.maxClauseCount.toNat
  · obtain ⟨compiled, success, _⟩ := compile_of_clauses_le parsed fits
    exact .inl ⟨compiled, success⟩
  · obtain ⟨count, refused⟩ := compile_of_lt_clauses parsed (Nat.not_le.mp fits)
    exact .inr ⟨count, _, refused⟩

private theorem compile_eq_syntax_iff :
    compile policy target query = .error (.parse error) ↔
      policy.validate query = .ok () ∧ Expr.parse (tokenize query) = .error error := by
  rw [← parse_eq_syntax_iff]
  refine ⟨fun failed => ?_, compile_eq_error_of_parse⟩
  cases outcome : parse policy query with
  | error failure =>
      cases (compile_eq_error_of_parse outcome).symm.trans failed
      rfl
  | ok expr =>
      rcases compile_of_parse outcome target with ⟨_, other⟩ | ⟨_, _, other⟩
      · cases other.symm.trans failed
      · cases other.symm.trans failed

/-- A query that validation refuses is refused by the compilation in the same way. -/
theorem compile_eq_rejected_of_validate (failed : policy.validate query = .error rejection)
    (target : Target) : compile policy target query = .error (.rejected rejection) :=
  compile_eq_error_of_parse (parse_eq_rejected_iff.mpr failed)

/-- A text that passes validation can still have too many clauses, but exceeds no other limit. -/
theorem compile_of_validate (passed : policy.validate query = .ok ()) (target : Target) :
    (∃ compiled, compile policy target query = .ok compiled) ∨
      (∃ error, compile policy target query = .error (.parse error)) ∨
      ∃ count max,
        compile policy target query = .error (.rejected (.tooManyClauses count max)) := by
  cases read : Expr.parse (tokenize query) with
  | error error =>
      exact .inr (.inl ⟨error, compile_eq_syntax_iff.mpr ⟨passed, read⟩⟩)
  | ok expr =>
      have parsed : parse policy query = .ok expr := parse_eq_ok_iff.mpr ⟨passed, read⟩
      exact (compile_of_parse parsed target).imp_right .inr

/-- A query passes validation exactly when it compiles, or fails to parse, or has too many clauses.
-/
theorem validate_eq_ok_iff_compile :
    policy.validate query = .ok () ↔
      (∃ compiled, compile policy target query = .ok compiled) ∨
      (∃ error, compile policy target query = .error (.parse error)) ∨
      ∃ count max,
        compile policy target query = .error (.rejected (.tooManyClauses count max)) := by
  refine ⟨fun passed => compile_of_validate passed target, fun outcome => ?_⟩
  cases failed : policy.validate query with
  | ok _ => rfl
  | error rejection =>
      rw [compile_eq_rejected_of_validate failed target] at outcome
      rcases outcome with ⟨_, other⟩ | ⟨_, other⟩ | ⟨count, max, same⟩
      · cases other
      · cases other
      · cases same
        exact (Policy.ne_tooManyClauses_of_validate failed count max rfl).elim

private theorem eq_tooManyClauses_of_compile (passed : policy.validate query = .ok ())
    (refused : compile policy target query = .error (.rejected rejection)) :
    ∃ count max, rejection = .tooManyClauses count max := by
  have outcome := compile_of_validate passed target
  rw [refused] at outcome
  rcases outcome with ⟨_, other⟩ | ⟨_, other⟩ | ⟨count, max, same⟩
  · cases other
  · cases other
  · cases same
    exact ⟨count, max, rfl⟩

/-- A refusal for anything but the clauses is one that validation makes as well. -/
theorem validate_eq_error_of_compile
    (refused : compile policy target query = .error (.rejected rejection))
    (early : ∀ count max, rejection ≠ .tooManyClauses count max) :
    policy.validate query = .error rejection := by
  cases outcome : policy.validate query with
  | error reported =>
      rw [compile_eq_rejected_of_validate outcome target] at refused
      cases refused
      rfl
  | ok _ =>
      obtain ⟨count, max, same⟩ := eq_tooManyClauses_of_compile outcome refused
      exact (early count max same).elim

/-- Validation and the stages of a search agree on every text. They refuse it for the first limit
that it exceeds, with the same measure and limit, and only a search can find too many clauses. A
text with too many characters or tokens is refused for that even if it does not parse. -/
theorem validate_agrees_with_stages (policy : Policy) (target : Target) (query : String) :
    (∀ rejection, policy.validate query = .error rejection ↔
      compile policy target query = .error (.rejected rejection) ∧
        ∀ count max, rejection ≠ .tooManyClauses count max) ∧
    (∀ rejection, policy.validate query = .error rejection ↔
      parse policy query = .error (.rejected rejection) ∧
        ∀ count max, rejection ≠ .tooManyClauses count max) ∧
    (policy.validate query = .ok () ↔
      (∃ compiled, compile policy target query = .ok compiled) ∨
      (∃ error, compile policy target query = .error (.parse error)) ∨
      ∃ count max, compile policy target query = .error (.rejected (.tooManyClauses count max))) ∧
    (∀ rejection, policy.validate query = .error rejection ↔
      policy.FirstExceeded query rejection) ∧
    ∀ error,
      compile policy target query = .error (.parse error) ∨
          parse policy query = .error (.parse error) →
        query.length ≤ policy.maxQueryLength.toNat ∧
          (tokenize query).length ≤ policy.maxTokenCount.toNat := by
  refine ⟨fun rejection => ⟨fun failed => ?_, fun ⟨refused, early⟩ => ?_⟩,
    fun rejection => ⟨fun failed => ?_, fun ⟨refused, _⟩ => ?_⟩, validate_eq_ok_iff_compile,
    fun rejection => Policy.validate_eq_error_iff, fun error syntactic => ?_⟩
  · exact ⟨compile_eq_rejected_of_validate failed target,
      Policy.ne_tooManyClauses_of_validate failed⟩
  · exact validate_eq_error_of_compile refused early
  · exact ⟨parse_eq_rejected_iff.mpr failed, Policy.ne_tooManyClauses_of_validate failed⟩
  · exact parse_eq_rejected_iff.mp refused
  · apply Policy.length_le_of_validate
    rcases syntactic with failed | failed
    · exact (compile_eq_syntax_iff.mp failed).1
    · exact (parse_eq_syntax_iff.mp failed).1

/-- A text of five characters that does not parse is refused by a limit of three. -/
theorem validate_agrees_with_stages_long_and_malformed :
    let policy : Policy := { maxQueryLength := 3 }
    policy.validate "a AND" = .error (.queryTooLong 5 3) ∧
      compile policy ⟨"Tickets", "Priority"⟩ "a AND" = .error (.rejected (.queryTooLong 5 3)) ∧
      parse policy "a AND" = .error (.rejected (.queryTooLong 5 3)) ∧
      policy.FirstExceeded "a AND" (.queryTooLong 5 3) := by
  intro policy
  have failed : policy.validate "a AND" = .error (.queryTooLong 5 3) := rfl
  obtain ⟨compiled, parsed, _, first, _⟩ :=
    validate_agrees_with_stages policy ⟨"Tickets", "Priority"⟩ "a AND"
  exact ⟨failed, ((compiled _).mp failed).1, ((parsed _).mp failed).1, (first _).mp failed⟩

private theorem compile_of_looser (bound : policy.NoLooserThan looser) {compiled : Compiled}
    (success : compile policy target query = .ok compiled) :
    ∃ again, compile looser target query = .ok again ∧ again.filters = compiled.filters := by
  obtain ⟨expr, read, computed, built⟩ := exists_expr_of_compile success
  obtain ⟨_, fits⟩ := Expr.eq_clauses_of_clausesWithin computed
  have passed := Policy.validate_of_noLooserThan bound
    (validate_eq_ok_iff_compile.mpr (.inl ⟨compiled, success⟩))
  have stillFits := Nat.le_trans fits (UInt64.le_iff_toNat_le.mp bound.clauses)
  obtain ⟨again, recompiled, filters⟩ :=
    compile_of_clauses_le (parse_eq_ok_iff.mpr ⟨passed, read⟩) stillFits
  refine ⟨again, recompiled, ?_⟩
  rw [ofClauses_of_parse read] at built
  rw [filters, Except.ok.inj built]

private theorem syntax_error_of_looser (bound : policy.NoLooserThan looser)
    (failed : compile policy target query = .error (.parse error)) :
    compile looser target query = .error (.parse error) := by
  obtain ⟨passed, unread⟩ := compile_eq_syntax_iff.mp failed
  exact compile_eq_syntax_iff.mpr ⟨Policy.validate_of_noLooserThan bound passed, unread⟩

/-- Higher limits change neither the filters of a search nor the error of a text that does not
parse. Under the unbounded policy, only the number of clauses of a text with fewer than `2 ^ 64`
characters can be refused. -/
theorem loosening_keeps_outcomes {policy looser : Policy} (bound : policy.NoLooserThan looser)
    (target : Target) (query : String) :
    (∀ compiled, compile policy target query = .ok compiled →
      ∃ again, compile looser target query = .ok again ∧ again.filters = compiled.filters) ∧
    (∀ error, compile policy target query = .error (.parse error) →
      compile looser target query = .error (.parse error)) ∧
    (query.length < UInt64.size →
      Policy.unbounded.checkLength query = .ok () ∧
      Policy.unbounded.checkTokens (tokenize query) = .ok () ∧
      (∀ expr, Expr.parse (tokenize query) = .ok expr →
        Policy.unbounded.checkLeaves expr = .ok ()) ∧
      ∀ rejection, compile .unbounded target query = .error (.rejected rejection) →
        ∃ count max, rejection = .tooManyClauses count max) := by
  refine ⟨fun compiled success => ?_, fun error failed => ?_, fun short => ?_⟩
  · exact compile_of_looser bound success
  · exact syntax_error_of_looser bound failed
  have none := Policy.not_exceeded_unbounded short
  refine ⟨?_, ?_, ?_, ?_⟩
  · exact Policy.checkLength_eq_ok_iff.mpr (Nat.not_lt.mp fun long => none _ (.length long))
  · exact Policy.checkTokens_eq_ok_iff.mpr (Nat.not_lt.mp fun many => none _ (.tokens many))
  · intro expr parsed
    exact Policy.checkLeaves_eq_ok_iff.mpr (Nat.not_lt.mp fun many => none _ (.leaves parsed many))
  · exact fun _ => eq_tooManyClauses_of_compile (Policy.validate_eq_ok_iff.mpr none)

/-- A search that reaches all four limits has the same filters under the default limits. -/
theorem loosening_keeps_outcomes_at_limits :
    let policy : Policy :=
      { maxQueryLength := 8, maxTokenCount := 4, maxLeafCount := 3, maxClauseCount := 2 }
    policy.NoLooserThan {} ∧
    ∃ compiled again,
      compile policy ⟨"Tickets", "Priority"⟩ "a OR b c" = .ok compiled ∧
      compile {} ⟨"Tickets", "Priority"⟩ "a OR b c" = .ok again ∧
      again.filters = compiled.filters := by
  intro policy
  have bound : policy.NoLooserThan {} := ⟨by decide, by decide, by decide, by decide⟩
  have success : compile policy ⟨"Tickets", "Priority"⟩ "a OR b c" =
      .ok ⟨.many [.ofTests ⟨"Tickets", "Priority"⟩ .or [⟨.contains, "a"⟩, ⟨.contains, "b"⟩],
        .ofTests ⟨"Tickets", "Priority"⟩ .or [⟨.contains, "a"⟩, ⟨.contains, "c"⟩]], none⟩ := by
    decide +kernel
  obtain ⟨again, recompiled, same⟩ := (loosening_keeps_outcomes bound _ _).1 _ success
  exact ⟨bound, _, again, success, recompiled, same⟩

end Search

end ColumnSearch
