import ColumnSearch.Proofs.Predicate.Layout
import ColumnSearch.Proofs.Search.ClauseCount
import ColumnSearch.Proofs.Search.Outcome

/-!
# The sizes of searches

Every token takes at least one character, every condition a token of its own, and filters only
merge clauses. So the sizes of a search bound each other, and a limit that is no lower than the one
checked before it refuses nothing.
-/

namespace ColumnSearch

namespace Predicate

variable {clauses : List Clause}

private theorem length_ofSingles (target : Target) (clauses : List Clause) :
    (ofSingles target clauses).length = if ∃ clause ∈ clauses, clause.length = 1 then 1 else 0 := by
  have single : (∃ clause ∈ clauses, clause.length = 1) ↔ clauses.filter (·.length == 1) ≠ [] := by
    simp [List.filter_eq_nil_iff]
  rcases ofSingles_cases target clauses with ⟨none, same⟩ | ⟨some, same⟩
  · rw [same, if_neg (mt single.mp (not_not.mpr none))]
    rfl
  · rw [same, if_pos (single.mpr some)]
    rfl

/-- The clauses with several conditions have a predicate each, and the others share one. -/
theorem length_ofClauses (target : Target) (filled : [] ∉ clauses) :
    (ofClauses target clauses).length =
      clauses.countP (2 ≤ ·.length) +
        if ∃ clause ∈ clauses, clause.length = 1 then 1 else 0 := by
  rw [ofClauses, List.length_append, List.length_map, filter_length_ne_one filled,
    length_ofSingles, List.countP_eq_length_filter, Nat.add_comm]

private theorem length_ofClauses_le (target : Target) (filled : [] ∉ clauses) :
    (ofClauses target clauses).length ≤ clauses.length := by
  rw [length_ofClauses target filled]
  split
  · rename_i single
    obtain ⟨clause, member, one⟩ := single
    apply Nat.lt_of_le_of_ne List.countP_le_length
    intro all
    have several := of_decide_eq_true (List.countP_eq_length.mp all clause member)
    omega
  · exact List.countP_le_length

end Predicate

namespace Search

/-- Neither validation nor any stage of the search refuses the text for the given reason. -/
structure NeverRefusedFor (policy : Policy) (target : Target) (query : String)
    (rejection : Rejection) : Prop where
  validate : policy.validate query ≠ .error rejection
  tokens : tokens policy query ≠ .error (.rejected rejection)
  parse : parse policy query ≠ .error (.rejected rejection)
  clauses : clauses policy query ≠ .error (.rejected rejection)
  compile : compile policy target query ≠ .error (.rejected rejection)
  filters : filters policy target query ≠ .error (.rejected rejection)

variable {policy : Policy} {query : String} {rejection : Rejection}

/-- The stages refuse a text for its tokens or its conditions only if validation does. -/
theorem neverRefusedFor_of_validate (accepted : policy.validate query ≠ .error rejection)
    (early : ∀ count max, rejection ≠ .tooManyClauses count max) (target : Target) :
    NeverRefusedFor policy target query rejection := by
  have compile : Search.compile policy target query ≠ .error (.rejected rejection) :=
    fun refused => accepted (validate_eq_error_of_compile refused early)
  have clauses := mt compile_eq_error_of_clauses compile
  have parse := mt clauses_eq_error_of_parse clauses
  exact ⟨accepted, mt parse_eq_error_of_tokens parse, parse, clauses, compile,
    mt filters_eq_error_iff.mp compile⟩

private theorem validate_ne_tooManyTokens (covered : policy.maxQueryLength ≤ policy.maxTokenCount)
    (count max : Nat) : policy.validate query ≠ .error (.tooManyTokens count max) := by
  intro refused
  obtain ⟨exceeded, first⟩ := Policy.firstExceeded_of_validate refused
  cases exceeded with
  | tokens many =>
      have short : query.length ≤ policy.maxQueryLength.toNat :=
        Nat.not_lt.mp fun long => Nat.not_succ_le_zero 0 (first _ (.length long))
      have most : policy.maxQueryLength.toNat ≤ policy.maxTokenCount.toNat :=
        UInt64.le_iff_toNat_le.mp covered
      have tokens := length_tokenize_le query
      omega

private theorem validate_ne_tooManyLeaves (covered : policy.maxTokenCount ≤ policy.maxLeafCount)
    (count max : Nat) : policy.validate query ≠ .error (.tooManyLeaves count max) := by
  intro refused
  obtain ⟨exceeded, first⟩ := Policy.firstExceeded_of_validate refused
  cases exceeded with
  | leaves parsed many =>
      have few : (tokenize query).length ≤ policy.maxTokenCount.toNat :=
        Nat.not_lt.mp fun long => Nat.not_succ_le_self 1 (first _ (.tokens long))
      have most : policy.maxTokenCount.toNat ≤ policy.maxLeafCount.toNat :=
        UInt64.le_iff_toNat_le.mp covered
      have leaves := Expr.leafCount_le_of_parse parsed
      rw [Expr.leafCount_eq_length_conditions] at leaves
      omega

private theorem leafCount_pos_of_parse {tokens : List Token} {expr : Expr}
    (parsed : Expr.parse tokens = .ok expr) : 1 ≤ expr.leafCount := by
  obtain ⟨nonempty, filled⟩ := Expr.clauses_of_parse parsed
  obtain ⟨clause, member⟩ := List.exists_mem_of_ne_nil _ nonempty
  have within := (Expr.sublist_conditions_of_mem_clauses member).length_le
  have condition := List.length_pos_of_ne_nil (filled clause member)
  rw [Expr.leafCount_eq_length_conditions]
  omega

/-- A search has no more clauses than its policy allows. -/
theorem length_le_of_clauses {found : List Clause} (normalized : clauses policy query = .ok found) :
    found.length ≤ policy.maxClauseCount.toNat := by
  obtain ⟨expr, _, within⟩ := Except.bind_eq_ok_iff.mp normalized
  exact (Expr.eq_clauses_of_clausesWithin (Except.mapError_eq_ok_iff.mp within)).2

/-- Clauses have no more filters than there are clauses. -/
theorem length_filters_le {found : List Clause} {filters : FilterSet}
    (built : FilterSet.ofClauses target found = .ok filters) :
    filters.toList.length ≤ found.length := by
  obtain ⟨_, filled, rfl⟩ := FilterSet.ofClauses_eq_ok_iff.mp built
  rw [FilterSet.toList_ofList]
  exact Predicate.length_ofClauses_le target filled

/-- The sizes of a search form a chain: there are no more tokens than characters and no more
conditions than tokens, no more predicates than clauses and no more clauses than the policy allows.
There is a predicate for each clause of several conditions and one for all the others. So the limit
on tokens refuses nothing if it is no lower than the one on characters, and the limit on conditions
refuses nothing if it is no lower than the one on tokens. -/
theorem sizes_form_a_chain (policy : Policy) (target : Target) (query : String) :
    (tokenize query).length ≤ query.length ∧
    (∀ compiled, compile policy target query = .ok compiled →
      ∃ lexed expr found, tokens policy query = .ok lexed ∧ parse policy query = .ok expr ∧
        clauses policy query = .ok found ∧
        (compiled.metrics = if policy.measured then
          some ⟨query.length, lexed.length, expr.leafCount, found.length,
            compiled.filters.toList.length⟩ else none) ∧
        1 ≤ expr.leafCount ∧ expr.leafCount ≤ lexed.length ∧ lexed.length ≤ query.length ∧
        1 ≤ compiled.filters.toList.length ∧ compiled.filters.toList.length ≤ found.length ∧
        found.length ≤ policy.maxClauseCount.toNat ∧
        compiled.filters.toList.length = found.countP (2 ≤ ·.length) +
          if ∃ clause ∈ found, clause.length = 1 then 1 else 0) ∧
    (policy.maxQueryLength ≤ policy.maxTokenCount →
      ∀ count max, NeverRefusedFor policy target query (.tooManyTokens count max)) ∧
    (policy.maxTokenCount ≤ policy.maxLeafCount →
      ∀ count max, NeverRefusedFor policy target query (.tooManyLeaves count max)) := by
  refine ⟨length_tokenize_le query, fun compiled success => ?_, fun covered count max => ?_,
    fun covered count max => ?_⟩
  · obtain ⟨lexed, expr, found, passed, parsed, normalized, built, sizes⟩ :=
      exists_stages_of_compile success
    obtain ⟨_, read⟩ := parse_eq_ok_iff.mp parsed
    obtain ⟨_, _, same⟩ := tokens_eq_ok_iff.mp passed
    obtain ⟨_, filled, filters⟩ := FilterSet.ofClauses_eq_ok_iff.mp built
    have predicates : compiled.filters.toList = Predicate.ofClauses target found := by
      rw [filters, FilterSet.toList_ofList]
    have some := List.length_pos_of_ne_nil (toList_filters_ne_nil success)
    refine ⟨lexed, expr, found, passed, parsed, normalized, sizes, leafCount_pos_of_parse read,
      ?_, ?_, some, length_filters_le built, length_le_of_clauses normalized, ?_⟩
    · rw [← same]
      exact Expr.leafCount_le_of_parse read
    · rw [← same]
      exact length_tokenize_le query
    · rw [predicates]
      exact Predicate.length_ofClauses target filled
  · apply neverRefusedFor_of_validate (validate_ne_tooManyTokens covered count max)
    intro _ _ other
    cases other
  · apply neverRefusedFor_of_validate (validate_ne_tooManyLeaves covered count max)
    intro _ _ other
    cases other

end Search

end ColumnSearch
