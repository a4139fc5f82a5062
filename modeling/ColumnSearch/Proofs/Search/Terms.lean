import ColumnSearch.Proofs.Clause.Presence
import ColumnSearch.Proofs.Expr.Terms
import ColumnSearch.Proofs.Predicate.Entries
import ColumnSearch.Proofs.Predicate.Fault
import ColumnSearch.Proofs.Search.Meaning

/-!
# From the terms of a search to its filters

Between the terms of a search text and the entries of its filters stand the expression and its
clauses, in which conditions are copied and regrouped. None is lost, added or turned around.
-/

namespace ColumnSearch

namespace Search

variable {policy : Policy} {target : Target} {query : String}

/-- The clauses behind the filters of a search hold the conditions of the terms, and no others. -/
theorem exists_clauses_of_compile {compiled : Compiled}
    (success : compile policy target query = .ok compiled) :
    ∃ clauses, compiled.filters.toList = Predicate.ofClauses target clauses ∧
      ∀ condition, (∃ clause ∈ clauses, condition ∈ clause) ↔
        ∃ position, Token.conditionAt? false (tokenize query) position = some condition := by
  obtain ⟨expr, parsed, _, built⟩ := exists_expr_of_compile success
  obtain ⟨_, _, same⟩ := FilterSet.ofClauses_eq_ok_iff.mp built
  refine ⟨expr.clauses, by rw [same, FilterSet.toList_ofList], fun condition => ?_⟩
  rw [← Token.mem_conditions_iff, ← Expr.conditions_of_parse parsed]
  constructor
  · rintro ⟨clause, member, inside⟩
    exact (Expr.sublist_conditions_of_mem_clauses member).subset inside
  · exact Expr.exists_clause_of_mem_conditions
      (Expr.branching_of_parse parsed).noEmptyConjunction

/-- Every term of a search has an entry in its filters: the text test that its condition asks for,
or the value that it names if it is exact. Every entry comes from a term in this way. So only terms
that are barred give tests for absence, and they give nothing else. -/
theorem terms_correspond_to_entries {compiled : Compiled}
    (success : compile policy target query = .ok compiled) :
    (∀ position condition,
      Token.conditionAt? false (tokenize query) position = some condition →
      ∃ predicate ∈ compiled.filters.toList,
        ⟨if condition.isExcluded then .doesNotContain else .contains, condition.value⟩ ∈
            predicate.tests ∨
          condition.isExact = true ∧ condition.exactValue ∈ predicate.values) ∧
    (∀ predicate ∈ compiled.filters.toList, ∀ test ∈ predicate.tests,
      ∃ position condition,
        Token.conditionAt? false (tokenize query) position = some condition ∧
          test = ⟨if condition.isExcluded then .doesNotContain else .contains, condition.value⟩) ∧
    (∀ predicate ∈ compiled.filters.toList, ∀ value ∈ predicate.values,
      ∃ position condition,
        Token.conditionAt? false (tokenize query) position = some condition ∧
          condition.isExact = true ∧ value = condition.exactValue) ∧
    (∀ predicate ∈ compiled.filters.toList, ∀ test ∈ predicate.tests,
      test.operator = .doesNotContain →
      ∃ position condition,
        Token.conditionAt? false (tokenize query) position = some condition ∧
          condition.isExcluded = true ∧ condition.value = test.value) ∧
    ∀ position condition,
      Token.conditionAt? false (tokenize query) position = some condition →
      condition.isExcluded = true →
      condition.isExact = false ∧
        ∃ predicate ∈ compiled.filters.toList,
          ⟨.doesNotContain, condition.value⟩ ∈ predicate.tests := by
  obtain ⟨clauses, built, origin⟩ := exists_clauses_of_compile success
  rw [built]
  have entry : ∀ position condition,
      Token.conditionAt? false (tokenize query) position = some condition →
      ∃ predicate ∈ Predicate.ofClauses target clauses,
        TextTest.ofCondition condition ∈ predicate.tests ∨
          condition.isExact = true ∧ condition.exactValue ∈ predicate.values := by
    intro position condition stands
    obtain ⟨clause, member, inside⟩ := (origin condition).mpr ⟨position, stands⟩
    exact Predicate.exists_entry_of_mem member inside
  have test : ∀ predicate ∈ Predicate.ofClauses target clauses, ∀ test ∈ predicate.tests,
      ∃ position condition,
        Token.conditionAt? false (tokenize query) position = some condition ∧
          test = TextTest.ofCondition condition := by
    intro predicate member test inside
    obtain ⟨clause, found, condition, listed, same⟩ :=
      Predicate.exists_condition_of_mem_tests member inside
    obtain ⟨position, stands⟩ := (origin condition).mp ⟨clause, found, listed⟩
    exact ⟨position, condition, stands, same⟩
  refine ⟨entry, test, ?_, ?_, ?_⟩
  · intro predicate member value inside
    obtain ⟨clause, found, condition, listed, exact, same⟩ :=
      Predicate.exists_condition_of_mem_values member inside
    obtain ⟨position, stands⟩ := (origin condition).mp ⟨clause, found, listed⟩
    exact ⟨position, condition, stands, exact, same⟩
  · intro predicate member barred inside absent
    obtain ⟨position, condition, stands, rfl⟩ := test predicate member barred inside
    refine ⟨position, condition, stands, ?_, rfl⟩
    cases excluded : condition.isExcluded with
    | true => rfl
    | false =>
        rw [TextTest.ofCondition, excluded] at absent
        cases absent
  · intro position condition stands excluded
    have inexact := Condition.isExact_of_isExcluded excluded
    obtain ⟨predicate, member, found | ⟨exact, _⟩⟩ := entry position condition stands
    · refine ⟨inexact, predicate, member, ?_⟩
      rwa [TextTest.ofCondition, excluded] at found
    · rw [inexact] at exact
      cases exact

/-- A number that is barred once and named once is tested for absence, and it is listed as a value
because of the other term. -/
theorem terms_correspond_to_entries_repeated_number :
    ∃ compiled, compile {} ⟨"Tickets", "Priority"⟩ "NOT 7 (\"12\" OR 7)" = .ok compiled ∧
      Token.conditionAt? false (tokenize "NOT 7 (\"12\" OR 7)") 1 =
        some ⟨"7", false, .excluded⟩ ∧
      Token.conditionAt? false (tokenize "NOT 7 (\"12\" OR 7)") 5 =
        some ⟨"7", false, .neutral⟩ ∧
      (∃ predicate ∈ compiled.filters.toList, ⟨.doesNotContain, "7"⟩ ∈ predicate.tests) ∧
      ∃ predicate ∈ compiled.filters.toList,
        ⟨.contains, "7"⟩ ∈ predicate.tests ∨ Value.number (.signed 7) ∈ predicate.values := by
  have lexed : tokenize "NOT 7 (\"12\" OR 7)" =
      [⟨.operator, "NOT"⟩, ⟨.word, "7"⟩, ⟨.paren, "("⟩, ⟨.quoted, "12"⟩, ⟨.operator, "OR"⟩,
        ⟨.word, "7"⟩, ⟨.paren, ")"⟩] := by
    decide +kernel
  have success : compile {} ⟨"Tickets", "Priority"⟩ "NOT 7 (\"12\" OR 7)" =
      .ok ⟨.many [.ofTests ⟨"Tickets", "Priority"⟩ .and [⟨.doesNotContain, "7"⟩],
        .ofValues ⟨"Tickets", "Priority"⟩ [.text "12", .number (.signed 7)]], none⟩ := by
    rw [compile, tokens, lexed]
    rfl
  have barred : Token.conditionAt? false (tokenize "NOT 7 (\"12\" OR 7)") 1 =
      some ⟨"7", false, .excluded⟩ := by
    rw [lexed]
    rfl
  have named : Token.conditionAt? false (tokenize "NOT 7 (\"12\" OR 7)") 5 =
      some ⟨"7", false, .neutral⟩ := by
    rw [lexed]
    rfl
  have value : Condition.exactValue ⟨"7", false, .neutral⟩ = .number (.signed 7) := rfl
  obtain ⟨entry, _, _, _, absence⟩ := terms_correspond_to_entries success
  obtain ⟨predicate, member, found⟩ := entry 5 _ named
  refine ⟨_, success, barred, named, (absence 1 _ barred rfl).2, predicate, member, ?_⟩
  rw [value] at found
  exact found.imp id And.right

end Search

end ColumnSearch
