import ColumnSearch.Proofs.Predicate.Meaning

/-!
# The entries of predicates

The entries of a predicate are its text tests, or the values of its equality list. The predicates of
a list of clauses have an entry for every condition of every clause, and no others: a test for any
condition, and a value for exact ones only.
-/

namespace ColumnSearch

namespace Condition

variable {condition : Condition}

/-- An exact condition carries no sign. -/
theorem polarity_of_isExact (exact : condition.isExact = true) : condition.polarity = .neutral := by
  rw [isExact, Bool.and_eq_true, beq_iff_eq] at exact
  exact exact.1

/-- A barred condition names no exact value. -/
theorem isExact_of_isExcluded (excluded : condition.isExcluded = true) :
    condition.isExact = false := by
  rw [isExcluded, beq_iff_eq] at excluded
  rw [Bool.eq_false_iff]
  intro exact
  rw [polarity_of_isExact exact] at excluded
  cases excluded

end Condition

namespace Predicate

/-- The text tests of a predicate. -/
def tests : Predicate → List TextTest
  | equality .. => []
  | boolean _ _ _ _ tests => tests

/-- The values of an equality list. -/
def values : Predicate → List Value
  | equality _ _ _ values => values
  | boolean .. => []

variable {target : Target} {clause : Clause} {clauses : List Clause} {predicate : Predicate}

/-- A predicate of clauses joins conditions of clauses, in text tests or in an equality list. -/
theorem eq_of_mem_ofClauses (member : predicate ∈ ofClauses target clauses) :
    ∃ conditions : List Condition,
      (∀ condition ∈ conditions, ∃ clause ∈ clauses, condition ∈ clause) ∧
        ((∃ op, predicate = ofTests target op (conditions.map TextTest.ofCondition)) ∨
          (∀ condition ∈ conditions, condition.isExact = true) ∧
            predicate = ofValues target (conditions.map Condition.exactValue)) := by
  rcases List.mem_append.mp member with single | longer
  · refine ⟨(clauses.filter (·.length == 1)).flatten, ?_, .inl ⟨.and, ?_⟩⟩
    · intro condition inside
      obtain ⟨clause, found, inside⟩ := List.mem_flatten.mp inside
      exact ⟨clause, (List.mem_filter.mp found).1, inside⟩
    · rcases ofSingles_cases target clauses with ⟨_, same⟩ | ⟨_, same⟩
      · rw [same] at single
        cases single
      · rw [same] at single
        exact List.mem_singleton.mp single
  · obtain ⟨clause, found, rfl⟩ := List.mem_map.mp longer
    refine ⟨clause, fun condition inside => ⟨clause, (List.mem_filter.mp found).1, inside⟩, ?_⟩
    unfold ofClause
    split
    · rename_i exact
      exact .inr ⟨List.all_eq_true.mp exact, rfl⟩
    · exact .inl ⟨.or, rfl⟩

/-- Every condition of a clause has an entry in the predicate of the clause. -/
theorem entry_of_mem_clause {condition : Condition} (inside : condition ∈ clause) :
    TextTest.ofCondition condition ∈ (ofClause target clause).tests ∨
      condition.isExact = true ∧ condition.exactValue ∈ (ofClause target clause).values := by
  unfold ofClause
  split
  · rename_i exact
    exact .inr ⟨List.all_eq_true.mp exact condition inside, List.mem_map_of_mem inside⟩
  · exact .inl (List.mem_map_of_mem inside)

/-- Every condition of every clause has an entry in a predicate. -/
theorem exists_entry_of_mem {condition : Condition} (member : clause ∈ clauses)
    (inside : condition ∈ clause) :
    ∃ predicate ∈ ofClauses target clauses,
      TextTest.ofCondition condition ∈ predicate.tests ∨
        condition.isExact = true ∧ condition.exactValue ∈ predicate.values := by
  cases one : clause.length == 1 with
  | true =>
      have found : clause ∈ clauses.filter (·.length == 1) := List.mem_filter.mpr ⟨member, one⟩
      refine ⟨ofTests target .and
        ((clauses.filter (·.length == 1)).flatten.map TextTest.ofCondition), ?_, .inl ?_⟩
      · apply List.mem_append_left
        rcases ofSingles_cases target clauses with ⟨none, _⟩ | ⟨_, same⟩
        · rw [none] at found
          cases found
        · rw [same]
          exact List.mem_singleton_self _
      · exact List.mem_map_of_mem (List.mem_flatten_of_mem found inside)
  | false =>
      have found : clause ∈ clauses.filter (·.length != 1) :=
        List.mem_filter.mpr ⟨member, by rw [bne, one, Bool.not_false]⟩
      exact ⟨ofClause target clause, List.mem_append_right _ (List.mem_map_of_mem found),
        entry_of_mem_clause inside⟩

/-- Every text test is that of a condition of a clause. -/
theorem exists_condition_of_mem_tests (member : predicate ∈ ofClauses target clauses)
    {test : TextTest} (inside : test ∈ predicate.tests) :
    ∃ clause ∈ clauses, ∃ condition ∈ clause, test = TextTest.ofCondition condition := by
  obtain ⟨conditions, origin, ⟨op, rfl⟩ | ⟨_, rfl⟩⟩ := eq_of_mem_ofClauses member
  · obtain ⟨condition, listed, rfl⟩ := List.mem_map.mp inside
    obtain ⟨clause, found, inside⟩ := origin condition listed
    exact ⟨clause, found, condition, inside, rfl⟩
  · cases inside

/-- Every value of an equality list is that of an exact condition of a clause. -/
theorem exists_condition_of_mem_values (member : predicate ∈ ofClauses target clauses)
    {value : Value} (inside : value ∈ predicate.values) :
    ∃ clause ∈ clauses, ∃ condition ∈ clause,
      condition.isExact = true ∧ value = condition.exactValue := by
  obtain ⟨conditions, origin, ⟨op, rfl⟩ | ⟨exact, rfl⟩⟩ := eq_of_mem_ofClauses member
  · cases inside
  · obtain ⟨condition, listed, rfl⟩ := List.mem_map.mp inside
    obtain ⟨clause, found, inside⟩ := origin condition listed
    exact ⟨clause, found, condition, inside, exact condition listed, rfl⟩

end Predicate

end ColumnSearch
