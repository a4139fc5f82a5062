import ColumnSearch.Predicate.Compile

/-!
# The meaning of filters

What a filter says about a row depends on which texts the filtered column contains and which values
it equals. The predicates of a list of clauses say what the clauses say, provided that the column
equals the value of an exact condition just when it contains the text of the condition.
-/

namespace ColumnSearch

variable (contains : String → Bool) (equals : Value → Bool)

/-- The condition holds of a column that contains the given texts. -/
def Condition.holds (condition : Condition) : Bool :=
  if condition.isExcluded then !contains condition.value else contains condition.value

/-- The test succeeds on a column that contains the given texts. -/
def TextTest.holds (test : TextTest) : Bool :=
  match test.operator with
  | .contains => contains test.value
  | .doesNotContain => !contains test.value

/-- The predicate holds of a column that contains the given texts and equals the given values. -/
def Predicate.holds : Predicate → Bool
  | equality _ _ _ values => values.any equals
  | boolean _ _ _ .and tests => tests.all (TextTest.holds contains)
  | boolean _ _ _ .or tests => tests.any (TextTest.holds contains)

/-- All predicates of the filter set hold. -/
def FilterSet.holds (filters : FilterSet) : Bool :=
  filters.toList.all (Predicate.holds contains equals)

/-- A filter set made from a list of predicates lists them. -/
@[simp]
theorem FilterSet.toList_ofList (predicates : List Predicate) :
    (FilterSet.ofList predicates).toList = predicates := by
  match predicates with
  | [] => rfl
  | [_] => rfl
  | _ :: _ :: _ => rfl

@[simp]
private theorem TextTest.holds_ofCondition (condition : Condition) :
    (TextTest.ofCondition condition).holds contains = condition.holds contains := by
  unfold TextTest.holds TextTest.ofCondition Condition.holds Containment.ofExclusion
  cases condition.isExcluded with
  | true => rfl
  | false => rfl

private theorem Condition.holds_of_isExact {condition : Condition}
    (eligible : condition.isExact = true) :
    condition.holds contains = contains condition.value := by
  have neutral : condition.polarity = .neutral := by
    rw [Condition.isExact, Bool.and_eq_true, beq_iff_eq] at eligible
    exact eligible.1
  have included : condition.isExcluded = false := by
    rw [Condition.isExcluded, neutral]
    rfl
  simp only [Condition.holds, included, Bool.false_eq_true, ↓reduceIte]

namespace Predicate

variable {contains equals} (target : Target)

/-- The predicate of a clause has the meaning of the clause. -/
theorem holds_ofClause {clause : Clause}
    (agree : ∀ condition ∈ clause, condition.isExact = true →
      equals condition.exactValue = contains condition.value) :
    (ofClause target clause).holds contains equals = clause.any (Condition.holds contains) := by
  unfold ofClause
  split
  · rename_i eligible
    rw [List.all_eq_true] at eligible
    rw [ofValues, holds, List.any_map, Bool.eq_iff_iff, List.any_eq_true, List.any_eq_true]
    refine exists_congr fun condition => and_congr_right fun member => ?_
    rw [Function.comp_apply, agree condition member (eligible condition member),
      Condition.holds_of_isExact contains (eligible condition member)]
  · rw [ofTests, holds, List.any_map]
    exact List.any_congr rfl (TextTest.holds_ofCondition contains)

/-- The clauses with one condition, if there are any, are gathered in one predicate. -/
theorem ofSingles_cases (clauses : List Clause) :
    clauses.filter (·.length == 1) = [] ∧ ofSingles target clauses = [] ∨
      clauses.filter (·.length == 1) ≠ [] ∧ ofSingles target clauses =
        [ofTests target .and
          ((clauses.filter (·.length == 1)).flatten.map TextTest.ofCondition)] := by
  unfold ofSingles
  split
  · rename_i none
    exact .inl ⟨none, rfl⟩
  · rename_i some
    exact .inr ⟨some, rfl⟩

/-- The predicate that gathers the clauses with one condition has their meaning. -/
theorem holds_ofSingles (clauses : List Clause) :
    (ofSingles target clauses).all (holds contains equals) =
      (clauses.filter (·.length == 1)).all (·.any (Condition.holds contains)) := by
  have gathered : (ofSingles target clauses).all (holds contains equals) =
      (clauses.filter (·.length == 1)).flatten.all (Condition.holds contains) := by
    rcases ofSingles_cases target clauses with ⟨none, same⟩ | ⟨_, same⟩
    · rw [none, same]
      rfl
    · rw [same, List.all_cons, List.all_nil, Bool.and_true, ofTests, holds, List.all_map]
      exact List.all_congr rfl (TextTest.holds_ofCondition contains)
  rw [gathered, List.all_flatten, Bool.eq_iff_iff, List.all_eq_true, List.all_eq_true]
  -- With one condition, a conjunction and a disjunction say the same.
  refine forall₂_congr fun clause member => ?_
  have one : clause.length = 1 := by
    simpa only [beq_iff_eq] using (List.mem_filter.mp member).2
  obtain ⟨condition, rfl⟩ := List.length_eq_one_iff.mp one
  rw [List.all_cons, List.any_cons, List.all_nil, List.any_nil, Bool.and_true, Bool.or_false]

/-- The predicates of clauses have the meaning of the clauses. -/
theorem holds_ofClauses {clauses : List Clause}
    (agree : ∀ clause ∈ clauses, ∀ condition ∈ clause, condition.isExact = true →
      equals condition.exactValue = contains condition.value) :
    (ofClauses target clauses).all (holds contains equals) =
      clauses.all (·.any (Condition.holds contains)) := by
  rw [ofClauses, List.all_append, holds_ofSingles, List.all_map, Bool.eq_iff_iff,
    Bool.and_eq_true, List.all_eq_true, List.all_eq_true, List.all_eq_true]
  have longer : ∀ clause ∈ clauses, (ofClause target clause).holds contains equals =
      clause.any (Condition.holds contains) :=
    fun clause member => holds_ofClause target (agree clause member)
  constructor
  · rintro ⟨singles, others⟩ clause member
    cases one : clause.length == 1 with
    | true => exact singles clause (List.mem_filter.mpr ⟨member, one⟩)
    | false =>
        rw [← longer clause member]
        exact others clause (List.mem_filter.mpr ⟨member, by rw [bne, one, Bool.not_false]⟩)
  · intro all
    refine ⟨fun clause member => all clause (List.mem_filter.mp member).1, ?_⟩
    intro clause member
    have inside := (List.mem_filter.mp member).1
    rw [Function.comp_apply, longer clause inside]
    exact all clause inside

end Predicate

/-- The filters of a list of clauses, if it has any, have the meaning of the clauses. -/
theorem FilterSet.holds_of_ofClauses {target : Target} {clauses : List Clause} {filters : FilterSet}
    (success : FilterSet.ofClauses target clauses = .ok filters)
    (agree : ∀ clause ∈ clauses, ∀ condition ∈ clause, condition.isExact = true →
      equals condition.exactValue = contains condition.value) :
    filters.holds contains equals = clauses.all (·.any (Condition.holds contains)) := by
  unfold FilterSet.ofClauses at success
  split at success
  · cases success
  · split at success
    · cases success
    · cases success
      rw [FilterSet.holds, FilterSet.toList_ofList, Predicate.holds_ofClauses target agree]

end ColumnSearch
