import ColumnSearch.Proofs.Number
import ColumnSearch.Proofs.Predicate.Layout

/-!
# The values of equality lists

The equality lists among the filters of clauses stand for the clauses that name values, in their
order, and the values of a list for the conditions of its clause. The value of a quoted condition is
a text. The value of a bare literal is a number, unless its magnitude is too large for doubles.
-/

namespace ColumnSearch

instance : DecidablePred Clause.NamesValues := fun clause =>
  inferInstanceAs (Decidable (2 ≤ clause.length ∧ ∀ condition ∈ clause, condition.isExact = true))

/-- Every value of every equality list is related to the condition that it comes from. -/
def FilterSet.ListsAs (related : Condition → Value → Prop) (clauses : List Clause)
    (filters : FilterSet) : Prop :=
  List.Forall₂ (fun clause predicate => List.Forall₂ related clause predicate.values)
    (clauses.filter (Clause.NamesValues ·)) (filters.toList.filter Predicate.isEquality)

variable {target : Target} {clauses : List Clause} {filters : FilterSet}

namespace Predicate

private theorem isEquality_ofClause (target : Target) (clause : Clause) :
    (ofClause target clause).isEquality = clause.all Condition.isExact := by
  unfold ofClause
  split
  · rename_i exact
    exact exact.symm
  · rename_i inexact
    exact (Bool.eq_false_iff.mpr inexact).symm

private theorem values_ofClause {clause : Clause} (named : clause.NamesValues) :
    (ofClause target clause).values = clause.map Condition.exactValue := by
  rw [ofClause, if_pos (List.all_eq_true.mpr named.2)]
  rfl

private theorem filter_isEquality_ofSingles (target : Target) (clauses : List Clause) :
    (ofSingles target clauses).filter isEquality = [] := by
  rcases ofSingles_cases target clauses with ⟨_, same⟩ | ⟨_, same⟩
  · rw [same]
    rfl
  · rw [same]
    rfl

/-- The equality lists are the predicates of the clauses that name values. -/
theorem filter_isEquality_ofClauses (filled : [] ∉ clauses) :
    (ofClauses target clauses).filter isEquality =
      (clauses.filter (Clause.NamesValues ·)).map (ofClause target) := by
  have named : clauses.filter (Clause.NamesValues ·) =
      (clauses.filter (2 ≤ ·.length)).filter (isEquality ∘ ofClause target) := by
    rw [List.filter_filter]
    apply List.filter_congr
    intro clause _
    rw [Function.comp_apply, isEquality_ofClause, Bool.eq_iff_iff, decide_eq_true_iff,
      Bool.and_eq_true, decide_eq_true_iff, List.all_eq_true, and_comm]
    rfl
  rw [ofClauses, List.filter_append, filter_isEquality_ofSingles, List.nil_append,
    filter_length_ne_one filled, List.filter_map, named]

end Predicate

/-- Values are related to their conditions if the value that each condition names is. -/
theorem FilterSet.listsAs_iff {related : Condition → Value → Prop}
    (success : ofClauses target clauses = .ok filters) :
    filters.ListsAs related clauses ↔
      ∀ clause ∈ clauses, clause.NamesValues →
        ∀ condition ∈ clause, related condition condition.exactValue := by
  obtain ⟨_, filled, rfl⟩ := ofClauses_eq_ok_iff.mp success
  rw [ListsAs, toList_ofList, Predicate.filter_isEquality_ofClauses filled,
    List.forall₂_map_right_iff, List.forall₂_same]
  simp only [List.mem_filter, decide_eq_true_eq, and_imp]
  refine forall₂_congr fun clause _ => forall_congr' fun named => ?_
  rw [Predicate.values_ofClause named, List.forall₂_map_right_iff, List.forall₂_same]

/-- How a condition stands in an equality list: a phrase as a text, and a literal as the number that
it denotes, or as a text if its magnitude is too large for doubles. -/
inductive Condition.Lists (condition : Condition) : Value → Prop where
  | phrase (quoted : condition.quoted = true) : Lists condition (.text condition.value)
  | number {number : Number} (bare : condition.quoted = false)
    (within : Number.spelledMagnitude condition.value < 2 ^ 1024 - 2 ^ 970)
    (found : Number.parse? condition.value = some number) : Lists condition (.number number)
  | overflow (bare : condition.quoted = false)
    (literal : Number.isLiteral condition.value = true)
    (beyond : 2 ^ 1024 - 2 ^ 970 ≤ Number.spelledMagnitude condition.value) :
    Lists condition (.text condition.value)

namespace Condition

variable {condition : Condition} {value : Value}

/-- An exact value without quotes is a numeric literal. -/
theorem isLiteral_of_isExact (exact : condition.isExact = true) (bare : condition.quoted = false) :
    Number.isLiteral condition.value = true := by
  rw [isExact, bare, Bool.false_or, Bool.and_eq_true] at exact
  exact exact.2

/-- The exact value of a condition is one that the condition lists. -/
theorem lists_exactValue (exact : condition.isExact = true) :
    condition.Lists condition.exactValue := by
  unfold exactValue
  split
  · rename_i quoted
    exact .phrase quoted
  · rename_i unquoted
    have bare := Bool.eq_false_iff.mpr unquoted
    have literal := isLiteral_of_isExact exact bare
    have overflow := Number.parse?_eq_none_iff literal
    cases found : Number.parse? condition.value with
    | none => exact .overflow bare literal (overflow.mp found)
    | some number =>
        refine .number bare (not_le.mp fun beyond => ?_) found
        cases found.symm.trans (overflow.mpr beyond)

/-- The texts of equality lists are phrases, and literals that are too large for doubles. -/
theorem Lists.exists_text_iff (lists : condition.Lists value) :
    (∃ text, value = .text text) ↔
      condition.quoted = true ∨
        2 ^ 1024 - 2 ^ 970 ≤ Number.spelledMagnitude condition.value := by
  cases lists with
  | phrase quoted => exact iff_of_true ⟨_, rfl⟩ (.inl quoted)
  | overflow _ _ beyond => exact iff_of_true ⟨_, rfl⟩ (.inr beyond)
  | number bare within _ =>
      refine iff_of_false nofun (not_or.mpr ⟨?_, not_le.mpr within⟩)
      rw [bare]
      exact Bool.false_ne_true

end Condition

end ColumnSearch
