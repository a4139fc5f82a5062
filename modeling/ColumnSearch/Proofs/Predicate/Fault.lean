import ColumnSearch.Proofs.Predicate.Meaning

/-!
# Clauses that cannot be compiled

A list of clauses has filters exactly if it has clauses and all its clauses have conditions. A list
without clauses is reported as such, and otherwise the first clause without conditions is named.
-/

namespace ColumnSearch

namespace Predicate

/-- Some clause gives a predicate, so that there is at least one. -/
theorem ofClauses_ne_nil (target : Target) {clauses : List Clause} (nonempty : clauses ≠ []) :
    ofClauses target clauses ≠ [] := by
  intro empty
  obtain ⟨singles, others⟩ := List.append_eq_nil_iff.mp empty
  have single : clauses.filter (·.length == 1) = [] := by
    rcases ofSingles_cases target clauses with ⟨none, _⟩ | ⟨_, same⟩
    · exact none
    · cases singles.symm.trans same
  obtain ⟨clause, rest, rfl⟩ := List.exists_cons_of_ne_nil nonempty
  rw [List.map_eq_nil_iff] at others
  have longer := List.filter_eq_nil_iff.mp single clause List.mem_cons_self
  have shorter := List.filter_eq_nil_iff.mp others clause List.mem_cons_self
  rw [Bool.not_eq_true] at longer shorter
  rw [bne, longer] at shorter
  cases shorter

end Predicate

namespace FilterSet

variable {target : Target} {clauses : List Clause}

private theorem ofClauses_nil : FilterSet.ofClauses target [] = .error .noClauses :=
  rfl

/-- The first clause without conditions is named. -/
theorem ofClauses_of_findIdx?_eq_some {index : Nat}
    (found : clauses.findIdx? List.isEmpty = some index) :
    FilterSet.ofClauses target clauses = .error (.emptyClause index) := by
  cases clauses with
  | nil => cases found
  | cons clause rest =>
      rw [FilterSet.ofClauses, found]
      rfl

private theorem ofClauses_of_findIdx?_eq_none (nonempty : clauses ≠ [])
    (found : clauses.findIdx? List.isEmpty = none) :
    FilterSet.ofClauses target clauses = .ok (.ofList (Predicate.ofClauses target clauses)) := by
  obtain ⟨clause, rest, rfl⟩ := List.exists_cons_of_ne_nil nonempty
  rw [FilterSet.ofClauses, found]
  rfl

private theorem findIdx?_isEmpty_eq_none_iff :
    clauses.findIdx? List.isEmpty = none ↔ [] ∉ clauses := by
  rw [List.findIdx?_eq_none_iff]
  constructor
  · intro filled member
    cases filled [] member
  · intro filled clause member
    cases clause with
    | nil => exact (filled member).elim
    | cons condition rest => rfl

private theorem findIdx?_isEmpty_eq_some_iff {index : Nat} :
    clauses.findIdx? List.isEmpty = some index ↔
      clauses[index]? = some [] ∧ ∀ earlier < index, clauses[earlier]? ≠ some [] := by
  rw [List.findIdx?_eq_some_iff_getElem]
  constructor
  · rintro ⟨inside, empty, first⟩
    refine ⟨List.getElem?_eq_some_iff.mpr ⟨inside, List.isEmpty_iff.mp empty⟩, ?_⟩
    intro earlier before stands
    obtain ⟨_, same⟩ := List.getElem?_eq_some_iff.mp stands
    exact first earlier before (List.isEmpty_iff.mpr same)
  · rintro ⟨stands, first⟩
    obtain ⟨inside, empty⟩ := List.getElem?_eq_some_iff.mp stands
    refine ⟨inside, List.isEmpty_iff.mpr empty, ?_⟩
    intro earlier before bare
    exact first earlier before (List.getElem?_eq_some_iff.mpr
      ⟨Nat.lt_trans before inside, List.isEmpty_iff.mp bare⟩)

/-- Filters are found exactly if there are clauses and none of them is empty. -/
theorem ofClauses_eq_ok_iff {filters : FilterSet} :
    FilterSet.ofClauses target clauses = .ok filters ↔
      clauses ≠ [] ∧ [] ∉ clauses ∧ filters = .ofList (Predicate.ofClauses target clauses) := by
  by_cases empty : clauses = []
  · subst empty
    simp only [ofClauses_nil, reduceCtorEq, ne_eq, not_true_eq_false, false_and]
  · rw [← findIdx?_isEmpty_eq_none_iff]
    cases found : clauses.findIdx? List.isEmpty with
    | none =>
        rw [ofClauses_of_findIdx?_eq_none empty found, Except.ok.injEq, eq_comm]
        exact ⟨fun same => ⟨empty, rfl, same⟩, fun compiled => compiled.2.2⟩
    | some index =>
        rw [ofClauses_of_findIdx?_eq_some found]
        simp only [reduceCtorEq, false_and, and_false]

/-- The lack of clauses is reported exactly when there are none. -/
theorem ofClauses_eq_noClauses_iff :
    FilterSet.ofClauses target clauses = .error .noClauses ↔ clauses = [] := by
  refine ⟨fun failed => ?_, fun empty => empty ▸ ofClauses_nil⟩
  cases found : clauses.findIdx? List.isEmpty with
  | some index => cases failed.symm.trans (ofClauses_of_findIdx?_eq_some found)
  | none =>
      by_cases empty : clauses = []
      · exact empty
      · cases failed.symm.trans (ofClauses_of_findIdx?_eq_none empty found)

/-- The empty clause that is reported is the first one. -/
theorem ofClauses_eq_emptyClause_iff {index : Nat} :
    FilterSet.ofClauses target clauses = .error (.emptyClause index) ↔
      clauses[index]? = some [] ∧ ∀ earlier < index, clauses[earlier]? ≠ some [] := by
  rw [← findIdx?_isEmpty_eq_some_iff]
  refine ⟨fun failed => ?_, ofClauses_of_findIdx?_eq_some⟩
  cases found : clauses.findIdx? List.isEmpty with
  | some first =>
      cases failed.symm.trans (ofClauses_of_findIdx?_eq_some found)
      rfl
  | none =>
      by_cases empty : clauses = []
      · subst empty
        cases failed
      · cases failed.symm.trans (ofClauses_of_findIdx?_eq_none empty found)

/-- Filters are refused exactly if there is no clause or an empty one. -/
theorem exists_ofClauses_eq_error_iff :
    (∃ fault, FilterSet.ofClauses target clauses = .error fault) ↔ clauses = [] ∨ [] ∈ clauses := by
  constructor
  · rintro ⟨fault, failed⟩
    cases fault with
    | noClauses => exact .inl (ofClauses_eq_noClauses_iff.mp failed)
    | emptyClause index =>
        exact .inr (List.mem_of_getElem? (ofClauses_eq_emptyClause_iff.mp failed).1)
  · intro empty
    cases compiled : FilterSet.ofClauses target clauses with
    | error fault => exact ⟨fault, rfl⟩
    | ok filters =>
        obtain ⟨nonempty, filled, _⟩ := ofClauses_eq_ok_iff.mp compiled
        exact (empty.elim nonempty filled).elim

end FilterSet

end ColumnSearch
