import ColumnSearch.Proofs.Predicate.Entries
import ColumnSearch.Proofs.Predicate.Fault
import Mathlib.Data.List.Forall2

/-!
# The clauses that filters stand for

The filters of clauses can be read back: every test of a conjunction is a clause of its own, and
every disjunction and every equality list is one clause. What is read back are the clauses with one
condition, in their order, and then the longer ones, in theirs. No clause is lost, merged with
another or repeated.
-/

namespace ColumnSearch

/-- The members of a clause as they are found in a predicate. -/
inductive Disjuncts where
  | tests (tests : List TextTest)
  | values (values : List Value)

/-- The clause is one of several conditions, all of which name exact values. -/
def Clause.NamesValues (clause : Clause) : Prop :=
  2 ≤ clause.length ∧ ∀ condition ∈ clause, condition.isExact = true

/-- The members are those of the clause: its values if it names values, and otherwise a test for
each of its conditions. -/
def Disjuncts.Encodes (clause : Clause) : Disjuncts → Prop
  | tests found =>
    ¬clause.NamesValues ∧ found = clause.map fun condition =>
      ⟨if condition.isExcluded then .doesNotContain else .contains, condition.value⟩
  | values found => clause.NamesValues ∧ found = clause.map Condition.exactValue

namespace Predicate

/-- The clauses a predicate stands for. -/
def readBack : Predicate → List Disjuncts
  | equality _ _ _ values => [.values values]
  | boolean _ _ _ .and tests => tests.map fun test => .tests [test]
  | boolean _ _ _ .or tests => [.tests tests]

/-- The predicate is a conjunction of tests. -/
def isConjunction : Predicate → Bool
  | boolean _ _ _ .and _ => true
  | _ => false

variable {target : Target} {clause : Clause} {clauses : List Clause} {predicate : Predicate}

private theorem exists_readBack_ofClause (several : 2 ≤ clause.length) :
    ∃ found, (ofClause target clause).readBack = [found] ∧ found.Encodes clause := by
  unfold ofClause
  split
  · rename_i exact
    exact ⟨_, rfl, ⟨several, List.all_eq_true.mp exact⟩, rfl⟩
  · rename_i inexact
    refine ⟨_, rfl, fun named => inexact ?_, rfl⟩
    exact List.all_eq_true.mpr named.2

private theorem exists_readBack_single (one : clause.length = 1) :
    ∃ found, (clause.map fun condition => Disjuncts.tests [.ofCondition condition]) = [found] ∧
      found.Encodes clause := by
  obtain ⟨condition, rfl⟩ := List.length_eq_one_iff.mp one
  refine ⟨_, rfl, fun named => ?_, rfl⟩
  exact absurd named.1 (by simp)

private theorem readBack_ofSingles :
    (ofSingles target clauses).flatMap readBack =
      (clauses.filter (·.length == 1)).flatMap fun clause =>
        clause.map fun condition => .tests [.ofCondition condition] := by
  rcases ofSingles_cases target clauses with ⟨none, same⟩ | ⟨_, same⟩
  · rw [none, same]
    rfl
  · rw [same, List.flatMap_singleton, ofTests, readBack, List.map_map, List.map_flatten]
    rfl

/-- What is read back item by item corresponds to the items one by one. -/
theorem forall₂_flatMap {α β : Type} {related : α → β → Prop} {items : List α} {read : α → List β}
    (each : ∀ item ∈ items, ∃ found, read item = [found] ∧ related item found) :
    List.Forall₂ related items (items.flatMap read) := by
  induction items with
  | nil => exact .nil
  | cons item rest ih =>
      obtain ⟨⟨found, same, holds⟩, others⟩ := List.forall_mem_cons.mp each
      rw [List.flatMap_cons, same]
      exact .cons holds (ih others)

/-- Without empty clauses, those that do not have one condition have several. -/
theorem filter_length_ne_one (filled : [] ∉ clauses) :
    clauses.filter (·.length != 1) = clauses.filter (2 ≤ ·.length) := by
  apply List.filter_congr
  intro clause member
  have nonempty : clause.length ≠ 0 := by
    intro empty
    rw [List.length_eq_zero_iff] at empty
    exact filled (empty ▸ member)
  grind

private theorem encodes_readBack (filled : [] ∉ clauses) :
    List.Forall₂ Disjuncts.Encodes
      (clauses.filter (·.length == 1) ++ clauses.filter (2 ≤ ·.length))
      ((ofClauses target clauses).flatMap readBack) := by
  rw [ofClauses, List.flatMap_append, readBack_ofSingles, filter_length_ne_one filled,
    List.flatMap_map]
  apply List.rel_append
  · apply forall₂_flatMap
    intro clause member
    exact exists_readBack_single (by simpa using (List.mem_filter.mp member).2)
  · apply forall₂_flatMap
    intro clause member
    exact exists_readBack_ofClause (by simpa using (List.mem_filter.mp member).2)

private theorem isConjunction_ofClause : (ofClause target clause).isConjunction = false := by
  unfold ofClause
  split
  · rfl
  · rfl

private theorem isConjunction_of_mem_tail (member : predicate ∈ (ofClauses target clauses).tail) :
    predicate.isConjunction = false := by
  have longer : predicate ∈ (clauses.filter (·.length != 1)).map (ofClause target) := by
    rw [ofClauses] at member
    rcases ofSingles_cases target clauses with ⟨_, same⟩ | ⟨_, same⟩
    · rw [same] at member
      exact List.mem_of_mem_tail member
    · rw [same] at member
      exact member
  obtain ⟨clause, _, rfl⟩ := List.mem_map.mp longer
  exact isConjunction_ofClause

private theorem exists_isConjunction_iff :
    (∃ predicate ∈ ofClauses target clauses, predicate.isConjunction = true) ↔
      ∃ clause ∈ clauses, clause.length = 1 := by
  have present : (∃ clause ∈ clauses, clause.length = 1) ↔
      clauses.filter (·.length == 1) ≠ [] := by
    simp [List.filter_eq_nil_iff]
  rw [present, ofClauses]
  rcases ofSingles_cases target clauses with ⟨none, same⟩ | ⟨some, same⟩
  · rw [none, same, List.nil_append]
    refine iff_of_false ?_ (fun absent => absent rfl)
    rintro ⟨predicate, member, conjunction⟩
    obtain ⟨clause, _, rfl⟩ := List.mem_map.mp member
    cases conjunction.symm.trans isConjunction_ofClause
  · rw [same]
    exact iff_of_true ⟨_, List.mem_cons_self, rfl⟩ some

private theorem target_of_mem_ofClauses (member : predicate ∈ ofClauses target clauses) :
    predicate.target = target := by
  obtain ⟨conditions, _, ⟨op, rfl⟩ | ⟨_, rfl⟩⟩ := eq_of_mem_ofClauses member
  · rfl
  · rfl

end Predicate

namespace FilterSet

private theorem isSingle_ofList (predicates : List Predicate) :
    (FilterSet.ofList predicates).isSingle = true ↔ predicates.length = 1 := by
  match predicates with
  | [] => simp [ofList, isSingle]
  | [predicate] => simp [ofList, isSingle]
  | first :: second :: others => simp [ofList, isSingle]

/-- Clauses none of which is empty have filters, and these lay the clauses out one by one: first the
clauses with one condition, in one conjunction, then the longer ones, each in a predicate of its
own, which is an equality list exactly if the clause names values. -/
theorem filters_lay_out_clauses (target : Target) {clauses : List Clause}
    (nonempty : clauses ≠ []) (filled : [] ∉ clauses) :
    ∃ filters, FilterSet.ofClauses target clauses = .ok filters ∧
      List.Forall₂ Disjuncts.Encodes
        (clauses.filter (·.length == 1) ++ clauses.filter (2 ≤ ·.length))
        (filters.toList.flatMap Predicate.readBack) ∧
      ((∃ predicate ∈ filters.toList, predicate.isConjunction = true) ↔
        ∃ clause ∈ clauses, clause.length = 1) ∧
      (∀ predicate ∈ filters.toList.tail, predicate.isConjunction = false) ∧
      (filters.isSingle = true ↔ filters.toList.length = 1) ∧
      ∀ predicate ∈ filters.toList, predicate.target = target := by
  refine ⟨_, ofClauses_eq_ok_iff.mpr ⟨nonempty, filled, rfl⟩, ?_⟩
  rw [toList_ofList]
  exact ⟨Predicate.encodes_readBack filled, Predicate.exists_isConjunction_iff,
    fun _ => Predicate.isConjunction_of_mem_tail, isSingle_ofList _,
    fun _ => Predicate.target_of_mem_ofClauses⟩

/-- Clauses of every kind out of order: those with one condition are moved to the front, and only
the clause of two phrases names values, the lone phrase does not. -/
theorem filters_lay_out_clauses_mixed :
    let barred : Condition := ⟨"b", false, .excluded⟩
    let clauses : List Clause := [[.word "a", .phrase "x"], [barred], [.phrase "x", .phrase "y"],
      [.phrase "z"]]
    ∃ filters, FilterSet.ofClauses ⟨"Tickets", "Priority"⟩ clauses = .ok filters ∧
      List.Forall₂ Disjuncts.Encodes
        [[barred], [.phrase "z"], [.word "a", .phrase "x"], [.phrase "x", .phrase "y"]]
        (filters.toList.flatMap Predicate.readBack) ∧
      (∃ predicate ∈ filters.toList, predicate.isConjunction = true) ∧
      Clause.NamesValues [.phrase "x", .phrase "y"] ∧ ¬Clause.NamesValues [.phrase "z"] := by
  intro barred clauses
  have several : clauses ≠ [] := by simp [clauses]
  have filled : [] ∉ clauses := by simp [clauses]
  obtain ⟨filters, compiled, encodes, conjunction, _⟩ :=
    filters_lay_out_clauses ⟨"Tickets", "Priority"⟩ several filled
  refine ⟨filters, compiled, encodes, conjunction.mpr ⟨[barred], by simp [clauses], rfl⟩, ?_, ?_⟩
  · exact ⟨Nat.le_refl 2, by simp [Condition.isExact, Condition.phrase]⟩
  · exact fun named => absurd named.1 (by simp)

end FilterSet

end ColumnSearch
