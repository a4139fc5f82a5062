import ColumnSearch.Proofs.Clause.Limit

/-!
# The conditions of clauses

Distribution takes one clause from every list and puts them in a row. So a clause of a disjunction
has a clause of every child in it, and every clause of a child is part of one, unless another child
has no clauses at all. In expressions without empty groups, there are clauses, none of them is
empty, and every condition is in one of them.
-/

namespace ColumnSearch

section Distribution

variable {lists : List (List Clause)} {done : List Clause}

/-- A distributed clause contains one that was there before. -/
theorem exists_done_sublist_of_mem_foldl_distribute {clause : Clause}
    (member : clause ∈ lists.foldl distribute done) : ∃ first ∈ done, first.Sublist clause := by
  induction lists generalizing done with
  | nil => exact ⟨clause, member, List.Sublist.refl _⟩
  | cons list rest ih =>
      obtain ⟨extended, inside, contained⟩ := ih member
      obtain ⟨first, found, second, _, rfl⟩ := mem_distribute.mp inside
      exact ⟨first, found, (List.sublist_append_left first second).trans contained⟩

/-- A distributed clause contains one of every list. -/
theorem exists_sublist_of_mem_foldl_distribute {clause : Clause}
    (member : clause ∈ lists.foldl distribute done) {list : List Clause} (listed : list ∈ lists) :
    ∃ part ∈ list, part.Sublist clause := by
  induction lists generalizing done with
  | nil => cases listed
  | cons head rest ih =>
      rw [List.foldl_cons] at member
      rcases List.mem_cons.mp listed with rfl | listed
      · obtain ⟨extended, inside, contained⟩ := exists_done_sublist_of_mem_foldl_distribute member
        obtain ⟨first, _, second, found, rfl⟩ := mem_distribute.mp inside
        exact ⟨second, found, (List.sublist_append_right first second).trans contained⟩
      · exact ih member listed

/-- Distributing lists that have clauses keeps every clause that was there before. -/
theorem exists_mem_foldl_distribute_of_mem_done (filled : ∀ list ∈ lists, 0 < list.length)
    {first : Clause} (found : first ∈ done) :
    ∃ clause ∈ lists.foldl distribute done, first.Sublist clause := by
  induction lists generalizing done first with
  | nil => exact ⟨first, found, List.Sublist.refl _⟩
  | cons list rest ih =>
      obtain ⟨second, listed⟩ := List.exists_mem_of_length_pos (filled list List.mem_cons_self)
      have extended : first ++ second ∈ distribute done list :=
        mem_distribute.mpr ⟨first, found, second, listed, rfl⟩
      obtain ⟨clause, member, contained⟩ :=
        ih (fun later inside => filled later (List.mem_cons_of_mem _ inside)) extended
      exact ⟨clause, member, (List.sublist_append_left first second).trans contained⟩

/-- Distributing lists that have clauses keeps every clause of them. -/
theorem exists_mem_foldl_distribute_of_mem (filled : ∀ list ∈ lists, 0 < list.length)
    (started : 0 < done.length) {list : List Clause} (listed : list ∈ lists) {part : Clause}
    (found : part ∈ list) : ∃ clause ∈ lists.foldl distribute done, part.Sublist clause := by
  induction lists generalizing done with
  | nil => cases listed
  | cons head rest ih =>
      have later : ∀ list ∈ rest, 0 < list.length :=
        fun list inside => filled list (List.mem_cons_of_mem _ inside)
      rcases List.mem_cons.mp listed with rfl | listed
      · obtain ⟨first, before⟩ := List.exists_mem_of_length_pos started
        have extended : first ++ part ∈ distribute done list :=
          mem_distribute.mpr ⟨first, before, part, found, rfl⟩
        obtain ⟨clause, member, contained⟩ :=
          exists_mem_foldl_distribute_of_mem_done later extended
        exact ⟨clause, member, (List.sublist_append_right first part).trans contained⟩
      · apply ih later _ listed
        rw [length_distribute]
        exact Nat.mul_pos started (filled head List.mem_cons_self)

end Distribution

namespace Expr

/-- No disjunction is empty. -/
def NoEmptyDisjunction : Expr → Prop :=
  EveryGroup fun op children => op = .or → children ≠ []

/-- An expression whose groups all branch has no empty disjunction. -/
theorem Branching.noEmptyDisjunction {expr : Expr} (branching : expr.Branching) :
    expr.NoEmptyDisjunction := by
  refine EveryGroup.mono ?_ branching
  rintro op children several _ rfl
  cases several

/-- Without empty disjunctions, no clause is empty. -/
theorem ne_nil_of_mem_clauses {expr : Expr} (proper : expr.NoEmptyDisjunction) {clause : Clause}
    (member : clause ∈ expr.clauses) : clause ≠ [] := by
  induction proper generalizing clause with
  | leaf condition =>
      rw [clauses_leaf, List.mem_singleton] at member
      subst member
      exact List.cons_ne_nil _ _
  | @group op children here below ih =>
      cases op with
      | and =>
          rw [clauses_and, List.mem_flatMap] at member
          obtain ⟨child, inside, member⟩ := member
          exact ih child inside member
      | or =>
          rw [clauses_or] at member
          obtain ⟨child, others, rfl⟩ := List.exists_cons_of_ne_nil (here rfl)
          obtain ⟨part, found, contained⟩ :=
            exists_sublist_of_mem_foldl_distribute member List.mem_cons_self
          rintro rfl
          exact ih child List.mem_cons_self found (List.sublist_nil.mp contained)

/-- Without empty conjunctions, every condition is in a clause. -/
theorem exists_clause_of_mem_conditions {expr : Expr} (proper : expr.NoEmptyConjunction)
    {condition : Condition} (member : condition ∈ expr.conditions) :
    ∃ clause ∈ expr.clauses, condition ∈ clause := by
  induction proper with
  | leaf single =>
      rw [conditions] at member
      exact ⟨[single], by rw [clauses_leaf]; exact List.mem_singleton_self _, member⟩
  | @group op children here below ih =>
      rw [conditions_group, List.mem_flatMap] at member
      obtain ⟨child, inside, member⟩ := member
      obtain ⟨part, found, occurs⟩ := ih child inside member
      cases op with
      | and =>
          rw [clauses_and]
          exact ⟨part, List.mem_flatMap.mpr ⟨child, inside, found⟩, occurs⟩
      | or =>
          rw [clauses_or]
          have filled : ∀ list ∈ children.map clauses, 0 < list.length :=
            List.forall_mem_map.mpr fun child inside => length_clauses_pos (below child inside)
          have started : 0 < ([[]] : List Clause).length := Nat.one_pos
          obtain ⟨clause, distributed, contained⟩ :=
            exists_mem_foldl_distribute_of_mem filled started (List.mem_map_of_mem inside) found
          exact ⟨clause, distributed, contained.subset occurs⟩

/-- An expression that the parser returns has clauses, and none of them is empty. -/
theorem clauses_of_parse {tokens : List Token} {expr : Expr} (parsed : parse tokens = .ok expr) :
    expr.clauses ≠ [] ∧ ∀ clause ∈ expr.clauses, clause ≠ [] := by
  have branching := branching_of_parse parsed
  exact ⟨List.ne_nil_of_length_pos (length_clauses_pos branching.noEmptyConjunction),
    fun clause member => ne_nil_of_mem_clauses branching.noEmptyDisjunction member⟩

end Expr

end ColumnSearch
