import ColumnSearch.Proofs.Clause.Meaning
import ColumnSearch.Proofs.Except
import ColumnSearch.Proofs.Expr.Shape

/-!
# Clauses under a limit

`Expr.clausesWithin` computes the clauses of an expression and stops as soon as it has found too
many. When it succeeds, it agrees with `Expr.clauses`. It refuses no expression whose clauses are
within the limit, since the clauses found on the way are never more than those found in the end:
no part of an expression without empty conjunctions has an empty list of clauses, so neither sums
nor products ever shrink.
-/

namespace ColumnSearch

/-- Distributing nonempty lists never makes the result shorter. -/
theorem length_le_length_foldl_distribute {lists : List (List Clause)} (done : List Clause)
    (filled : ∀ clauses ∈ lists, 0 < clauses.length) :
    done.length ≤ (lists.foldl distribute done).length := by
  induction lists generalizing done with
  | nil => exact Nat.le_refl _
  | cons clauses rest ih =>
      have grown : done.length ≤ (distribute done clauses).length := by
        rw [length_distribute]
        exact Nat.le_mul_of_pos_right _ (filled clauses List.mem_cons_self)
      exact Nat.le_trans grown
        (ih _ fun later member => filled later (List.mem_cons_of_mem _ member))

namespace Expr

variable {max : Nat} {expr : Expr} {exprs : List Expr}

/-- Without empty conjunctions there is at least one clause. -/
theorem length_clauses_pos (proper : expr.NoEmptyConjunction) : 0 < expr.clauses.length := by
  induction proper with
  | leaf condition =>
      rw [clauses_leaf]
      exact Nat.one_pos
  | @group op children here below ih =>
      cases op with
      | and =>
          obtain ⟨first, others, rfl⟩ := List.exists_cons_of_ne_nil (here rfl)
          rw [clauses_and, List.flatMap_cons, List.length_append]
          exact Nat.add_pos_left (ih first List.mem_cons_self) _
      | or =>
          rw [clauses_or]
          have filled : ∀ list ∈ children.map clauses, 0 < list.length := by
            intro list member
            obtain ⟨child, inside, rfl⟩ := List.mem_map.mp member
            exact ih child inside
          exact Nat.lt_of_lt_of_le Nat.one_pos (length_le_length_foldl_distribute [[]] filled)

private theorem checkCount_eq_ok_iff {count : Nat} :
    checkCount count max = .ok () ↔ count ≤ max := by
  rw [checkCount, Except.ite_error_eq_ok_iff, Nat.not_lt]

/-- The rejection names the limit and a number of clauses beyond it that is actually reached. -/
def Reports (max reached : Nat) (rejection : Rejection) : Prop :=
  ∃ count, rejection = .tooManyClauses count max ∧ max < count ∧ count ≤ reached

private theorem Reports.mono {reached more : Nat} {rejection : Rejection}
    (reports : Reports max reached rejection) (grown : reached ≤ more) :
    Reports max more rejection := by
  obtain ⟨count, named, exceeded, bounded⟩ := reports
  exact ⟨count, named, exceeded, Nat.le_trans bounded grown⟩

private theorem reports_of_checkCount {count : Nat} {rejection : Rejection}
    (failed : checkCount count max = .error rejection) : Reports max count rejection := by
  rw [checkCount, Except.ite_error_eq_error_iff] at failed
  obtain ⟨exceeded, rfl⟩ := failed
  exact ⟨count, rfl, exceeded, Nat.le_refl _⟩

private theorem eq_append_of_clausesOfAllWithin
    (each : ∀ expr ∈ exprs, ∀ found, expr.clausesWithin max = .ok found → found = expr.clauses)
    {done result : List Clause} (success : clausesOfAllWithin max done exprs = .ok result) :
    result = done ++ exprs.flatMap clauses := by
  induction exprs generalizing done with
  | nil =>
      rw [clausesOfAllWithin, Except.pure_eq_ok_iff] at success
      rw [List.flatMap_nil, List.append_nil, success]
  | cons expr rest ih =>
      rw [clausesOfAllWithin, Except.bind_eq_ok_iff] at success
      obtain ⟨found, computed, success⟩ := success
      obtain ⟨_, _, success⟩ := Except.bind_eq_ok_iff.mp success
      rw [ih (fun later member => each later (List.mem_cons_of_mem _ member)) success,
        each expr List.mem_cons_self found computed, List.flatMap_cons, List.append_assoc]

private theorem eq_foldl_of_clausesOfAnyWithin
    (each : ∀ expr ∈ exprs, ∀ found, expr.clausesWithin max = .ok found → found = expr.clauses)
    {done result : List Clause} (success : clausesOfAnyWithin max done exprs = .ok result) :
    result = (exprs.map clauses).foldl distribute done := by
  induction exprs generalizing done with
  | nil =>
      rw [clausesOfAnyWithin, Except.pure_eq_ok_iff] at success
      rw [List.map_nil, List.foldl_nil, success]
  | cons expr rest ih =>
      rw [clausesOfAnyWithin, Except.bind_eq_ok_iff] at success
      obtain ⟨found, computed, success⟩ := success
      obtain ⟨_, _, success⟩ := Except.bind_eq_ok_iff.mp success
      rw [ih (fun later member => each later (List.mem_cons_of_mem _ member)) success,
        each expr List.mem_cons_self found computed, List.map_cons, List.foldl_cons]

/-- The last check of a computation: its result is returned only if it is within the limit. -/
theorem eq_ok_of_checked {compute : Except Rejection (List Clause)} {result : List Clause}
    (success : (do let found ← compute; checkCount found.length max; return found) = .ok result) :
    compute = .ok result ∧ result.length ≤ max := by
  obtain ⟨found, computed, success⟩ := Except.bind_eq_ok_iff.mp success
  obtain ⟨_, checked, success⟩ := Except.bind_eq_ok_iff.mp success
  obtain rfl := Except.pure_eq_ok_iff.mp success
  exact ⟨computed, checkCount_eq_ok_iff.mp checked⟩

/-- Clauses found under a limit are the clauses of the expression, and within the limit. -/
theorem eq_clauses_of_clausesWithin {result : List Clause}
    (success : expr.clausesWithin max = .ok result) :
    result = expr.clauses ∧ result.length ≤ max := by
  induction expr generalizing result with
  | leaf condition =>
      rw [clausesWithin, Except.bind_eq_ok_iff] at success
      obtain ⟨_, checked, success⟩ := success
      obtain rfl := Except.pure_eq_ok_iff.mp success
      exact ⟨(clauses_leaf condition).symm, checkCount_eq_ok_iff.mp checked⟩
  | group op children ih =>
      have each : ∀ child ∈ children, ∀ found, child.clausesWithin max = .ok found →
          found = child.clauses :=
        fun child member _ computed => (ih child member computed).1
      cases op with
      | and =>
          rw [clausesWithin] at success
          obtain ⟨computed, fits⟩ := eq_ok_of_checked success
          refine ⟨?_, fits⟩
          rw [eq_append_of_clausesOfAllWithin each computed, List.nil_append, clauses_and]
      | or =>
          rw [clausesWithin] at success
          obtain ⟨computed, fits⟩ := eq_ok_of_checked success
          refine ⟨?_, fits⟩
          rw [eq_foldl_of_clausesOfAnyWithin each computed, clauses_or]

private theorem reports_of_clausesOfAllWithin
    (each : ∀ expr ∈ exprs, ∀ rejection, expr.clausesWithin max = .error rejection →
      Reports max expr.clauses.length rejection)
    {done : List Clause} {rejection : Rejection}
    (failed : clausesOfAllWithin max done exprs = .error rejection) :
    Reports max (done ++ exprs.flatMap clauses).length rejection := by
  induction exprs generalizing done with
  | nil => cases failed
  | cons expr rest ih =>
      rw [List.flatMap_cons, ← List.append_assoc]
      rw [clausesOfAllWithin, Except.bind_eq_error_iff] at failed
      rcases failed with failed | ⟨found, computed, failed⟩
      · apply (each expr List.mem_cons_self rejection failed).mono
        simp only [List.length_append]
        omega
      · obtain rfl := (eq_clauses_of_clausesWithin computed).1
        rcases Except.bind_eq_error_iff.mp failed with failed | ⟨_, _, failed⟩
        · apply (reports_of_checkCount failed).mono
          simp only [List.length_append]
          omega
        · exact ih (fun later member => each later (List.mem_cons_of_mem _ member)) failed

private theorem reports_of_clausesOfAnyWithin
    (each : ∀ expr ∈ exprs, ∀ rejection, expr.clausesWithin max = .error rejection →
      Reports max expr.clauses.length rejection)
    (filled : ∀ expr ∈ exprs, 0 < expr.clauses.length)
    {done : List Clause} (started : 0 < done.length) {rejection : Rejection}
    (failed : clausesOfAnyWithin max done exprs = .error rejection) :
    Reports max ((exprs.map clauses).foldl distribute done).length rejection := by
  induction exprs generalizing done with
  | nil => cases failed
  | cons expr rest ih =>
      have nonempty := filled expr List.mem_cons_self
      have later : ∀ expr ∈ rest, 0 < expr.clauses.length :=
        fun expr member => filled expr (List.mem_cons_of_mem _ member)
      -- Nothing that is found after this expression can make the product smaller again.
      have grown : done.length * expr.clauses.length ≤
          (((expr :: rest).map clauses).foldl distribute done).length := by
        rw [List.map_cons, List.foldl_cons, ← length_distribute]
        exact length_le_length_foldl_distribute _ (List.forall_mem_map.mpr later)
      rw [clausesOfAnyWithin, Except.bind_eq_error_iff] at failed
      rcases failed with failed | ⟨found, computed, failed⟩
      · apply (each expr List.mem_cons_self rejection failed).mono
        exact Nat.le_trans (Nat.le_mul_of_pos_left _ started) grown
      · obtain rfl := (eq_clauses_of_clausesWithin computed).1
        rcases Except.bind_eq_error_iff.mp failed with failed | ⟨_, _, failed⟩
        · apply (reports_of_checkCount failed).mono
          exact Nat.le_trans (Nat.min_le_left _ _) grown
        · apply ih (fun expr member => each expr (List.mem_cons_of_mem _ member)) later _ failed
          rw [length_distribute]
          exact Nat.mul_pos started nonempty

private theorem reports_of_checked {compute : Except Rejection (List Clause)}
    {rejection : Rejection}
    (failed : (do let found ← compute; checkCount found.length max; return found) =
      .error rejection) :
    compute = .error rejection ∨
      ∃ found, compute = .ok found ∧ Reports max found.length rejection := by
  rcases Except.bind_eq_error_iff.mp failed with failed | ⟨found, computed, failed⟩
  · exact .inl failed
  · rcases Except.bind_eq_error_iff.mp failed with failed | ⟨_, _, failed⟩
    · exact .inr ⟨found, computed, reports_of_checkCount failed⟩
    · cases failed

/-- A refusal reports a number of clauses that is beyond the limit and that the expression has. -/
theorem reports_of_clausesWithin (proper : expr.NoEmptyConjunction) {rejection : Rejection}
    (failed : expr.clausesWithin max = .error rejection) :
    Reports max expr.clauses.length rejection := by
  induction proper generalizing rejection with
  | leaf condition =>
      rw [clausesWithin, Except.bind_eq_error_iff] at failed
      rw [clauses_leaf]
      rcases failed with failed | ⟨_, _, failed⟩
      · exact reports_of_checkCount failed
      · cases failed
  | @group op children here below ih =>
      have found : ∀ child ∈ children, ∀ found, child.clausesWithin max = .ok found →
          found = child.clauses :=
        fun _ _ _ computed => (eq_clauses_of_clausesWithin computed).1
      have each : ∀ child ∈ children, ∀ rejection, child.clausesWithin max = .error rejection →
          Reports max child.clauses.length rejection :=
        fun child member _ failed => ih child member failed
      cases op with
      | and =>
          rw [clausesWithin] at failed
          rw [clauses_and, ← List.nil_append (children.flatMap clauses)]
          rcases reports_of_checked failed with failed | ⟨result, computed, reports⟩
          · exact reports_of_clausesOfAllWithin each failed
          · rwa [eq_append_of_clausesOfAllWithin found computed] at reports
      | or =>
          rw [clausesWithin] at failed
          rw [clauses_or]
          rcases reports_of_checked failed with failed | ⟨result, computed, reports⟩
          · have filled : ∀ child ∈ children, 0 < child.clauses.length :=
              fun child member => length_clauses_pos (below child member)
            have started : 0 < ([[]] : List Clause).length := Nat.one_pos
            exact reports_of_clausesOfAnyWithin each filled started failed
          · rwa [eq_foldl_of_clausesOfAnyWithin found computed] at reports

/-- Clauses within the limit are returned as they are. -/
theorem clausesWithin_of_le (proper : expr.NoEmptyConjunction) (fits : expr.clauses.length ≤ max) :
    expr.clausesWithin max = .ok expr.clauses := by
  cases computed : expr.clausesWithin max with
  | error rejection =>
      obtain ⟨count, _, exceeded, bounded⟩ := reports_of_clausesWithin proper computed
      omega
  | ok result => rw [(eq_clauses_of_clausesWithin computed).1]

/-- Clauses beyond the limit are refused with the limit in the report. -/
theorem clausesWithin_of_lt (proper : expr.NoEmptyConjunction)
    (exceeds : max < expr.clauses.length) :
    ∃ count, expr.clausesWithin max = .error (.tooManyClauses count max) := by
  cases computed : expr.clausesWithin max with
  | error rejection =>
      obtain ⟨count, rfl, _⟩ := reports_of_clausesWithin proper computed
      exact ⟨count, rfl⟩
  | ok result =>
      obtain ⟨rfl, fits⟩ := eq_clauses_of_clausesWithin computed
      omega

/-- The clauses are refused exactly when there are more of them than the limit. -/
theorem clausesWithin_eq_error_iff (proper : expr.NoEmptyConjunction) :
    (∃ count, expr.clausesWithin max = .error (.tooManyClauses count max)) ↔
      max < expr.clauses.length := by
  refine ⟨fun ⟨count, refused⟩ => Nat.not_le.mp fun fits => ?_, clausesWithin_of_lt proper⟩
  cases (clausesWithin_of_le proper fits).symm.trans refused

/-- Under a limit, an expression has the clauses that it has without one, or is refused because
they exceed the limit. The second holds of expressions without empty conjunctions, such as the
parser returns. -/
theorem clausesWithin_agrees_with_clauses (expr : Expr) (max : Nat) :
    (∀ result, expr.clausesWithin max = .ok result →
      result = expr.clauses ∧ result.length ≤ max) ∧
    (expr.NoEmptyConjunction →
      ((∃ rejection, expr.clausesWithin max = .error rejection) ↔ max < expr.clauses.length) ∧
      ∀ rejection, expr.clausesWithin max = .error rejection →
        ∃ count, rejection = .tooManyClauses count max ∧ max < count ∧
          count ≤ expr.clauses.length) ∧
    ∀ tokens, parse tokens = .ok expr → expr.NoEmptyConjunction := by
  refine ⟨fun _ success => eq_clauses_of_clausesWithin success, fun proper => ⟨⟨?_, ?_⟩, ?_⟩, ?_⟩
  · rintro ⟨rejection, failed⟩
    obtain ⟨count, _, exceeded, bounded⟩ := reports_of_clausesWithin proper failed
    exact Nat.lt_of_lt_of_le exceeded bounded
  · intro exceeded
    cases computed : expr.clausesWithin max with
    | error rejection => exact ⟨rejection, rfl⟩
    | ok result =>
        obtain ⟨rfl, fits⟩ := eq_clauses_of_clausesWithin computed
        exact (Nat.not_le.mpr exceeded fits).elim
  · exact fun _ failed => reports_of_clausesWithin proper failed
  · exact fun _ parsed => (branching_of_parse parsed).noEmptyConjunction

-- An empty conjunction takes back the clauses that were already counted beyond the limit.
example :
    (group .or [group .and [leaf (.word "a"), leaf (.word "b")], group .and []]).clauses = [] ∧
    (group .or [group .and [leaf (.word "a"), leaf (.word "b")], group .and []]).clausesWithin 1 =
      .error (.tooManyClauses 2 1) :=
  ⟨rfl, rfl⟩

end Expr

end ColumnSearch
