import ColumnSearch.Proofs.Clause.Count

/-!
# The order of clauses

A disjunction is distributed over two lists of clauses at a time, from left to right. The result is
the product of all lists at once: it has one clause for each choice of a clause from every list, and
the choices come in lexicographic order. A choice is therefore found at the number that has its
indices as digits, each in the radix of the list it points into.
-/

namespace ColumnSearch

/-- The clause of a product at a row and a column is that of the row followed by that of the
column. -/
theorem getElem?_distribute {left : List Clause} {row : Nat} {first : Clause}
    (found : left[row]? = some first) (right : List Clause) (column : Fin right.length) :
    (distribute left right)[row * right.length + column]? = some (first ++ right.get column) := by
  induction left generalizing row with
  | nil => cases found
  | cons head rest ih =>
      rw [distribute_cons]
      cases row with
      | zero =>
          cases found
          have inside : column < (right.map (first ++ ·)).length := by
            rw [List.length_map]
            exact column.isLt
          rw [Nat.zero_mul, Nat.zero_add, List.getElem?_append_left inside, List.getElem?_map,
            List.getElem?_eq_getElem column.isLt, Option.map_some, List.get_eq_getElem]
      | succ row =>
          rw [List.getElem?_cons_succ] at found
          have skipped : (row + 1) * right.length + column =
              (right.map (head ++ ·)).length + (row * right.length + column) := by
            rw [List.length_map, Nat.succ_mul]
            omega
          rw [skipped, List.getElem?_append_right (Nat.le_add_right _ _), Nat.add_sub_cancel_left]
          exact ih found

/-- A clause of every list, given by its index. -/
inductive Choice : List (List Clause) → Type where
  | nil : Choice []
  | cons {clauses : List Clause} {lists : List (List Clause)} (index : Fin clauses.length)
      (rest : Choice lists) : Choice (clauses :: lists)

namespace Choice

variable {lists : List (List Clause)}

/-- The chosen clauses, one after the other. -/
def clause : {lists : List (List Clause)} → Choice lists → Clause
  | _, nil => []
  | clauses :: _, cons index rest => clauses.get index ++ rest.clause

/-- The number that has the indices as digits after those of `high`. -/
def positionAfter (high : Nat) : {lists : List (List Clause)} → Choice lists → Nat
  | _, nil => high
  | clauses :: _, cons index rest => rest.positionAfter (high * clauses.length + index)

/-- The number that has the indices as digits, each in the radix of its list. For indices `i₁` to
`iₖ` into lists of `n₁` to `nₖ` clauses this is `((i₁ * n₂ + i₂) * n₃ + …) * nₖ + iₖ`. -/
def position (choice : Choice lists) : Nat :=
  choice.positionAfter 0

/-- At the first index in which the choices differ, the first one has the smaller. -/
inductive Before : {lists : List (List Clause)} → Choice lists → Choice lists → Prop where
  | here {clauses : List Clause} {lists : List (List Clause)} {index other : Fin clauses.length}
      {rest more : Choice lists} (smaller : index < other) :
      Before (cons index rest) (cons other more)
  | later {clauses : List Clause} {lists : List (List Clause)} {index : Fin clauses.length}
      {rest more : Choice lists} (before : Before rest more) :
      Before (cons index rest) (cons index more)

/-- Distributing lists over clauses done before them puts a choice where its indices lead from the
clause it continues. -/
theorem getElem?_foldl_distribute (choice : Choice lists) {done : List Clause} {high : Nat}
    {first : Clause} (found : done[high]? = some first) :
    (lists.foldl distribute done)[choice.positionAfter high]? = some (first ++ choice.clause) := by
  -- Each step of the fold lengthens the clause to be continued and adds a digit to its place.
  induction choice generalizing done high first with
  | nil => rw [List.foldl_nil, positionAfter, clause, List.append_nil, found]
  | @cons clauses lists index rest ih =>
      rw [List.foldl_cons, positionAfter, clause, ← List.append_assoc]
      exact ih (getElem?_distribute found clauses index)

/-- No digits that follow make up for a smaller number before them. -/
theorem positionAfter_lt_of_lt {high higher : Nat} (smaller : high < higher)
    (choice other : Choice lists) : choice.positionAfter high < other.positionAfter higher := by
  induction choice generalizing high higher with
  | nil =>
      cases other
      exact smaller
  | @cons clauses lists index rest ih =>
      cases other with
      | cons second more =>
          apply ih
          calc high * clauses.length + index
              < high * clauses.length + clauses.length := Nat.add_lt_add_left index.isLt _
            _ = (high + 1) * clauses.length := (Nat.succ_mul _ _).symm
            _ ≤ higher * clauses.length := Nat.mul_le_mul_right _ smaller
            _ ≤ higher * clauses.length + second := Nat.le_add_right _ _

private theorem positionAfter_lt_of_before {choice other : Choice lists}
    (before : choice.Before other)
    (high : Nat) : choice.positionAfter high < other.positionAfter high := by
  induction before generalizing high with
  | here smaller => exact positionAfter_lt_of_lt (Nat.add_lt_add_left smaller _) _ _
  | later _ ih => exact ih _

private theorem before_trichotomy (choice other : Choice lists) :
    choice.Before other ∨ choice = other ∨ other.Before choice := by
  induction choice with
  | nil =>
      cases other
      exact .inr (.inl rfl)
  | cons index rest ih =>
      cases other with
      | cons second more =>
          obtain smaller | same | larger := Nat.lt_trichotomy index second
          · exact .inl (.here smaller)
          · obtain rfl := Fin.ext same
            obtain before | same | after := ih more
            · exact .inl (.later before)
            · exact .inr (.inl (congrArg _ same))
            · exact .inr (.inr (.later after))
          · exact .inr (.inr (.here larger))

private theorem before_iff_position_lt (choice other : Choice lists) :
    choice.Before other ↔ choice.position < other.position := by
  constructor
  · exact fun before => positionAfter_lt_of_before before 0
  · intro smaller
    obtain before | same | after := before_trichotomy choice other
    · exact before
    · rw [same] at smaller
      exact absurd smaller (Nat.lt_irrefl _)
    · exact absurd smaller (Nat.lt_asymm (positionAfter_lt_of_before after 0))

end Choice

namespace Expr

/-- A disjunction has as many clauses as there are ways to choose a clause of every child. Each
choice stands at its position, and positions are in the lexicographic order of the choices. -/
theorem clauses_of_disjunction_are_lexicographic (children : List Expr) :
    (group .or children).clauses.length = (children.map (·.clauses.length)).prod ∧
    (∀ choice : Choice (children.map clauses),
      (group .or children).clauses[choice.position]? = some choice.clause) ∧
    ∀ choice other : Choice (children.map clauses),
      choice.Before other ↔ choice.position < other.position := by
  refine ⟨length_clauses_or children, fun choice => ?_, Choice.before_iff_position_lt⟩
  rw [clauses_or, Choice.position]
  have empty : ([[]] : List Clause)[0]? = some [] := rfl
  exact choice.getElem?_foldl_distribute empty

-- The second of two clauses, the only one of the leaf, and the third of three.
example (a b c d e f : Condition) :
    (group .or [group .and [leaf a, leaf b], leaf c,
      group .and [leaf d, leaf e, leaf f]]).clauses[(1 * 1 + 0) * 3 + 2]? = some [b, c, f] := rfl

end Expr

end ColumnSearch
