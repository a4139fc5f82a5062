import ColumnSearch.Expr
import ColumnSearch.Rejection

/-!
# Clauses

A clause is a disjunction of conditions, and a list of clauses is their conjunction. Every
expression has an equivalent list of clauses: `AND` concatenates the lists of its parts, and `OR`
distributes over them from left to right.

`Expr.clauses` computes the list, and `Expr.clausesWithin` does so under a limit on its length,
refusing before a product beyond the limit is built.
-/

namespace ColumnSearch

/-- A disjunction of conditions. -/
abbrev Clause := List Condition

/-- The clauses of a disjunction of two conjunctions: each clause on the left followed by each on
the right, the left one varying slowest. -/
def distribute (left right : List Clause) : List Clause :=
  left.flatMap fun first => right.map (first ++ ·)

/-- The clauses of a distribution are those made of a clause on the left and one on the right. -/
@[simp]
theorem mem_distribute {left right : List Clause} {clause : Clause} :
    clause ∈ distribute left right ↔
      ∃ first ∈ left, ∃ second ∈ right, first ++ second = clause := by
  simp only [distribute, List.mem_flatMap, List.mem_map]

/-- The first clause on the left is followed by each on the right before the next one is. -/
theorem distribute_cons (first : Clause) (rest right : List Clause) :
    distribute (first :: rest) right = right.map (first ++ ·) ++ distribute rest right := by
  rw [distribute, List.flatMap_cons, distribute]

/-- There is a clause for every pair of a clause on the left and one on the right. -/
@[simp]
theorem length_distribute (left right : List Clause) :
    (distribute left right).length = left.length * right.length := by
  induction left with
  | nil => rw [distribute, List.flatMap_nil, List.length_nil, Nat.zero_mul]
  | cons first rest ih =>
      rw [distribute_cons, List.length_append, List.length_map, ih, List.length_cons, Nat.succ_mul,
        Nat.add_comm]

namespace Expr

mutual

/-- The clauses of an expression. -/
def clauses : Expr → List Clause
  | leaf condition => [[condition]]
  | group .and children => clausesOfAll children
  | group .or children => clausesOfAny [[]] children

/-- The clauses of the conjunction of several expressions. -/
def clausesOfAll : List Expr → List Clause
  | [] => []
  | expr :: rest => expr.clauses ++ clausesOfAll rest

/-- The clauses of the disjunction of several expressions and what is already distributed. -/
def clausesOfAny (done : List Clause) : List Expr → List Clause
  | [] => done
  | expr :: rest => clausesOfAny (distribute done expr.clauses) rest

end

/-- The largest number of clauses that is told apart from larger ones. -/
def maxCount : Nat := UInt64.size - 1

/-- Refuses a number of clauses beyond the limit. -/
def checkCount (count max : Nat) : Except Rejection Unit :=
  if max < count then .error (.tooManyClauses count max) else .ok ()

mutual

/-- The clauses of an expression, if neither they nor those of a part of it exceed the limit. -/
def clausesWithin (max : Nat) : Expr → Except Rejection (List Clause)
  | leaf condition => do
    checkCount 1 max
    return [[condition]]
  | group .and children => do
    let clauses ← clausesOfAllWithin max [] children
    checkCount clauses.length max
    return clauses
  | group .or children => do
    let clauses ← clausesOfAnyWithin max [[]] children
    checkCount clauses.length max
    return clauses

/-- The clauses found so far and those of the conjunction of several expressions. -/
def clausesOfAllWithin (max : Nat) (done : List Clause) :
    List Expr → Except Rejection (List Clause)
  | [] => return done
  | expr :: rest => do
    let clauses ← expr.clausesWithin max
    checkCount (done ++ clauses).length max
    clausesOfAllWithin max (done ++ clauses) rest

/-- The clauses of the disjunction of several expressions and what is already distributed. -/
def clausesOfAnyWithin (max : Nat) (done : List Clause) :
    List Expr → Except Rejection (List Clause)
  | [] => return done
  | expr :: rest => do
    let clauses ← expr.clausesWithin max
    checkCount (min (done.length * clauses.length) maxCount) max
    clausesOfAnyWithin max (distribute done clauses) rest

end

/-- The clauses of a conjunction are those of its parts one after the other. -/
@[simp]
theorem clausesOfAll_eq_flatMap (exprs : List Expr) :
    clausesOfAll exprs = exprs.flatMap clauses := by
  induction exprs with
  | nil => rfl
  | cons expr rest ih => simp [clausesOfAll, ih]

/-- The clauses of a disjunction are those of its parts distributed from left to right. -/
@[simp]
theorem clausesOfAny_eq_foldl (done : List Clause) (exprs : List Expr) :
    clausesOfAny done exprs = (exprs.map clauses).foldl distribute done := by
  induction exprs generalizing done with
  | nil => rfl
  | cons expr rest ih => simp [clausesOfAny, ih]

end Expr

end ColumnSearch
