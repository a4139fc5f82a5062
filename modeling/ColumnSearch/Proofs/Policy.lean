import ColumnSearch.Policy
import ColumnSearch.Proofs.Except
import ColumnSearch.Proofs.Expr.Terms
import ColumnSearch.Proofs.Token.Spelling

/-!
# What policies refuse

A text exceeds each limit of a policy on its own account, whatever other limits it exceeds.
Validation reports the first limit that is exceeded, in the order characters, tokens, conditions,
and passes the texts that exceed none. So higher limits never make it refuse a text, and no text of
fewer than `2 ^ 64` characters exceeds the limits of the unbounded policy.
-/

namespace ColumnSearch

/-- The place of the limit in the order in which limits are checked. -/
def Rejection.rank : Rejection → Nat
  | queryTooLong _ _ => 0
  | tooManyTokens _ _ => 1
  | tooManyLeaves _ _ => 2
  | tooManyClauses _ _ => 3

namespace Policy

/-- The rejection names a measure of the text and the limit that it exceeds. Conditions are there to
be counted only if the text parses. -/
inductive Exceeded (policy : Policy) (query : String) : Rejection → Prop where
  | length (long : policy.maxQueryLength.toNat < query.length) :
    Exceeded policy query (.queryTooLong query.length policy.maxQueryLength.toNat)
  | tokens (many : policy.maxTokenCount.toNat < (tokenize query).length) :
    Exceeded policy query (.tooManyTokens (tokenize query).length policy.maxTokenCount.toNat)
  | leaves {expr : Expr} (parsed : Expr.parse (tokenize query) = .ok expr)
    (many : policy.maxLeafCount.toNat < expr.conditions.length) :
    Exceeded policy query (.tooManyLeaves expr.conditions.length policy.maxLeafCount.toNat)

/-- No limit that is checked earlier is exceeded. -/
def FirstExceeded (policy : Policy) (query : String) (rejection : Rejection) : Prop :=
  policy.Exceeded query rejection ∧
    ∀ other, policy.Exceeded query other → rejection.rank ≤ other.rank

/-- Each limit of the second policy is at least that of the first. -/
structure NoLooserThan (policy looser : Policy) : Prop where
  length : policy.maxQueryLength ≤ looser.maxQueryLength
  tokens : policy.maxTokenCount ≤ looser.maxTokenCount
  leaves : policy.maxLeafCount ≤ looser.maxLeafCount
  clauses : policy.maxClauseCount ≤ looser.maxClauseCount

variable {policy looser : Policy} {query : String} {rejection other : Rejection}

private theorem Exceeded.eq_of_rank_eq (exceeded : policy.Exceeded query rejection)
    (also : policy.Exceeded query other) (same : rejection.rank = other.rank) :
    rejection = other := by
  cases exceeded with
  | length long =>
      cases also with
      | length _ => rfl
      | _ => cases same
  | tokens many =>
      cases also with
      | tokens _ => rfl
      | _ => cases same
  | leaves parsed many =>
      cases also with
      | leaves again _ =>
          rw [parsed] at again
          cases again
          rfl
      | _ => cases same

private theorem FirstExceeded.unique (first : policy.FirstExceeded query rejection)
    (also : policy.FirstExceeded query other) : rejection = other :=
  first.1.eq_of_rank_eq also.1 (Nat.le_antisymm (first.2 _ also.1) (also.2 _ first.1))

/-- The length passes if it is within its limit. -/
theorem checkLength_eq_ok_iff :
    policy.checkLength query = .ok () ↔ query.length ≤ policy.maxQueryLength.toNat := by
  rw [checkLength, Except.ite_error_eq_ok_iff, Nat.not_lt]

private theorem checkLength_eq_error_iff :
    policy.checkLength query = .error rejection ↔
      policy.maxQueryLength.toNat < query.length ∧
        .queryTooLong query.length policy.maxQueryLength.toNat = rejection := by
  rw [checkLength, Except.ite_error_eq_error_iff]

/-- The tokens pass if there are no more of them than their limit. -/
theorem checkTokens_eq_ok_iff {tokens : List Token} :
    policy.checkTokens tokens = .ok () ↔ tokens.length ≤ policy.maxTokenCount.toNat := by
  rw [checkTokens, Except.ite_error_eq_ok_iff, Nat.not_lt]

private theorem checkTokens_eq_error_iff {tokens : List Token} :
    policy.checkTokens tokens = .error rejection ↔
      policy.maxTokenCount.toNat < tokens.length ∧
        .tooManyTokens tokens.length policy.maxTokenCount.toNat = rejection := by
  rw [checkTokens, Except.ite_error_eq_error_iff]

/-- An expression passes if it has no more conditions than their limit. -/
theorem checkLeaves_eq_ok_iff {expr : Expr} :
    policy.checkLeaves expr = .ok () ↔ expr.conditions.length ≤ policy.maxLeafCount.toNat := by
  rw [checkLeaves, Expr.leafCount_eq_length_conditions, Except.ite_error_eq_ok_iff, Nat.not_lt]

private theorem checkLeaves_eq_error_iff {expr : Expr} :
    policy.checkLeaves expr = .error rejection ↔
      policy.maxLeafCount.toNat < expr.conditions.length ∧
        .tooManyLeaves expr.conditions.length policy.maxLeafCount.toNat = rejection := by
  rw [checkLeaves, Expr.leafCount_eq_length_conditions, Except.ite_error_eq_error_iff]

/-- A refusal names the first limit that the query exceeds. -/
theorem firstExceeded_of_validate (failed : policy.validate query = .error rejection) :
    policy.FirstExceeded query rejection := by
  rcases Except.bind_eq_error_iff.mp failed with refused | ⟨_, short, failed⟩
  · obtain ⟨long, rfl⟩ := checkLength_eq_error_iff.mp refused
    exact ⟨.length long, fun _ _ => Nat.zero_le _⟩
  have short := Nat.not_lt.mpr (checkLength_eq_ok_iff.mp short)
  rcases Except.bind_eq_error_iff.mp failed with refused | ⟨_, few, failed⟩
  · obtain ⟨many, rfl⟩ := checkTokens_eq_error_iff.mp refused
    refine ⟨.tokens many, fun other exceeded => ?_⟩
    cases exceeded with
    | length long => exact (short long).elim
    | tokens => exact Nat.le_refl 1
    | leaves => exact Nat.le_succ 1
  have few := Nat.not_lt.mpr (checkTokens_eq_ok_iff.mp few)
  cases parsed : Expr.parse (tokenize query) with
  | error error =>
      rw [parsed] at failed
      cases failed
  | ok expr =>
      rw [parsed] at failed
      obtain ⟨many, rfl⟩ := checkLeaves_eq_error_iff.mp failed
      refine ⟨.leaves parsed many, fun other exceeded => ?_⟩
      cases exceeded with
      | length long => exact (short long).elim
      | tokens many => exact (few many).elim
      | leaves => exact Nat.le_refl 2

private theorem not_exceeded_of_validate (passed : policy.validate query = .ok ())
    (rejection : Rejection) :
    ¬policy.Exceeded query rejection := by
  obtain ⟨_, short, passed⟩ := Except.bind_eq_ok_iff.mp passed
  obtain ⟨_, few, passed⟩ := Except.bind_eq_ok_iff.mp passed
  intro exceeded
  cases exceeded with
  | length long => exact Nat.not_lt.mpr (checkLength_eq_ok_iff.mp short) long
  | tokens many => exact Nat.not_lt.mpr (checkTokens_eq_ok_iff.mp few) many
  | leaves parsed many =>
      rw [parsed] at passed
      exact Nat.not_lt.mpr (checkLeaves_eq_ok_iff.mp passed) many

/-- Validation reports the first limit that is exceeded. -/
theorem validate_eq_error_iff :
    policy.validate query = .error rejection ↔ policy.FirstExceeded query rejection := by
  refine ⟨firstExceeded_of_validate, fun first => ?_⟩
  cases outcome : policy.validate query with
  | error reported => rw [(firstExceeded_of_validate outcome).unique first]
  | ok _ => exact (not_exceeded_of_validate outcome rejection first.1).elim

/-- A query passes exactly when it exceeds no limit. -/
theorem validate_eq_ok_iff :
    policy.validate query = .ok () ↔ ∀ rejection, ¬policy.Exceeded query rejection := by
  refine ⟨not_exceeded_of_validate, fun within => ?_⟩
  cases outcome : policy.validate query with
  | error reported => exact (within reported (firstExceeded_of_validate outcome).1).elim
  | ok _ => rfl

/-- Validation never refuses a query for its number of clauses. -/
theorem ne_tooManyClauses_of_validate (failed : policy.validate query = .error rejection)
    (count max : Nat) : rejection ≠ .tooManyClauses count max := by
  rintro rfl
  nomatch (firstExceeded_of_validate failed).1

/-- A query that passes is within the limits on its length and on its tokens. -/
theorem length_le_of_validate (passed : policy.validate query = .ok ()) :
    query.length ≤ policy.maxQueryLength.toNat ∧
      (tokenize query).length ≤ policy.maxTokenCount.toNat := by
  obtain ⟨_, short, passed⟩ := Except.bind_eq_ok_iff.mp passed
  obtain ⟨_, few, _⟩ := Except.bind_eq_ok_iff.mp passed
  exact ⟨checkLength_eq_ok_iff.mp short, checkTokens_eq_ok_iff.mp few⟩

private theorem Exceeded.of_looser (bound : policy.NoLooserThan looser)
    (exceeded : looser.Exceeded query rejection) : ∃ other, policy.Exceeded query other := by
  cases exceeded with
  | length long =>
      exact ⟨_, .length (Nat.lt_of_le_of_lt (UInt64.le_iff_toNat_le.mp bound.length) long)⟩
  | tokens many =>
      exact ⟨_, .tokens (Nat.lt_of_le_of_lt (UInt64.le_iff_toNat_le.mp bound.tokens) many)⟩
  | leaves parsed many =>
      exact ⟨_, .leaves parsed (Nat.lt_of_le_of_lt (UInt64.le_iff_toNat_le.mp bound.leaves) many)⟩

/-- What passes a policy passes every looser one. -/
theorem validate_of_noLooserThan (bound : policy.NoLooserThan looser)
    (passed : policy.validate query = .ok ()) : looser.validate query = .ok () := by
  refine validate_eq_ok_iff.mpr fun rejection exceeded => ?_
  obtain ⟨other, exceeded⟩ := exceeded.of_looser bound
  exact not_exceeded_of_validate passed other exceeded

/-- The tokens and the conditions of a text are no more than its characters, so one bound on these
is enough. -/
theorem not_exceeded_unbounded (short : query.length < UInt64.size) (rejection : Rejection) :
    ¬unbounded.Exceeded query rejection := by
  have limit : (UInt64.ofNat (UInt64.size - 1)).toNat = UInt64.size - 1 := rfl
  have tokens := length_tokenize_le query
  intro exceeded
  cases exceeded with
  | length long =>
      simp only [unbounded, limit] at long
      omega
  | tokens many =>
      simp only [unbounded, limit] at many
      omega
  | leaves parsed many =>
      have leaves := Expr.leafCount_le_of_parse parsed
      rw [Expr.leafCount_eq_length_conditions] at leaves
      simp only [unbounded, limit] at many
      omega

end Policy

end ColumnSearch
