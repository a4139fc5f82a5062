import ColumnSearch.Proofs.Search.Limits
import ColumnSearch.Proofs.Token.Pieces

/-!
# Searches that differ in their separators

Two texts with the same pieces have the same tokens, and a search depends on its text only through
its tokens and its length. The length is compared with a limit and reported among the sizes, and
influences nothing else.
-/

namespace ColumnSearch

/-- The same filters and sizes, except for the length. -/
def Compiled.withLength (compiled : Compiled) (length : Nat) : Compiled :=
  { compiled with metrics := compiled.metrics.map fun metrics => { metrics with length } }

namespace Search

variable {policy : Policy} {target : Target} {first second : String}

/-- For a query that is short enough, only the number of tokens is left to check. -/
theorem tokens_of_length_le {query : String}
    (short : query.length ≤ policy.maxQueryLength.toNat) :
    tokens policy query = (do
      (policy.checkTokens (tokenize query)).mapError .rejected
      return tokenize query) := by
  rw [tokens, Policy.checkLength_eq_ok_iff.mpr short, Except.mapError_ok, Except.ok_bind]

private theorem compile_of_lt_length {query : String}
    (long : policy.maxQueryLength.toNat < query.length) (target : Target) :
    compile policy target query =
      .error (.rejected (.queryTooLong query.length policy.maxQueryLength.toNat)) := by
  rw [compile, tokens, Policy.checkLength, if_pos long, Except.mapError_error, Except.error_bind,
    Except.error_bind]

/-- Within the limit on characters, a search depends on its text only through its tokens, and shows
the length of the text only among its sizes. -/
theorem compile_of_tokenize_eq (same : tokenize first = tokenize second)
    (short : first.length ≤ policy.maxQueryLength.toNat)
    (fits : second.length ≤ policy.maxQueryLength.toNat) (target : Target) :
    compile policy target second =
      (compile policy target first).map (·.withLength second.length) := by
  rw [compile, compile, tokens_of_length_le short, tokens_of_length_le fits, same]
  cases policy.checkTokens (tokenize second) with
  | error many => rfl
  | ok _ =>
      simp only [Except.mapError_ok, Except.ok_bind, pure_bind]
      cases Expr.parse (tokenize second) with
      | error error => rfl
      | ok expr =>
          simp only [Except.mapError_ok, Except.ok_bind]
          cases policy.checkLeaves expr with
          | error many => rfl
          | ok _ =>
              simp only [Except.mapError_ok, Except.ok_bind]
              cases expr.clausesWithin policy.maxClauseCount.toNat with
              | error many => rfl
              | ok clauses =>
                  simp only [Except.mapError_ok, Except.ok_bind]
                  cases FilterSet.ofClauses target clauses with
                  | error fault => rfl
                  | ok filters => cases measured : policy.measured <;> rfl

/-- A separator behind an even number of double quotes divides the tokens of a text, and its pieces
as well. So two texts with the same pieces, whatever separators stand between them, have the same
tokens. They fail alike or have the same filters and sizes under every limit on characters that
neither of them exceeds. Only the length among the sizes is that of the text at hand. -/
theorem separators_only_divide :
    (∀ (first second : String) (c : Char), Token.IsSeparator c →
      Even (first.toList.count '"') →
      tokenize (first ++ String.singleton c ++ second) = tokenize first ++ tokenize second ∧
      Token.filledPieces (first ++ String.singleton c ++ second) =
        Token.filledPieces first ++ Token.filledPieces second) ∧
    ∀ first second, Token.filledPieces first = Token.filledPieces second →
      tokenize first = tokenize second ∧
      ∀ (policy : Policy) (target : Target),
        (first.length ≤ policy.maxQueryLength.toNat → second.length ≤ policy.maxQueryLength.toNat →
          compile policy target second =
            (compile policy target first).map (·.withLength second.length)) ∧
        (policy.maxQueryLength.toNat < second.length →
          compile policy target second =
            .error (.rejected (.queryTooLong second.length policy.maxQueryLength.toNat))) := by
  refine ⟨fun first second c separates outside => ?_, fun first second pieces => ?_⟩
  · exact ⟨tokenize_append_separator outside separates second,
      Token.filledPieces_append_separator outside separates second⟩
  · have same : tokenize first = tokenize second := by
      rw [tokenize_eq_flatMap_filledPieces, tokenize_eq_flatMap_filledPieces, pieces]
    refine ⟨same, fun policy target => ⟨fun short fits => ?_, fun long => ?_⟩⟩
    · exact compile_of_tokenize_eq same short fits target
    · exact compile_of_lt_length long target

/-- A comma divides as a blank, a semicolon and another blank do. -/
theorem separators_only_divide_comma :
    let policy : Policy := { maxQueryLength := 7 }
    let target : Target := ⟨"Tickets", "Priority"⟩
    Token.IsSeparator ',' ∧ Even ("\"a\"".toList.count '"') ∧
    tokenize ("\"a\"" ++ String.singleton ',' ++ "b") = tokenize "\"a\"" ++ tokenize "b" ∧
    Token.filledPieces "\"a\",b" = Token.filledPieces "\"a\" ; b" ∧
    compile policy target "\"a\" ; b" =
      (compile policy target "\"a\",b").map (·.withLength 7) := by
  intro policy target
  have separates : Token.IsSeparator ',' := by decide +kernel
  have outside : Even ("\"a\"".toList.count '"') := by decide
  have pieces : Token.filledPieces "\"a\",b" = Token.filledPieces "\"a\" ; b" := by decide +kernel
  obtain ⟨divide, respace⟩ := separators_only_divide
  refine ⟨separates, outside, (divide _ _ _ separates outside).1, pieces, ?_⟩
  exact ((respace _ _ pieces).2 policy target).1 (by decide) (by decide)

/-- A second blank between two words is seen in the sizes, which are part of what a search compiles
to. -/
theorem spacing_shows_in_sizes :
    let policy : Policy := { measured := true }
    let target : Target := ⟨"Tickets", "Priority"⟩
    let filters : FilterSet :=
      .single (.ofTests target .and [⟨.contains, "a"⟩, ⟨.contains, "b"⟩])
    Token.filledPieces "a b" = Token.filledPieces "a  b" ∧
    policy.checkLength "a b" = .ok () ∧ policy.checkLength "a  b" = .ok () ∧
    compile policy target "a b" = .ok ⟨filters, some ⟨3, 2, 2, 2, 1⟩⟩ ∧
    compile policy target "a  b" = .ok ⟨filters, some ⟨4, 2, 2, 2, 1⟩⟩ ∧
    compile policy target "a b" ≠ compile policy target "a  b" := by
  intro policy target filters
  have facts : Token.filledPieces "a b" = Token.filledPieces "a  b" ∧
      compile policy target "a b" = .ok ⟨filters, some ⟨3, 2, 2, 2, 1⟩⟩ ∧
      compile policy target "a  b" = .ok ⟨filters, some ⟨4, 2, 2, 2, 1⟩⟩ := by
    decide +kernel
  obtain ⟨pieces, narrow, wide⟩ := facts
  refine ⟨pieces, by decide, by decide, narrow, wide, ?_⟩
  rw [narrow, wide]
  simp

end Search

end ColumnSearch
