import ColumnSearch.Proofs.Expr.Reading

/-!
# Where reading fails

A reading fails at the first token that it refuses, or at the end of the tokens if something is
still due there. The tokens before the failure can always be completed by a term, and the tokens
behind one that is refused are never looked at.
-/

namespace ColumnSearch

namespace Expr

namespace Reading

variable {reading next : Reading} {token : Token} {before tokens : List Token} {error : ParseError}

/-- Reading the tokens leads from one reading to the other. -/
def Reaches (reading : Reading) : List Token → Reading → Prop
  | [], final => reading = final
  | token :: rest, final => ∃ next, reading.step token = .ok next ∧ next.Reaches rest final

/-- The first of the remaining tokens, or the end if none remain, is refused for the cause. -/
def Refuses (reading : Reading) : List Token → ParseError.Cause → Prop
  | [], cause => reading.finish = .error cause
  | token :: _, cause => reading.step token = .error cause

private theorem run_append (reaches : reading.Reaches before next) (position : Nat)
    (rest : List Token) :
    reading.run position (before ++ rest) = next.run (position + before.length) rest := by
  induction before generalizing reading position with
  | nil =>
      cases reaches
      rfl
  | cons token before ih =>
      obtain ⟨after, step, reaches⟩ := reaches
      have shifted : position + 1 + before.length = position + (token :: before).length := by
        rw [List.length_cons, Nat.add_right_comm, Nat.add_assoc]
      rw [List.cons_append, run, step]
      simp only [ih reaches, shifted]

private theorem run_of_refuses {cause : ParseError.Cause} (refuses : reading.Refuses tokens cause)
    (position : Nat) : reading.run position tokens = .error ⟨position, cause⟩ := by
  cases tokens with
  | nil =>
      rw [run, show reading.finish = .error cause from refuses]
      rfl
  | cons token rest => rw [run, show reading.step token = .error cause from refuses]

/-- A run that fails takes some of the tokens and refuses what comes next. -/
theorem exists_refuses_of_run {position : Nat}
    (failed : reading.run position tokens = .error error) :
    ∃ before rest next, tokens = before ++ rest ∧ reading.Reaches before next ∧
      error.position = position + before.length ∧ next.Refuses rest error.cause := by
  induction tokens generalizing reading position with
  | nil =>
      rw [run] at failed
      cases finished : reading.finish with
      | ok expr =>
          rw [finished] at failed
          cases failed
      | error cause =>
          rw [finished] at failed
          cases failed
          exact ⟨[], [], reading, rfl, rfl, rfl, finished⟩
  | cons token rest ih =>
      rw [run] at failed
      cases stepped : reading.step token with
      | error cause =>
          rw [stepped] at failed
          cases failed
          exact ⟨[], token :: rest, reading, rfl, rfl, rfl, stepped⟩
      | ok next =>
          rw [stepped] at failed
          obtain ⟨before, rest, final, rfl, reaches, place, refuses⟩ := ih failed
          refine ⟨token :: before, rest, final, rfl, ⟨next, stepped, reaches⟩, ?_, refuses⟩
          rw [place, List.length_cons, Nat.add_right_comm, Nat.add_assoc]

/-- Wherever reading has come, it can end behind one more term. -/
theorem exists_run_term (reading : Reading) (position : Nat) (term : token.isTerm = true) :
    ∃ expr, reading.run position [token] = .ok expr := by
  have named := Token.isTerm_iff.mp term
  have accepted : ∃ factors, reading.step token = .ok (reading.addFactors factors) := by
    by_cases expects : reading.expects = .negated
    · exact ⟨_, step_negated expects named⟩
    · exact ⟨_, step_term expects named⟩
  obtain ⟨factors, step⟩ := accepted
  have finished : (reading.addFactors factors).finish = .ok _ := finish_connector rfl
  exact ⟨_, (run_eq_ok_iff reading position).mpr ⟨_, step, finished⟩⟩

end Reading

/-- An error stands at the first offending token, or at the end of the tokens. Nothing before it is
at fault, since any term in its place completes an expression, and nothing behind it can mend it. -/
theorem error_stands_at_first_offender {tokens : List Token} {error : ParseError}
    (failed : parse tokens = .error error) :
    error.position ≤ tokens.length ∧
    (∀ term : Token, term.isTerm = true →
      ∃ expr, parse (tokens.take error.position ++ [term]) = .ok expr) ∧
    (error.position < tokens.length →
      ∀ others, tokens.take (error.position + 1) <+: others → parse others = .error error) := by
  obtain ⟨before, rest, reading, rfl, reaches, place, refuses⟩ :=
    Reading.exists_refuses_of_run failed
  rw [Nat.zero_add] at place
  rw [place, List.length_append]
  refine ⟨Nat.le_add_right _ _, fun term named => ?_, fun inside => ?_⟩
  · rw [List.take_left, parse, Reading.run_append reaches]
    exact reading.exists_run_term _ named
  · cases rest with
    | nil => exact (Nat.lt_irrefl _ inside).elim
    | cons token rest =>
        rintro _ ⟨later, rfl⟩
        have same : (before ++ token :: rest).take (before.length + 1) = before ++ [token] := by
          rw [List.take_length_add_append, List.take_succ_cons, List.take_zero]
        have refused : reading.Refuses (token :: later) error.cause := refuses
        rw [same, List.append_assoc, List.singleton_append, parse, Reading.run_append reaches,
          Reading.run_of_refuses refused, Nat.zero_add, ← place]

/-- `NOT` before a group is refused inside another group and behind a surplus parenthesis. -/
theorem error_stands_at_first_offender_negated_group :
    let read : List Token := [⟨.word, "a"⟩, ⟨.paren, ")"⟩, ⟨.paren, "("⟩, ⟨.word, "b"⟩,
      ⟨.operator, "OR"⟩, ⟨.operator, "NOT"⟩]
    parse (read ++ [⟨.paren, "("⟩, ⟨.word, "c"⟩]) = .error ⟨6, .missingTerm⟩ ∧
    (∃ expr, parse (read ++ [⟨.quoted, "c"⟩]) = .ok expr) ∧
    parse (read ++ [⟨.paren, "("⟩, ⟨.operator, "AND"⟩]) = .error ⟨6, .missingTerm⟩ := by
  intro read
  have failed : parse (read ++ [⟨.paren, "("⟩, ⟨.word, "c"⟩]) = .error ⟨6, .missingTerm⟩ := rfl
  obtain ⟨_, completed, refused⟩ := error_stands_at_first_offender failed
  refine ⟨failed, completed ⟨.quoted, "c"⟩ rfl, refused (by decide) _ ?_⟩
  exact ⟨[⟨.operator, "AND"⟩], rfl⟩

end Expr

end ColumnSearch
