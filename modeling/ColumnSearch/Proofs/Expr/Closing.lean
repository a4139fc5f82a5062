import ColumnSearch.Proofs.Expr.Reached
import ColumnSearch.Proofs.Expr.Terms

/-!
# Missing and surplus closing parentheses

Closing parentheses at the end of the tokens close the groups that are open there, as the end itself
does, and are passed over once no group is open. In the middle, a parenthesis that closes nothing
ends a part: what follows is read as if it stood alone, and is joined by `AND` to what precedes.
-/

namespace ColumnSearch

namespace Token

/-- The tokens followed by as many closing parentheses as there are groups open behind them. -/
def closeGroups (tokens : List Token) : List Token :=
  tokens ++ List.replicate (openGroups tokens) ⟨.paren, ")"⟩

private theorem openGroups_append_closings (tokens : List Token) (count : Nat) :
    openGroups (tokens ++ List.replicate count ⟨.paren, ")"⟩) = openGroups tokens - count := by
  induction count with
  | zero => rw [List.replicate_zero, List.append_nil, Nat.sub_zero]
  | succ count ih =>
      rw [List.replicate_succ', ← List.append_assoc, openGroups, List.foldl_append, ← openGroups,
        ih, List.foldl_cons, List.foldl_nil, openAfter_closing rfl, Nat.sub_sub]

private theorem openGroups_closeGroups (tokens : List Token) :
    openGroups (closeGroups tokens) = 0 := by
  rw [closeGroups, openGroups_append_closings, Nat.sub_self]

end Token

namespace Expr

namespace Reading

variable {reading next final : Reading} {token : Token} {tokens : List Token} {expr : Expr}

/-- The parts of the search if the tokens end here. -/
def allParts (reading : Reading) : List Expr :=
  if reading.expects = .part then reading.parts
  else reading.parts ++ [reading.frame.closeAll reading.outer]

private theorem finish_eq_ok_iff :
    reading.finish = .ok expr ↔ reading.Complete ∧ join .and reading.allParts = expr := by
  unfold finish Complete allParts
  cases reading.expects with
  | operand => simp
  | negated => simp
  | connector => simp
  | part => simp

private theorem allParts_close (expects : reading.expects = .connector) :
    reading.close.allParts = reading.allParts := by
  cases outside : reading.outer with
  | nil => simp [allParts, expects, outside, close_of_outer_eq_nil outside, Frame.closeAll]
  | cons frame others =>
      simp [allParts, expects, outside, close_of_outer_eq_cons outside, Frame.closeAll]

private theorem exists_advance_closing (complete : reading.Complete)
    (closes : token.role = .closing) :
    ∃ next, reading.Advance token next := by
  rcases complete with expects | expects
  · exact ⟨_, .closing expects closes⟩
  · exact ⟨_, .surplus expects closes⟩

/-- A closing parenthesis is read only where the tokens may end, and changes no part. -/
theorem Advance.allParts_eq (advance : reading.Advance token next)
    (closes : token.role = .closing) :
    reading.Complete ∧ next.Complete ∧ next.allParts = reading.allParts := by
  cases advance with
  | closing expects _ => exact ⟨.inl expects, complete_close expects, allParts_close expects⟩
  | surplus expects _ => exact ⟨.inr expects, .inr expects, rfl⟩
  | opening _ role => cases role.symm.trans closes
  | negation _ role => cases role.symm.trans closes
  | term _ role => cases role.symm.trans closes
  | negated _ role => cases role.symm.trans closes
  | sign _ role => cases role.symm.trans closes
  | and _ role => cases role.symm.trans closes
  | or _ role => cases role.symm.trans closes

private theorem yields_closing (closes : token.role = .closing) :
    reading.Yields [token] expr ↔ reading.Yields [] expr := by
  simp only [Yields, step_eq_ok_iff, finish_eq_ok_iff]
  constructor
  · rintro ⟨next, advance, _, rfl⟩
    obtain ⟨complete, _, same⟩ := advance.allParts_eq closes
    exact ⟨complete, by rw [same]⟩
  · rintro ⟨complete, rfl⟩
    obtain ⟨next, advance⟩ := exists_advance_closing complete closes
    obtain ⟨_, ended, same⟩ := advance.allParts_eq closes
    exact ⟨next, advance, ended, by rw [same]⟩

private theorem yields_closings (count : Nat) :
    reading.Yields (List.replicate count ⟨.paren, ")"⟩) expr ↔ reading.Yields [] expr := by
  induction count generalizing reading with
  | zero => rfl
  | succ count ih =>
      have first : reading.Yields [⟨.paren, ")"⟩] expr ↔ reading.Yields [] expr :=
        yields_closing rfl
      rw [← first, List.replicate_succ, Yields, Yields]
      exact exists_congr fun next => and_congr_right fun _ => ih

/-- The reading with other parts in front of its own. -/
def afterParts (reading : Reading) (parts : List Expr) : Reading :=
  { reading with parts := parts ++ reading.parts }

private theorem close_afterParts (parts : List Expr) :
    (reading.afterParts parts).close = reading.close.afterParts parts := by
  unfold close afterParts
  cases reading.outer with
  | nil => simp
  | cons frame others => simp

private theorem allParts_afterParts (parts : List Expr) :
    (reading.afterParts parts).allParts = parts ++ reading.allParts := by
  unfold allParts afterParts
  by_cases ended : reading.expects = .part
  · rw [if_pos ended, if_pos ended]
  · rw [if_neg ended, if_neg ended, List.append_assoc]

/-- Parts that are finished have no influence on how the tokens behind them are read. -/
theorem Advance.afterParts (advance : reading.Advance token next) (parts : List Expr) :
    (reading.afterParts parts).Advance token (next.afterParts parts) := by
  cases advance with
  | opening expects opens room => exact .opening expects opens room
  | negation expects negates => exact .negation expects negates
  | term expects named => exact .term expects named
  | negated expects named => exact .negated expects named
  | sign expects named => exact .sign expects named
  | and expects named => exact .and expects named
  | or expects named => exact .or expects named
  | closing expects closes =>
      rw [← close_afterParts]
      exact .closing expects closes
  | surplus expects closes => exact .surplus expects closes

private theorem exists_parts_of_yields (yields : reading.Yields tokens expr) :
    ∃ parts, expr = join .and parts ∧
      ∀ earlier, (reading.afterParts earlier).Yields tokens (join .and (earlier ++ parts)) := by
  induction tokens generalizing reading with
  | nil =>
      obtain ⟨complete, rfl⟩ := finish_eq_ok_iff.mp yields
      refine ⟨reading.allParts, rfl, fun earlier => ?_⟩
      exact finish_eq_ok_iff.mpr ⟨complete, by rw [allParts_afterParts]⟩
  | cons token rest ih =>
      obtain ⟨next, step, yields⟩ := yields
      obtain ⟨parts, same, later⟩ := ih yields
      refine ⟨parts, same, fun earlier => ⟨next.afterParts earlier, ?_, later earlier⟩⟩
      exact step_of_advance ((advance_of_step step).afterParts earlier)

/-- Outside all groups a closing parenthesis ends the part. -/
theorem advance_closing_outside (complete : reading.Complete) (rests : reading.RestsBetweenParts)
    (outside : reading.outer = []) (closes : token.role = .closing) :
    reading.Advance token { parts := reading.allParts, expects := .part } := by
  rcases complete with expects | expects
  · have parts : reading.allParts = reading.parts ++ [reading.frame.toExpr] := by
      simp [allParts, expects, outside, Frame.closeAll]
    rw [parts, ← close_of_outer_eq_nil outside]
    exact .closing expects closes
  · rw [allParts, if_pos expects, ← rests expects]
    exact .surplus expects closes

/-- Behind a finished part, tokens that can be read on their own give their parts. -/
theorem exists_parts_behind (yields : Yields {} tokens expr) :
    ∃ parts, expr = join .and parts ∧ ∀ earlier,
      Yields { parts := earlier, expects := .part } tokens (join .and (earlier ++ parts)) := by
  obtain ⟨first, rest, rfl, starts⟩ := Grammar.exists_head_of_yields yields rfl
  obtain ⟨parts, same, later⟩ := exists_parts_of_yields yields
  refine ⟨parts, same, fun earlier => ?_⟩
  have begun : ((afterParts {} earlier).expecting .part).Yields (first :: rest)
      (join .and (earlier ++ parts)) :=
    (yields_expecting Expectation.noConfusion Expectation.noConfusion starts).mpr (later earlier)
  rwa [expecting, afterParts, List.append_nil] at begun

end Reading

/-- Missing and surplus closing parentheses at the end are immaterial. In particular a search whose
groups are not all closed has the expression of the search in which they are. -/
theorem closings_at_end_are_immaterial (tokens : List Token) (expr : Expr) :
    (∀ count, parse tokens = .ok expr ↔
      parse (tokens ++ List.replicate count ⟨.paren, ")"⟩) = .ok expr) ∧
    Token.openGroups (Token.closeGroups tokens) = 0 ∧
    (parse tokens = .ok expr ↔ parse (Token.closeGroups tokens) = .ok expr) := by
  have closings : ∀ count, parse tokens = .ok expr ↔
      parse (tokens ++ List.replicate count ⟨.paren, ")"⟩) = .ok expr := by
    intro count
    have ended : parse tokens = .ok expr ↔ parse (tokens ++ []) = .ok expr := by
      rw [List.append_nil]
    rw [ended]
    exact Reading.parse_append_congr fun reading _ => (Reading.yields_closings count).symm
  exact ⟨closings, Token.openGroups_closeGroups tokens, closings _⟩

-- Two parentheses close the groups, and a third one is passed over.
example :
    let tokens : List Token := [⟨.paren, "("⟩, ⟨.word, "a"⟩, ⟨.operator, "OR"⟩, ⟨.paren, "("⟩,
      ⟨.word, "b"⟩, ⟨.word, "c"⟩]
    Token.openGroups tokens = 2 ∧ parse (tokens ++ List.replicate 3 ⟨.paren, ")"⟩) =
      .ok (group .or [leaf (.word "a"), group .and [leaf (.word "b"), leaf (.word "c")]]) :=
  ⟨rfl, rfl⟩

/-- What follows a parenthesis that closes nothing is joined by `AND` to what precedes it, whatever
connectives stand on either side. -/
theorem stray_closing_joins_by_and {before after : List Token} {first second : Expr}
    (parsedBefore : parse before = .ok first) (closed : Token.openGroups before = 0)
    (parsedAfter : parse after = .ok second) :
    ∃ expr, parse (before ++ [⟨.paren, ")"⟩] ++ after) = .ok expr ∧
      expr.conditions = first.conditions ++ second.conditions ∧
      ∀ valuation, expr.holds valuation = true ↔
        first.holds valuation = true ∧ second.holds valuation = true := by
  rw [← List.append_nil before, Reading.parse_append_eq_ok_iff] at parsedBefore
  obtain ⟨reading, reaches, ended⟩ := parsedBefore
  obtain ⟨complete, rfl⟩ := Reading.finish_eq_ok_iff.mp ended
  have outside : reading.outer = [] := by
    rw [← List.length_eq_zero_iff, Reading.length_outer_of_reaches reaches, closed]
  have rests := reaches.restsBetweenParts Reading.restsBetweenParts_start
  obtain ⟨parts, rfl, later⟩ :=
    Reading.exists_parts_behind (Reading.parse_eq_ok_iff_yields.mp parsedAfter)
  refine ⟨join .and (reading.allParts ++ parts), ?_, ?_, fun valuation => ?_⟩
  · rw [Reading.parse_append_eq_ok_iff]
    refine ⟨_, ?_, later _⟩
    exact Reading.reaches_concat.mpr
      ⟨reading, reaches, Reading.advance_closing_outside complete rests outside rfl⟩
  · simp only [conditions_join, List.flatMap_append]
  · simp only [holds_join_and, List.all_append, Bool.and_eq_true]

/-- Two disjunctions on either side of a parenthesis that closes nothing stay apart, also if another
one stands before them and a group after them is never closed. -/
theorem stray_closing_joins_by_and_disjunctions :
    let before : List Token := [⟨.paren, "("⟩, ⟨.word, "a"⟩, ⟨.paren, ")"⟩, ⟨.paren, ")"⟩,
      ⟨.word, "b"⟩, ⟨.operator, "OR"⟩, ⟨.word, "c"⟩]
    let after : List Token := [⟨.word, "d"⟩, ⟨.operator, "OR"⟩, ⟨.paren, "("⟩, ⟨.word, "e"⟩]
    ∃ expr, parse (before ++ [⟨.paren, ")"⟩] ++ after) = .ok expr ∧
      expr.conditions = ["a", "b", "c", "d", "e"].map Condition.word ∧
      ∀ valuation, expr.holds valuation = true ↔
        (valuation (.word "a") = true ∧
          (valuation (.word "b") = true ∨ valuation (.word "c") = true)) ∧
        (valuation (.word "d") = true ∨ valuation (.word "e") = true) := by
  intro before after
  have parsedBefore : parse before = .ok (group .and [leaf (.word "a"),
      group .or [leaf (.word "b"), leaf (.word "c")]]) := rfl
  have parsedAfter : parse after = .ok (group .or [leaf (.word "d"), leaf (.word "e")]) := rfl
  obtain ⟨expr, joined, conditions, holds⟩ :=
    stray_closing_joins_by_and parsedBefore (by decide) parsedAfter
  refine ⟨expr, joined, conditions.trans rfl, fun valuation => ?_⟩
  rw [holds valuation]
  simp

end Expr

end ColumnSearch
