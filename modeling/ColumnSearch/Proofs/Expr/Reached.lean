import ColumnSearch.Proofs.Expr.Failure

/-!
# What tokens lead to

`Expr.Reading.Advance` lists everything that reading one token can do. What holds of all readings
that tokens lead to follows from it: how many groups are open is seen from the parentheses alone,
and what may come next is seen from the last token and that number.
-/

namespace ColumnSearch

namespace Token

/-- The number of groups open behind a token, given how many are open before it. A parenthesis that
closes nothing leaves none open. -/
def openAfter (depth : Nat) (token : Token) : Nat :=
  if token.isOpenParen then depth + 1 else if token.isCloseParen then depth - 1 else depth

/-- The number of groups that are open behind tokens. -/
def openGroups (tokens : List Token) : Nat :=
  tokens.foldl openAfter 0

/-- The tokens end with an operand: the last one is a term, or closes a group that the tokens before
it leave open. -/
def EndsOperand (tokens : List Token) : Prop :=
  ∃ before last, tokens = before ++ [last] ∧
    (last.isTerm = true ∨ last.isCloseParen = true ∧ 0 < openGroups before)

variable {token : Token} {depth : Nat}

private theorem openAfter_opening (opens : token.role = .opening) :
    openAfter depth token = depth + 1 := by
  rw [openAfter, if_pos (isOpenParen_iff.mpr opens)]

/-- A closing parenthesis closes one group, if one is open. -/
theorem openAfter_closing (closes : token.role = .closing) :
    openAfter depth token = depth - 1 := by
  have other : ¬token.isOpenParen = true := by
    rw [isOpenParen_iff, closes]
    exact Role.noConfusion
  rw [openAfter, if_neg other, if_pos (isCloseParen_iff.mpr closes)]

private theorem openAfter_other (opening : token.role ≠ .opening)
    (closing : token.role ≠ .closing) :
    openAfter depth token = depth := by
  rw [openAfter, if_neg (mt isOpenParen_iff.mp opening), if_neg (mt isCloseParen_iff.mp closing)]

end Token

namespace Expr.Reading

open Grammar

variable {reading next final : Reading} {token : Token} {before rest tokens : List Token}
  {expr : Expr}

/-- What reading one token can do. -/
inductive Advance (reading : Reading) (token : Token) : Reading → Prop where
  | opening (expects : reading.expects ≠ .negated) (opens : token.role = .opening)
    (room : reading.outer.length < maxNesting) : Advance reading token reading.enter
  | negation (expects : reading.expects ≠ .negated) (negates : token.role = .negation) :
    Advance reading token (reading.expecting .negated)
  | term (expects : reading.expects ≠ .negated) (named : token.role = .term) :
    Advance reading token (reading.addFactors [.leaf (.ofTerm token)])
  | negated (expects : reading.expects = .negated) (named : token.role = .term) :
    Advance reading token
      (reading.addFactors [.leaf ((Condition.ofTerm token).withPolarity .excluded)])
  | sign (expects : reading.expects = .connector) (named : token.role = .sign) :
    Advance reading token reading
  | and (expects : reading.expects = .connector) (named : token.role = .connective .and) :
    Advance reading token (reading.expecting .operand)
  | or (expects : reading.expects = .connector) (named : token.role = .connective .or) :
    Advance reading token reading.nextAlternative
  | closing (expects : reading.expects = .connector) (closes : token.role = .closing) :
    Advance reading token reading.close
  /-- A parenthesis that closes nothing, right behind another one. -/
  | surplus (expects : reading.expects = .part) (closes : token.role = .closing) :
    Advance reading token reading

private theorem advance_of_operand (expects : reading.expects ≠ .negated)
    (step : reading.operand token = .ok next) : reading.Advance token next := by
  have starts := startsOperand_of_operand step
  rw [operand_eq] at step
  rcases starts with role | role | role
  · rw [role] at step
    by_cases deep : maxNesting ≤ reading.outer.length
    · simp only [deep, ↓reduceIte, reduceCtorEq] at step
    · simp only [deep, ↓reduceIte, Except.ok.injEq] at step
      exact step ▸ .opening expects role (Nat.not_le.mp deep)
  · rw [role] at step
    cases step
    exact .negation expects role
  · rw [role] at step
    cases step
    exact .term expects role

private theorem advance_of_connector (expects : reading.expects = .connector)
    (step : reading.connector token = .ok next) : reading.Advance token next := by
  rw [connector_eq] at step
  cases role : token.role with
  | closing =>
      rw [role] at step
      cases step
      exact .closing expects role
  | sign =>
      rw [role] at step
      cases step
      exact .sign expects role
  | connective op =>
      rw [role] at step
      cases op with
      | and =>
          cases step
          exact .and expects role
      | or =>
          cases step
          exact .or expects role
  | _ =>
      rw [role] at step
      exact advance_of_operand (expects ▸ Expectation.noConfusion) step

/-- A step that succeeds is one of those that `Advance` lists. -/
theorem advance_of_step (step : reading.step token = .ok next) : reading.Advance token next := by
  unfold Reading.step at step
  cases expects : reading.expects with
  | operand =>
      rw [expects] at step
      exact advance_of_operand (expects ▸ Expectation.noConfusion) step
  | negated =>
      rw [expects] at step
      dsimp only at step
      rw [negated_eq] at step
      by_cases named : token.role = .term
      · rw [if_pos named] at step
        cases step
        exact .negated expects named
      · rw [if_neg named] at step
        cases step
  | connector =>
      rw [expects] at step
      exact advance_of_connector expects step
  | part =>
      rw [expects] at step
      dsimp only at step
      by_cases closes : token.isCloseParen = true
      · rw [if_pos closes] at step
        cases step
        exact .surplus expects (Token.isCloseParen_iff.mp closes)
      · rw [if_neg closes] at step
        exact advance_of_operand (expects ▸ Expectation.noConfusion) step

/-- Each step that `Advance` lists succeeds. -/
theorem step_of_advance (advance : reading.Advance token next) : reading.step token = .ok next := by
  cases advance with
  | opening expects opens room => exact step_opening expects opens room
  | negation expects negates => exact step_negation expects negates
  | term expects named => exact step_term expects named
  | negated expects named => exact step_negated expects named
  | sign expects named => exact step_sign expects named
  | and expects named => exact step_and expects named
  | or expects named => exact step_or expects named
  | closing expects closes => exact step_closing expects closes
  | surplus expects closes => exact step_part_closing expects closes

/-- The steps that succeed are those that `Advance` lists. -/
theorem step_eq_ok_iff : reading.step token = .ok next ↔ reading.Advance token next :=
  ⟨advance_of_step, step_of_advance⟩

/-- Where an operand starts, it makes no difference whether one was due. -/
theorem yields_expecting {expectation : Expectation} (expects : reading.expects ≠ .negated)
    (free : expectation ≠ .negated) (starts : StartsOperand token.role) :
    (reading.expecting expectation).Yields (token :: rest) expr ↔
      reading.Yields (token :: rest) expr := by
  have due : (reading.expecting expectation).step token = reading.operand token :=
    step_of_startsOperand free starts
  rw [Yields, Yields, step_of_startsOperand expects starts, due]

private theorem reaches_append :
    reading.Reaches (before ++ rest) final ↔
      ∃ middle, reading.Reaches before middle ∧ middle.Reaches rest final := by
  induction before generalizing reading with
  | nil => simp only [List.nil_append, Reaches, exists_eq_left']
  | cons token before ih =>
      simp only [List.cons_append, Reaches, ih]
      grind

/-- What is reached by several tokens is reached by the last one from what the others reach. -/
theorem reaches_concat :
    reading.Reaches (before ++ [token]) final ↔
      ∃ middle, reading.Reaches before middle ∧ middle.Advance token final := by
  simp only [reaches_append, Reaches, exists_eq_right, step_eq_ok_iff]

private theorem yields_append :
    reading.Yields (before ++ rest) expr ↔
      ∃ middle, reading.Reaches before middle ∧ middle.Yields rest expr := by
  induction before generalizing reading with
  | nil => simp only [List.nil_append, Reaches, exists_eq_left']
  | cons token before ih =>
      simp only [List.cons_append, Yields, Reaches, ih]
      grind

/-- Parsing can be cut anywhere: the first tokens reach a state, from which the others yield the
expression. -/
theorem parse_append_eq_ok_iff :
    parse (before ++ rest) = .ok expr ↔
      ∃ reading, Reaches {} before reading ∧ reading.Yields rest expr := by
  rw [parse_eq_ok_iff_yields, yields_append]

/-- Tokens can be exchanged where every reading of what precedes them ends alike with both. -/
theorem parse_append_congr {others : List Token}
    (alike : ∀ reading, Reaches {} before reading →
      (reading.Yields tokens expr ↔ reading.Yields others expr)) :
    parse (before ++ tokens) = .ok expr ↔ parse (before ++ others) = .ok expr := by
  rw [parse_append_eq_ok_iff, parse_append_eq_ok_iff]
  exact exists_congr fun reading => and_congr_right (alike reading)

/-- The tokens may end here. -/
def Complete (reading : Reading) : Prop :=
  reading.expects = .connector ∨ reading.expects = .part

/-- After a closing parenthesis an expression could end. -/
theorem complete_close (expects : reading.expects = .connector) : reading.close.Complete := by
  cases outside : reading.outer with
  | nil => exact .inr (by rw [close_of_outer_eq_nil outside])
  | cons frame others => exact .inl (by rw [close_of_outer_eq_cons outside, expects])

/-- Between two parts nothing but the finished parts is known. -/
def RestsBetweenParts (reading : Reading) : Prop :=
  reading.expects = .part → reading = { parts := reading.parts, expects := .part }

private theorem restsBetweenParts_of_ne (expects : reading.expects ≠ .part) :
    reading.RestsBetweenParts :=
  fun ended => (expects ended).elim

private theorem RestsBetweenParts.outer_eq_nil (rests : reading.RestsBetweenParts)
    (expects : reading.expects = .part) : reading.outer = [] := by
  rw [rests expects]

private theorem restsBetweenParts_close (expects : reading.expects = .connector) :
    reading.close.RestsBetweenParts := by
  cases outside : reading.outer with
  | nil =>
      rw [close_of_outer_eq_nil outside]
      exact fun _ => rfl
  | cons frame others =>
      apply restsBetweenParts_of_ne
      simp [close_of_outer_eq_cons outside, expects]

private theorem length_outer_close : reading.close.outer.length = reading.outer.length - 1 := by
  cases outside : reading.outer with
  | nil => rw [close_of_outer_eq_nil outside, List.length_nil]
  | cons frame others => simp [close_of_outer_eq_cons outside]

private theorem Advance.restsBetweenParts (advance : reading.Advance token next)
    (rests : reading.RestsBetweenParts) : next.RestsBetweenParts := by
  cases advance with
  | closing expects closes => exact restsBetweenParts_close expects
  | sign expects named => exact rests
  | surplus expects closes => exact rests
  | _ => exact restsBetweenParts_of_ne Expectation.noConfusion

private theorem Advance.length_outer (advance : reading.Advance token next)
    (rests : reading.RestsBetweenParts) :
    next.outer.length = Token.openAfter reading.outer.length token := by
  cases advance with
  | opening expects opens room => rw [Token.openAfter_opening opens, enter, List.length_cons]
  | closing expects closes => rw [Token.openAfter_closing closes, length_outer_close]
  | surplus expects closes =>
      -- There is no group that the parenthesis could close, and the number stays zero.
      rw [Token.openAfter_closing closes, rests.outer_eq_nil expects, List.length_nil]
  | negation expects role => simp [Token.openAfter_other, role, expecting]
  | term expects role => simp [Token.openAfter_other, role, addFactors, within]
  | negated expects role => simp [Token.openAfter_other, role, addFactors, within]
  | sign expects role => simp [Token.openAfter_other, role]
  | and expects role => simp [Token.openAfter_other, role, expecting]
  | or expects role => simp [Token.openAfter_other, role, nextAlternative]

/-- That nothing but the finished parts is known between two parts is kept along every run of
tokens. -/
theorem Reaches.restsBetweenParts (reaches : reading.Reaches tokens final)
    (rests : reading.RestsBetweenParts) : final.RestsBetweenParts := by
  induction tokens generalizing reading with
  | nil => exact reaches ▸ rests
  | cons token rest ih =>
      obtain ⟨next, step, reaches⟩ := reaches
      exact ih reaches ((advance_of_step step).restsBetweenParts rests)

private theorem Reaches.length_outer (reaches : reading.Reaches tokens final)
    (rests : reading.RestsBetweenParts) :
    final.outer.length = tokens.foldl Token.openAfter reading.outer.length := by
  induction tokens generalizing reading with
  | nil =>
      cases reaches
      rfl
  | cons token rest ih =>
      obtain ⟨next, step, reaches⟩ := reaches
      have advance := advance_of_step step
      rw [ih reaches (advance.restsBetweenParts rests), advance.length_outer rests, List.foldl_cons]

/-- The first state is not between two parts. -/
theorem restsBetweenParts_start : RestsBetweenParts {} :=
  restsBetweenParts_of_ne Expectation.noConfusion

/-- The groups that are open behind tokens are those that their parentheses leave open. -/
theorem length_outer_of_reaches (reaches : Reaches {} tokens reading) :
    reading.outer.length = Token.openGroups tokens :=
  reaches.length_outer restsBetweenParts_start

/-- After the end of an operand the parser expects a connective. -/
theorem expects_of_endsOperand (reaches : Reaches {} tokens reading)
    (ends : Token.EndsOperand tokens) : reading.expects = .connector := by
  obtain ⟨before, last, rfl, ends⟩ := ends
  obtain ⟨middle, reaches, advance⟩ := reaches_concat.mp reaches
  rw [Token.isTerm_iff, Token.isCloseParen_iff, ← length_outer_of_reaches reaches] at ends
  cases advance with
  | term expects named => rfl
  | negated expects named => rfl
  | sign expects named => exact expects
  | closing expects closes =>
      have inside : 0 < middle.outer.length := by simpa [closes] using ends
      obtain ⟨frame, others, outer⟩ :=
        List.exists_cons_of_ne_nil (List.length_pos_iff.mp inside)
      rw [close_of_outer_eq_cons outer]
      exact expects
  | surplus expects closes =>
      have inside : 0 < reading.outer.length := by simpa [closes] using ends
      rw [(reaches.restsBetweenParts restsBetweenParts_start).outer_eq_nil expects] at inside
      cases inside
  | opening expects role => simp [role] at ends
  | negation expects role => simp [role] at ends
  | and expects role => simp [role] at ends
  | or expects role => simp [role] at ends

/-- A term to be negated is due only right behind `NOT`. -/
theorem exists_negation_of_expects (reaches : Reaches {} tokens reading)
    (expects : reading.expects = .negated) :
    ∃ last ∈ tokens.getLast?, last.isOperator "NOT" = true := by
  rcases List.eq_nil_or_concat tokens with rfl | ⟨before, last, rfl⟩
  · cases reaches
    cases expects
  · rw [List.concat_eq_append] at reaches ⊢
    obtain ⟨middle, reaches, advance⟩ := reaches_concat.mp reaches
    refine ⟨last, List.getLast?_concat, ?_⟩
    rw [Token.isOperator_not_iff]
    cases advance with
    | negation _ negates => exact negates
    | sign connects named => cases connects.symm.trans expects
    | surplus ended closes => cases ended.symm.trans expects
    | closing connects closes =>
        rcases complete_close connects with ended | ended
        · cases ended.symm.trans expects
        · cases ended.symm.trans expects
    | _ => cases expects

end Expr.Reading

end ColumnSearch
