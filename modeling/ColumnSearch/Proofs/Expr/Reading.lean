import ColumnSearch.Proofs.Except
import ColumnSearch.Proofs.Expr.Grammar

/-!
# Reading tokens by their roles

What `Expr.Reading.step` does with a token depends on the token only through its role, and on terms
through the condition they give. A successful run is described by `Expr.Reading.Yields`, which
leaves positions out: they matter to errors only.
-/

namespace ColumnSearch

namespace Token

variable {token : Token}

/-- The tokens that the parser tests for being terms are those whose role it is. -/
theorem isTerm_iff : token.isTerm = true ↔ token.role = .term := by
  obtain ⟨kind, text⟩ := token
  cases kind <;> simp only [isTerm, role] <;> grind

/-- The tokens that the parser tests for opening a group are those whose role it is. -/
theorem isOpenParen_iff : token.isOpenParen = true ↔ token.role = .opening := by
  obtain ⟨kind, text⟩ := token
  cases kind <;> simp only [isOpenParen, role] <;> grind

/-- The tokens that the parser tests for closing a group are those whose role it is. -/
theorem isCloseParen_iff : token.isCloseParen = true ↔ token.role = .closing := by
  obtain ⟨kind, text⟩ := token
  cases kind <;> simp only [isCloseParen, role] <;> grind

/-- The operator `NOT` is what has the role of a negation. -/
theorem isOperator_not_iff : token.isOperator "NOT" = true ↔ token.role = .negation := by
  obtain ⟨kind, text⟩ := token
  cases kind <;> simp only [isOperator, role] <;> grind

/-- Modifiers are what has the role of a sign. -/
theorem kind_eq_modifier_iff : token.kind = .modifier ↔ token.role = .sign := by
  obtain ⟨kind, text⟩ := token
  cases kind <;> simp only [role] <;> grind

/-- `NOT` joins nothing, so the connective of an operator token is the one of its role. -/
theorem ofKeyword?_eq_some_iff {op : Connective} :
    (if token.kind = .operator then Connective.ofKeyword? token.text else none) = some op ↔
      token.role = .connective op := by
  have plain : Connective.ofKeyword? "NOT" = none := by decide
  obtain ⟨kind, text⟩ := token
  cases kind <;> simp only [role] <;> grind

end Token

namespace Expr.Reading

open Grammar

variable {reading : Reading} {token : Token} {tokens rest : List Token} {expr : Expr}

/-- The reading with another expectation. -/
def expecting (reading : Reading) (expectation : Expectation) : Reading :=
  { reading with expects := expectation }

/-- The reading after an operand of the given group. -/
def within (reading : Reading) (frame : Frame) : Reading :=
  { reading with frame := frame, expects := .connector }

/-- The reading at the start of another alternative. -/
def nextAlternative (reading : Reading) : Reading :=
  { reading with frame := reading.frame.nextAlternative, expects := .operand }

/-- The reading right after a group was opened. -/
def enter (reading : Reading) : Reading :=
  { reading with outer := reading.frame :: reading.outer, frame := {}, expects := .operand }

/-- The reading after further factors of the current alternative. -/
def addFactors (reading : Reading) (factors : List Expr) : Reading :=
  reading.within { reading.frame with factors := reading.frame.factors ++ factors }

/-- Putting back the innermost frame changes nothing once an operand has been read. -/
theorem within_frame (expects : reading.expects = .connector) :
    reading.within reading.frame = reading := by
  rw [within, ← expects]

/-- Adding no factors changes nothing once an operand has been read. -/
theorem addFactors_nil (expects : reading.expects = .connector) :
    reading.addFactors [] = reading := by
  rw [addFactors, List.append_nil, within_frame expects]

/-- Factors can be added whatever was expected before. -/
theorem addFactors_expecting (reading : Reading) (expectation : Expectation)
    (factors : List Expr) :
    (reading.expecting expectation).addFactors factors = reading.addFactors factors :=
  rfl

/-- Factors added one list after the other are added as one list. -/
theorem addFactors_addFactors (reading : Reading) (factors others : List Expr) :
    (reading.addFactors factors).addFactors others = reading.addFactors (factors ++ others) := by
  simp only [addFactors, within, List.append_assoc]

/-- Where an operand is expected, the role of the token decides the step. -/
theorem operand_eq (reading : Reading) (token : Token) :
    reading.operand token =
      match token.role with
      | .opening =>
        if maxNesting ≤ reading.outer.length then .error .deepNesting else .ok reading.enter
      | .negation => .ok (reading.expecting .negated)
      | .term => .ok (reading.addFactors [.leaf (.ofTerm token)])
      | _ => .error (.unexpectedToken token.text) := by
  simp only [operand, Token.isOpenParen_iff, Token.isOperator_not_iff, Token.isTerm_iff]
  cases token.role <;> rfl

/-- Only tokens that start an operand are read where one is due. -/
theorem startsOperand_of_operand {next : Reading} (step : reading.operand token = .ok next) :
    StartsOperand token.role := by
  rw [operand_eq] at step
  cases role : token.role with
  | opening => exact .inl rfl
  | negation => exact .inr (.inl rfl)
  | term => exact .inr (.inr rfl)
  | _ =>
      rw [role] at step
      cases step

/-- After `NOT` a term is taken as excluded, and everything else is refused. -/
theorem negated_eq (reading : Reading) (token : Token) :
    reading.negated token =
      if token.role = .term then
        .ok (reading.addFactors [.leaf ((Condition.ofTerm token).withPolarity .excluded)])
      else .error .missingTerm := by
  simp only [negated, Token.isTerm_iff]
  rfl

/-- After an operand the role of the token decides the step, and what is no connective starts
another operand. -/
theorem connector_eq (reading : Reading) (token : Token) :
    reading.connector token =
      match token.role with
      | .closing => .ok reading.close
      | .sign => .ok reading
      | .connective .and => .ok (reading.expecting .operand)
      | .connective .or => .ok reading.nextAlternative
      | _ => reading.operand token := by
  simp only [connector, Token.isCloseParen_iff, Token.kind_eq_modifier_iff]
  have named := @Token.ofKeyword?_eq_some_iff token
  generalize (if token.kind = .operator then Connective.ofKeyword? token.text else none) = op at *
  cases op with
  | none =>
      cases role : token.role with
      | connective op => cases named.mpr role
      | _ => rfl
  | some op =>
      rw [named.mp rfl]
      cases op <;> rfl

/-- Wherever an operand may come, a token that starts one is read as such. -/
theorem step_of_startsOperand (expects : reading.expects ≠ .negated)
    (starts : StartsOperand token.role) : reading.step token = reading.operand token := by
  unfold step
  cases expected : reading.expects with
  | operand => rfl
  | negated => exact (expects expected).elim
  | connector =>
      rw [connector_eq]
      rcases starts with role | role | role <;> rw [role]
  | part =>
      have apart : ¬ token.isCloseParen = true :=
        fun closes => starts.ne_closing (Token.isCloseParen_iff.mp closes)
      simp only [apart]
      rfl

/-- An opening parenthesis enters a group, if the nesting allows for one more. -/
theorem step_opening (expects : reading.expects ≠ .negated) (opens : token.role = .opening)
    (room : reading.outer.length < maxNesting) : reading.step token = .ok reading.enter := by
  rw [step_of_startsOperand expects (.inl opens), operand_eq, opens]
  simp only [Nat.not_le.mpr room, ↓reduceIte]

/-- `NOT` makes the parser expect what it negates. -/
theorem step_negation (expects : reading.expects ≠ .negated) (negates : token.role = .negation) :
    reading.step token = .ok (reading.expecting .negated) := by
  rw [step_of_startsOperand expects (.inr (.inl negates)), operand_eq, negates]

/-- A term is added as a condition. -/
theorem step_term (expects : reading.expects ≠ .negated) (named : token.role = .term) :
    reading.step token = .ok (reading.addFactors [.leaf (.ofTerm token)]) := by
  rw [step_of_startsOperand expects (.inr (.inr named)), operand_eq, named]

/-- A term after `NOT` is added as an excluded condition. -/
theorem step_negated (expects : reading.expects = .negated) (named : token.role = .term) :
    reading.step token =
      .ok (reading.addFactors [.leaf ((Condition.ofTerm token).withPolarity .excluded)]) := by
  rw [step, expects]
  simp only [negated_eq, named, ↓reduceIte]

/-- A sign after an operand is passed over. -/
theorem step_sign (expects : reading.expects = .connector) (named : token.role = .sign) :
    reading.step token = .ok reading := by
  rw [step, expects, connector_eq, named]

/-- `AND` after an operand makes the parser expect another. -/
theorem step_and (expects : reading.expects = .connector)
    (named : token.role = .connective .and) :
    reading.step token = .ok (reading.expecting .operand) := by
  rw [step, expects, connector_eq, named]

/-- `OR` after an operand starts the next alternative. -/
theorem step_or (expects : reading.expects = .connector) (named : token.role = .connective .or) :
    reading.step token = .ok reading.nextAlternative := by
  rw [step, expects, connector_eq, named]

/-- A closing parenthesis after an operand closes the innermost group. -/
theorem step_closing (expects : reading.expects = .connector) (closes : token.role = .closing) :
    reading.step token = .ok reading.close := by
  rw [step, expects, connector_eq, closes]

/-- Further closing parentheses between parts are passed over. -/
theorem step_part_closing (expects : reading.expects = .part) (closes : token.role = .closing) :
    reading.step token = .ok reading := by
  rw [step, expects]
  simp only [Token.isCloseParen_iff.mpr closes, ↓reduceIte]

/-- Outside all groups, a closing parenthesis ends a part of the query. -/
theorem close_of_outer_eq_nil (outside : reading.outer = []) :
    reading.close =
      { parts := reading.parts ++ [reading.frame.toExpr], expects := .part } := by
  rw [close, outside]

/-- Inside a group, a closing parenthesis makes it a factor of the one around it. -/
theorem close_of_outer_eq_cons {frame : Frame} {others : List Frame}
    (inside : reading.outer = frame :: others) :
    reading.close =
      { reading with outer := others, frame := frame.addFactor reading.frame.toExpr } := by
  rw [close, inside]

/-- After an operand the query may end, and groups that are still open are closed. -/
theorem finish_connector (expects : reading.expects = .connector) :
    reading.finish = .ok (join .and (reading.parts ++ [reading.frame.closeAll reading.outer])) := by
  rw [finish, expects]

/-- Between parts the query may end. -/
theorem finish_part (expects : reading.expects = .part) :
    reading.finish = .ok (join .and reading.parts) := by
  rw [finish, expects]

/-- Reading the tokens from here on succeeds with the expression. -/
def Yields (reading : Reading) : List Token → Expr → Prop
  | [], expr => reading.finish = .ok expr
  | token :: rest, expr => ∃ next, reading.step token = .ok next ∧ next.Yields rest expr

/-- What a run returns is what its state yields, whatever position it starts counting from. -/
theorem run_eq_ok_iff (reading : Reading) (position : Nat) :
    reading.run position tokens = .ok expr ↔ reading.Yields tokens expr := by
  induction tokens generalizing reading position with
  | nil => rw [run, Except.mapError_eq_ok_iff, Yields]
  | cons token rest ih =>
      rw [run, Yields]
      cases reading.step token with
      | error cause => simp only [reduceCtorEq, false_and, exists_false]
      | ok next => simp only [ih next, Except.ok.injEq, exists_eq_left']

/-- The parser returns what its first state yields. -/
theorem parse_eq_ok_iff_yields : parse tokens = .ok expr ↔ Yields {} tokens expr :=
  run_eq_ok_iff {} 0

/-- What a state yields is what the state after its next token yields. -/
theorem yields_cons {next : Reading} (step : reading.step token = .ok next) :
    reading.Yields (token :: rest) expr ↔ next.Yields rest expr := by
  rw [Yields, step]
  simp only [Except.ok.injEq, exists_eq_left']

end Expr.Reading

end ColumnSearch
