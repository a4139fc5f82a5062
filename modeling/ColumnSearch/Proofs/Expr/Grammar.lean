import ColumnSearch.Expr.Parse

/-!
# The grammar of searches

The grammar that `Expr.parse` reads, as derivations over lists of tokens:

```text
Query        := Disjunction ( ")"+ Disjunction )* ")"*
Disjunction  := Conjunction ( OR Conjunction )*
Conjunction  := Operand Sign* ( AND? Operand Sign* )*
Operand      := "(" Disjunction ")" | "(" Disjunction | NOT Term | Term
```

The second form of an operand, a group that is never closed, ends with the tokens. A derivation
spans the tokens between two positions, each given by the tokens from there on, and knows how many
groups are open around it. `Query.expr` is the expression that a derivation spells. A list of
tokens has at most one derivation (`Query.unique`).
-/

namespace ColumnSearch

/-- The part a token plays in the grammar. -/
inductive Token.Role where
  | term
  | negation
  | opening
  | closing
  | sign
  | connective (op : Connective)
  /-- The token has no place in a search. -/
  | other
  deriving DecidableEq, Repr

/-- The role of a token. -/
def Token.role (token : Token) : Token.Role :=
  match token.kind with
  | .word => .term
  | .quoted => .term
  | .operator =>
    if token.text = "NOT" then .negation
    else
      match Connective.ofKeyword? token.text with
      | some op => .connective op
      | none => .other
  | .paren => if token.text = "(" then .opening else if token.text = ")" then .closing else .other
  | .modifier => .sign

namespace Grammar

/-- Tokens of one role, as many as there may be. -/
inductive Run (role : Token.Role) : List Token → List Token → Type where
  | none {rest : List Token} : Run role rest rest
  | more {token : Token} {tokens rest : List Token} (named : token.role = role)
    (others : Run role tokens rest) : Run role (token :: tokens) rest

/-- What stands between two operands of a conjunction: `AND` or nothing. -/
inductive Joint : List Token → List Token → Type where
  | adjacent {rest : List Token} : Joint rest rest
  | keyword {token : Token} {rest : List Token} (named : token.role = .connective .and) :
    Joint (token :: rest) rest

mutual

/-- A group, a negated term or a term. -/
inductive Operand : Nat → List Token → List Token → Type where
  | group {depth : Nat} {opening closing : Token} {tokens rest : List Token}
    (opens : opening.role = .opening) (room : depth < Expr.maxNesting)
    (body : Disjunction (depth + 1) tokens (closing :: rest)) (closes : closing.role = .closing) :
    Operand depth (opening :: tokens) rest
  /-- A group that is still open at the end of the tokens. -/
  | openGroup {depth : Nat} {opening : Token} {tokens : List Token}
    (opens : opening.role = .opening) (room : depth < Expr.maxNesting)
    (body : Disjunction (depth + 1) tokens []) : Operand depth (opening :: tokens) []
  | negated {depth : Nat} {rest : List Token} (negation term : Token)
    (negates : negation.role = .negation) (named : term.role = .term) :
    Operand depth (negation :: term :: rest) rest
  | term {depth : Nat} {rest : List Token} (term : Token) (named : term.role = .term) :
    Operand depth (term :: rest) rest

/-- Operands joined by `AND` or by standing side by side, with lone signs after each. -/
inductive Conjunction : Nat → List Token → List Token → Type where
  | mk {depth : Nat} {tokens afterFirst afterSigns rest : List Token}
    (first : Operand depth tokens afterFirst) (signs : Run .sign afterFirst afterSigns)
    (others : Factors depth afterSigns rest) : Conjunction depth tokens rest

/-- The operands of a conjunction after the first. -/
inductive Factors : Nat → List Token → List Token → Type where
  | none {depth : Nat} {rest : List Token} : Factors depth rest rest
  | more {depth : Nat} {tokens afterJoint afterNext afterSigns rest : List Token}
    (joint : Joint tokens afterJoint) (next : Operand depth afterJoint afterNext)
    (signs : Run .sign afterNext afterSigns) (others : Factors depth afterSigns rest) :
    Factors depth tokens rest

/-- Conjunctions joined by `OR`. -/
inductive Disjunction : Nat → List Token → List Token → Type where
  | mk {depth : Nat} {tokens afterFirst rest : List Token}
    (first : Conjunction depth tokens afterFirst) (others : Alternatives depth afterFirst rest) :
    Disjunction depth tokens rest

/-- The conjunctions of a disjunction after the first. -/
inductive Alternatives : Nat → List Token → List Token → Type where
  | none {depth : Nat} {rest : List Token} : Alternatives depth rest rest
  | more {depth : Nat} {keyword : Token} {tokens afterNext rest : List Token}
    (named : keyword.role = .connective .or) (next : Conjunction depth tokens afterNext)
    (others : Alternatives depth afterNext rest) : Alternatives depth (keyword :: tokens) rest

end

/-- What follows the first part of a query, up to the end of the tokens. -/
inductive Parts : List Token → Type where
  | none {tokens : List Token} (closings : Run .closing tokens []) : Parts tokens
  | more {closing : Token} {tokens afterClosings afterNext : List Token}
    (closes : closing.role = .closing) (closings : Run .closing tokens afterClosings)
    (next : Disjunction 0 afterClosings afterNext) (others : Parts afterNext) :
    Parts (closing :: tokens)

/-- A whole query. -/
inductive Query : List Token → Type where
  | mk {tokens afterFirst : List Token} (first : Disjunction 0 tokens afterFirst)
    (others : Parts afterFirst) : Query tokens

variable {depth : Nat} {tokens rest rest' : List Token}

mutual

/-- The expression of an operand; a group is what it encloses. -/
def Operand.expr {depth : Nat} {tokens rest : List Token} : Operand depth tokens rest → Expr
  | .group _ _ body _ => body.expr
  | .openGroup _ _ body => body.expr
  | .negated _ term _ _ => .leaf ((Condition.ofTerm term).withPolarity .excluded)
  | .term term _ => .leaf (.ofTerm term)

/-- The conjunction of the operands. -/
def Conjunction.expr {depth : Nat} {tokens rest : List Token} :
    Conjunction depth tokens rest → Expr
  | .mk first _ others => .join .and (first.expr :: others.exprs)

/-- The expressions of the operands. -/
def Factors.exprs {depth : Nat} {tokens rest : List Token} :
    Factors depth tokens rest → List Expr
  | .none => []
  | .more _ next _ others => next.expr :: others.exprs

/-- The disjunction of the conjunctions. -/
def Disjunction.expr {depth : Nat} {tokens rest : List Token} :
    Disjunction depth tokens rest → Expr
  | .mk first others => .join .or (first.expr :: others.exprs)

/-- The expressions of the conjunctions. -/
def Alternatives.exprs {depth : Nat} {tokens rest : List Token} :
    Alternatives depth tokens rest → List Expr
  | .none => []
  | .more _ next others => next.expr :: others.exprs

end

/-- The expressions of the parts. -/
def Parts.exprs {tokens : List Token} : Parts tokens → List Expr
  | .none _ => []
  | .more _ _ next others => next.expr :: others.exprs

/-- The conjunction of the parts. -/
def Query.expr : Query tokens → Expr
  | .mk first others => .join .and (first.expr :: others.exprs)

/-- The first of the tokens, if there is one, has an allowed role. -/
def Heads (allowed : Token.Role → Prop) (tokens : List Token) : Prop :=
  ∀ token ∈ tokens.head?, allowed token.role

/-- The end of the tokens is allowed anywhere. -/
@[simp]
theorem heads_nil (allowed : Token.Role → Prop) : Heads allowed [] := by
  intro token member
  cases member

/-- What stands first among the tokens is their first token. -/
@[simp]
theorem heads_cons {allowed : Token.Role → Prop} {token : Token} :
    Heads allowed (token :: rest) ↔ allowed token.role := by
  simp only [Heads, List.head?_cons, Option.mem_def, Option.some.injEq, forall_eq']

private theorem Heads.mono {allowed permitted : Token.Role → Prop}
    (weaker : ∀ role, allowed role → permitted role) (heads : Heads allowed tokens) :
    Heads permitted tokens :=
  fun token member => weaker token.role (heads token member)

/-- The roles an operand can start with. -/
def StartsOperand (role : Token.Role) : Prop :=
  role = .opening ∨ role = .negation ∨ role = .term

/-- The roles that can follow a conjunction. -/
def EndsConjunction (role : Token.Role) : Prop :=
  role = .closing ∨ role = .connective .or

/-- The role that can follow a disjunction. -/
def EndsDisjunction (role : Token.Role) : Prop :=
  role = .closing

private theorem StartsOperand.ne_sign {role : Token.Role} (starts : StartsOperand role) :
    role ≠ .sign := by
  rcases starts with rfl | rfl | rfl <;> exact Token.Role.noConfusion

private theorem StartsOperand.ne_connective {role : Token.Role} (starts : StartsOperand role)
    (op : Connective) : role ≠ .connective op := by
  rcases starts with rfl | rfl | rfl <;> exact Token.Role.noConfusion

/-- No operand starts with a closing parenthesis. -/
theorem StartsOperand.ne_closing {role : Token.Role} (starts : StartsOperand role) :
    role ≠ .closing := by
  rcases starts with rfl | rfl | rfl <;> exact Token.Role.noConfusion

private theorem EndsConjunction.ne_sign {role : Token.Role} (ends : EndsConjunction role) :
    role ≠ .sign := by
  rcases ends with rfl | rfl <;> exact Token.Role.noConfusion

private theorem EndsConjunction.ne_and {role : Token.Role} (ends : EndsConjunction role) :
    role ≠ .connective .and := by
  rcases ends with rfl | rfl
  · exact Token.Role.noConfusion
  · decide

private theorem EndsConjunction.not_startsOperand {role : Token.Role} (ends : EndsConjunction role)
    (starts : StartsOperand role) : False := by
  rcases ends with same | same
  · exact starts.ne_closing same
  · exact starts.ne_connective .or same

private theorem Operand.exists_head (operand : Operand depth tokens rest) :
    ∃ token after, tokens = token :: after ∧ StartsOperand token.role := by
  cases operand with
  | group opens _ _ _ => exact ⟨_, _, rfl, .inl opens⟩
  | openGroup opens _ _ => exact ⟨_, _, rfl, .inl opens⟩
  | negated _ _ negates _ => exact ⟨_, _, rfl, .inr (.inl negates)⟩
  | term _ named => exact ⟨_, _, rfl, .inr (.inr named)⟩

private theorem Disjunction.exists_head (disjunction : Disjunction depth tokens rest) :
    ∃ token after, tokens = token :: after ∧ StartsOperand token.role := by
  obtain ⟨⟨first, _, _⟩, _⟩ := disjunction
  exact first.exists_head

private theorem Operand.heads (operand : Operand depth tokens rest) :
    Heads StartsOperand tokens := by
  obtain ⟨token, after, rfl, starts⟩ := operand.exists_head
  exact heads_cons.mpr starts

/-- No sign stands where the operands of a conjunction go on or end. -/
theorem Factors.heads_ne_sign (factors : Factors depth tokens rest)
    (ends : Heads EndsConjunction rest) : Heads (· ≠ .sign) tokens := by
  cases factors with
  | none => exact ends.mono fun _ => EndsConjunction.ne_sign
  | more joint next _ _ =>
      cases joint with
      | adjacent => exact next.heads.mono fun _ => StartsOperand.ne_sign
      | keyword named =>
          rw [heads_cons, named]
          exact Token.Role.noConfusion

private theorem Alternatives.heads (alternatives : Alternatives depth tokens rest)
    (ends : Heads EndsDisjunction rest) : Heads EndsConjunction tokens := by
  cases alternatives with
  | none => exact ends.mono fun _ => .inl
  | more named _ _ => exact heads_cons.mpr (.inr named)

/-- A run of tokens leaves no more tokens than there were. -/
theorem Run.length_le {role : Token.Role} (run : Run role tokens rest) :
    rest.length ≤ tokens.length := by
  induction run with
  | none => exact Nat.le_refl _
  | more _ _ ih => exact Nat.le_succ_of_le ih

private theorem Joint.length_le (joint : Joint tokens rest) : rest.length ≤ tokens.length := by
  cases joint with
  | adjacent => exact Nat.le_refl _
  | keyword _ => exact Nat.le_succ _

mutual

/-- An operand takes at least one token. -/
theorem Operand.length_lt {depth : Nat} {tokens rest : List Token} :
    Operand depth tokens rest → rest.length < tokens.length
  | .group _ _ body _ => by
      have shorter := body.length_lt
      simp only [List.length_cons] at shorter ⊢
      omega
  | .openGroup _ _ _ => Nat.succ_pos _
  | .negated _ _ _ _ => by
      simp only [List.length_cons]
      omega
  | .term _ _ => Nat.lt_succ_self _

/-- A conjunction takes at least one token. -/
theorem Conjunction.length_lt {depth : Nat} {tokens rest : List Token} :
    Conjunction depth tokens rest → rest.length < tokens.length
  | .mk first signs others =>
      Nat.lt_of_le_of_lt (Nat.le_trans others.length_le signs.length_le) first.length_lt

private theorem Factors.length_le {depth : Nat} {tokens rest : List Token} :
    Factors depth tokens rest → rest.length ≤ tokens.length
  | .none => Nat.le_refl _
  | .more joint next signs others => by
      have shorter := next.length_lt
      have joined := joint.length_le
      have signed := signs.length_le
      have ended := others.length_le
      omega

/-- A disjunction takes at least one token. -/
theorem Disjunction.length_lt {depth : Nat} {tokens rest : List Token} :
    Disjunction depth tokens rest → rest.length < tokens.length
  | .mk first others => Nat.lt_of_le_of_lt others.length_le first.length_lt

private theorem Alternatives.length_le {depth : Nat} {tokens rest : List Token} :
    Alternatives depth tokens rest → rest.length ≤ tokens.length
  | .none => Nat.le_refl _
  | .more _ next others =>
      Nat.le_succ_of_le (Nat.le_trans others.length_le (Nat.le_of_lt next.length_lt))

end

private theorem Run.unique {role : Token.Role} (first : Run role tokens rest)
    (second : Run role tokens rest') (ends : Heads (· ≠ role) rest)
    (ends' : Heads (· ≠ role) rest') : rest = rest' ∧ HEq first second := by
  induction first with
  | none =>
      cases second with
      | none => exact ⟨rfl, HEq.rfl⟩
      | more named _ => exact (heads_cons.mp ends named).elim
  | more named others ih =>
      cases second with
      | none => exact (heads_cons.mp ends' named).elim
      | more _ others' =>
          obtain ⟨rfl, same⟩ := ih others' ends
          cases same
          exact ⟨rfl, HEq.rfl⟩

private theorem Joint.unique {afterJoint afterJoint' : List Token} (first : Joint tokens afterJoint)
    (second : Joint tokens afterJoint') (starts : Heads StartsOperand afterJoint)
    (starts' : Heads StartsOperand afterJoint') : afterJoint = afterJoint' ∧ HEq first second := by
  cases first with
  | adjacent =>
      cases second with
      | adjacent => exact ⟨rfl, HEq.rfl⟩
      | keyword named => exact ((heads_cons.mp starts).ne_connective .and named).elim
  | keyword named =>
      cases second with
      | adjacent => exact ((heads_cons.mp starts').ne_connective .and named).elim
      | keyword _ => exact ⟨rfl, HEq.rfl⟩

/-- Where a conjunction can end, no further operand starts. -/
theorem Joint.not_heads {afterJoint afterNext : List Token} (joint : Joint tokens afterJoint)
    (next : Operand depth afterJoint afterNext) (ends : Heads EndsConjunction tokens) : False := by
  cases joint with
  | adjacent =>
      obtain ⟨token, after, rfl, starts⟩ := next.exists_head
      exact (heads_cons.mp ends).not_startsOperand starts
  | keyword named => exact (heads_cons.mp ends).ne_and named

-- The follow conditions are what makes the loops of the grammar maximal: a repetition that stopped
-- early would leave a token that cannot follow it.
mutual

private theorem Operand.unique {depth : Nat} {tokens rest rest' : List Token} :
    (first : Operand depth tokens rest) → (second : Operand depth tokens rest') →
      rest = rest' ∧ HEq first second
  | .group opens _ body closes, second => by
      cases second with
      | group _ _ body' closes' =>
          obtain ⟨same, equal⟩ := body.unique (heads_cons.mpr closes) body' (heads_cons.mpr closes')
          obtain ⟨rfl, rfl⟩ := List.cons.inj same
          cases equal
          exact ⟨rfl, HEq.rfl⟩
      | openGroup _ _ body' =>
          cases (body.unique (heads_cons.mpr closes) body' (heads_nil _)).1
      | negated _ _ negates _ => cases opens.symm.trans negates
      | term _ named => cases opens.symm.trans named
  | .openGroup opens _ body, second => by
      cases second with
      | group _ _ body' closes' =>
          cases (body.unique (heads_nil _) body' (heads_cons.mpr closes')).1
      | openGroup _ _ body' =>
          cases (body.unique (heads_nil _) body' (heads_nil _)).2
          exact ⟨rfl, HEq.rfl⟩
      | negated _ _ negates _ => cases opens.symm.trans negates
      | term _ named => cases opens.symm.trans named
  | .negated _ _ negates _, second => by
      cases second with
      | group opens _ _ _ => cases opens.symm.trans negates
      | openGroup opens _ _ => cases opens.symm.trans negates
      | negated _ _ _ _ => exact ⟨rfl, HEq.rfl⟩
      | term _ named => cases named.symm.trans negates
  | .term _ named, second => by
      cases second with
      | group opens _ _ _ => cases opens.symm.trans named
      | openGroup opens _ _ => cases opens.symm.trans named
      | negated _ _ negates _ => cases negates.symm.trans named
      | term _ _ => exact ⟨rfl, HEq.rfl⟩

private theorem Conjunction.unique {depth : Nat} {tokens rest rest' : List Token} :
    (first : Conjunction depth tokens rest) → Heads EndsConjunction rest →
      (second : Conjunction depth tokens rest') → Heads EndsConjunction rest' →
      rest = rest' ∧ HEq first second
  | .mk first signs others, ends, .mk first' signs' others', ends' => by
      obtain ⟨rfl, same⟩ := first.unique first'
      cases same
      obtain ⟨rfl, same⟩ :=
        signs.unique signs' (others.heads_ne_sign ends) (others'.heads_ne_sign ends')
      cases same
      obtain ⟨rfl, same⟩ := others.unique ends others' ends'
      cases same
      exact ⟨rfl, HEq.rfl⟩

private theorem Factors.unique {depth : Nat} {tokens rest rest' : List Token} :
    (first : Factors depth tokens rest) → Heads EndsConjunction rest →
      (second : Factors depth tokens rest') → Heads EndsConjunction rest' →
      rest = rest' ∧ HEq first second
  | .none, ends, second, _ => by
      cases second with
      | none => exact ⟨rfl, HEq.rfl⟩
      | more joint next _ _ => exact (joint.not_heads next ends).elim
  | .more joint next signs others, ends, second, ends' => by
      cases second with
      | none => exact (joint.not_heads next ends').elim
      | more joint' next' signs' others' =>
          obtain ⟨rfl, same⟩ := joint.unique joint' next.heads next'.heads
          cases same
          obtain ⟨rfl, same⟩ := next.unique next'
          cases same
          obtain ⟨rfl, same⟩ :=
            signs.unique signs' (others.heads_ne_sign ends) (others'.heads_ne_sign ends')
          cases same
          obtain ⟨rfl, same⟩ := others.unique ends others' ends'
          cases same
          exact ⟨rfl, HEq.rfl⟩

private theorem Disjunction.unique {depth : Nat} {tokens rest rest' : List Token} :
    (first : Disjunction depth tokens rest) → Heads EndsDisjunction rest →
      (second : Disjunction depth tokens rest') → Heads EndsDisjunction rest' →
      rest = rest' ∧ HEq first second
  | .mk first others, ends, .mk first' others', ends' => by
      obtain ⟨rfl, same⟩ := first.unique (others.heads ends) first' (others'.heads ends')
      cases same
      obtain ⟨rfl, same⟩ := others.unique ends others' ends'
      cases same
      exact ⟨rfl, HEq.rfl⟩

private theorem Alternatives.unique {depth : Nat} {tokens rest rest' : List Token} :
    (first : Alternatives depth tokens rest) → Heads EndsDisjunction rest →
      (second : Alternatives depth tokens rest') → Heads EndsDisjunction rest' →
      rest = rest' ∧ HEq first second
  | .none, ends, second, _ => by
      cases second with
      | none => exact ⟨rfl, HEq.rfl⟩
      | more named _ _ => cases (heads_cons.mp ends).symm.trans named
  | .more named next others, ends, second, ends' => by
      cases second with
      | none => cases (heads_cons.mp ends').symm.trans named
      | more _ next' others' =>
          obtain ⟨rfl, same⟩ := next.unique (others.heads ends) next' (others'.heads ends')
          cases same
          obtain ⟨rfl, same⟩ := others.unique ends others' ends'
          cases same
          exact ⟨rfl, HEq.rfl⟩

end

private theorem Parts.heads (parts : Parts tokens) : Heads EndsDisjunction tokens := by
  cases parts with
  | none closings =>
      cases closings with
      | none => exact heads_nil _
      | more closes _ => exact heads_cons.mpr closes
  | more closes _ _ _ => exact heads_cons.mpr closes

private theorem Disjunction.heads_ne_closing (disjunction : Disjunction depth tokens rest) :
    Heads (· ≠ .closing) tokens := by
  obtain ⟨token, after, rfl, starts⟩ := disjunction.exists_head
  exact heads_cons.mpr starts.ne_closing

/-- Closing parentheses up to the end leave no room for a further part. -/
theorem Run.not_disjunction {afterClosings : List Token} (all : Run .closing tokens [])
    (some : Run .closing tokens afterClosings)
    (next : Disjunction depth afterClosings rest) : False := by
  obtain ⟨same, _⟩ := all.unique some (heads_nil _) next.heads_ne_closing
  obtain ⟨token, after, rfl, _⟩ := next.exists_head
  cases same

private theorem Parts.unique (first second : Parts tokens) : first = second := by
  induction first with
  | none closings =>
      cases second with
      | none closings' =>
          cases (closings.unique closings' (heads_nil _) (heads_nil _)).2
          rfl
      | more closes closings' next _ =>
          cases closings with
          | more _ closings => exact (closings.not_disjunction closings' next).elim
  | more closes closings next others ih =>
      cases second with
      | none closings' =>
          cases closings' with
          | more _ closings' => exact (closings'.not_disjunction closings next).elim
      | more _ closings' next' others' =>
          obtain ⟨rfl, same⟩ :=
            closings.unique closings' next.heads_ne_closing next'.heads_ne_closing
          cases same
          obtain ⟨rfl, same⟩ := next.unique others.heads next' others'.heads
          cases same
          rw [ih others']

/-- A list of tokens has at most one derivation. -/
theorem Query.unique (first second : Query tokens) : first = second := by
  obtain ⟨disjunction, parts⟩ := first
  obtain ⟨disjunction', parts'⟩ := second
  obtain ⟨rfl, same⟩ := disjunction.unique parts.heads disjunction' parts'.heads
  cases same
  rw [parts.unique parts']

end Grammar

end ColumnSearch
