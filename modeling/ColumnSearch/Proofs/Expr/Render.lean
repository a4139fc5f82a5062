import ColumnSearch.Proofs.Expr.Shape
import ColumnSearch.Proofs.Token.Render

/-!
# Typing expressions

`Expr.render` shows an expression as it would be typed, with parentheses around every group. The
text spells the tokens `Expr.toTokens`, and these have a derivation whose expression is the one
shown. So the text is read back, as far as the conditions can be typed, no group is missing a
second child, and the groups are not nested deeper than the parser follows.
-/

namespace ColumnSearch

namespace Condition

/-- The token of a condition that can be typed. -/
def toToken (condition : Condition) : Token :=
  if condition.quoted then ⟨.quoted, condition.value⟩
  else ⟨.word, condition.polarity.sign ++ condition.value⟩

/-- The condition can be typed: a phrase has neither a sign nor a double quote, and a word is an
identifier, which spells no keyword unless it is signed. -/
def Typable : Condition → Prop
  | ⟨value, true, polarity⟩ => polarity = .neutral ∧ '"' ∉ value.toList
  | ⟨value, false, polarity⟩ =>
    Token.IsIdentifier value.toList ∧
      (polarity = .neutral → String.ofList (value.toList.map Char.toUpper) ∉ Token.keywords)

instance : DecidablePred Typable
  | ⟨value, true, polarity⟩ =>
    inferInstanceAs (Decidable (polarity = .neutral ∧ '"' ∉ value.toList))
  | ⟨value, false, polarity⟩ =>
    inferInstanceAs (Decidable (Token.IsIdentifier value.toList ∧
      (polarity = .neutral → String.ofList (value.toList.map Char.toUpper) ∉ Token.keywords)))

variable {condition : Condition}

private theorem Typable.regular (typable : condition.Typable) : condition.toToken.Regular := by
  obtain ⟨value, quoted, polarity⟩ := condition
  cases quoted with
  | true => exact typable.2
  | false =>
      obtain ⟨named, unsigned⟩ := typable
      change Token.IsWord (polarity.sign ++ value).toList
      rw [String.toList_append]
      cases polarity with
      | neutral => exact .inl ⟨named, unsigned rfl⟩
      | required => exact .inr ⟨.inl rfl, named⟩
      | excluded => exact .inr ⟨.inr rfl, named⟩

private theorem Typable.render_toToken (typable : condition.Typable) :
    condition.toToken.render = condition.render := by
  have regular := typable.regular
  obtain ⟨value, quoted, polarity⟩ := condition
  cases quoted with
  | true =>
      obtain ⟨rfl, _⟩ := typable
      change "\"" ++ value ++ "\"" = "" ++ ("\"" ++ value ++ "\"")
      rw [String.empty_append]
  | false => exact if_pos regular

private theorem Typable.lexeme (typable : condition.Typable) :
    Token.Lexeme condition.render.toList condition.toToken := by
  rw [← typable.render_toToken]
  exact typable.regular.lexeme

/-- A word without a sign in front is neutral. -/
theorem ofTerm_word {text : String} (unsigned : ∀ c ∈ text.toList.head?, c ≠ '+' ∧ c ≠ '-') :
    ofTerm ⟨.word, text⟩ = word text := by
  rw [ofTerm, if_neg nofun]
  dsimp only
  split
  · rename_i signed
    exact ((unsigned '+' (by rw [signed]; rfl)).1 rfl).elim
  · rename_i signed
    exact ((unsigned '-' (by rw [signed]; rfl)).2 rfl).elim
  · rfl

/-- A word gives up the sign that is put in front of it. -/
theorem ofTerm_signed (polarity : Polarity) {text : String} (filled : text.toList ≠ [])
    (unsigned : ∀ c ∈ text.toList.head?, c ≠ '+' ∧ c ≠ '-') :
    ofTerm ⟨.word, polarity.sign ++ text⟩ = (word text).withPolarity polarity := by
  obtain ⟨first, others, same⟩ := List.exists_cons_of_ne_nil filled
  cases polarity with
  | neutral =>
      rw [Polarity.sign, String.empty_append, ofTerm_word unsigned]
      rfl
  | _ =>
      simp only [ofTerm, reduceCtorEq, ↓reduceIte, Polarity.sign, String.toList_append, same]
      change (word (String.ofList (first :: others))).withPolarity _ = _
      rw [← same, String.ofList_toList]

private theorem Typable.ofTerm_toToken (typable : condition.Typable) :
    ofTerm condition.toToken = condition := by
  obtain ⟨value, quoted, polarity⟩ := condition
  cases quoted with
  | true =>
      obtain ⟨rfl, _⟩ := typable
      rfl
  | false =>
      obtain ⟨named, _⟩ := typable
      exact ofTerm_signed polarity named.1 named.head_ne_sign

end Condition

/-- The token of a connective. -/
def Connective.toToken (op : Connective) : Token :=
  ⟨.operator, op.keyword⟩

private theorem Connective.role_toToken (op : Connective) : op.toToken.role = .connective op := by
  cases op <;> rfl

private theorem Connective.lexeme (op : Connective) :
    Token.Lexeme op.keyword.toList op.toToken := by
  apply Token.lexeme_keyword
  cases op <;> decide

namespace Expr

mutual

/-- The tokens of an expression that can be typed. -/
def toTokens : Expr → List Token
  | leaf condition => [condition.toToken]
  | group _ [] => [⟨.paren, "("⟩, ⟨.paren, ")"⟩]
  | group op (first :: others) =>
    ⟨.paren, "("⟩ :: (first.toTokens ++ (toTokensAfter op others ++ [⟨.paren, ")"⟩]))

/-- The tokens of the children of a group after the first, each behind the connective. -/
def toTokensAfter (op : Connective) : List Expr → List Token
  | [] => []
  | expr :: rest => op.toToken :: (expr.toTokens ++ toTokensAfter op rest)

end

private theorem mem_conditions_group {op : Connective} {children : List Expr} {child : Expr}
    {condition : Condition} (member : child ∈ children) (inside : condition ∈ child.conditions) :
    condition ∈ (group op children).conditions := by
  rw [conditions_group]
  exact List.mem_flatMap.mpr ⟨child, member, inside⟩

section Spelling

open Token

variable {rest : List Char} {tokens : List Token}

private theorem toList_renderJoined (op : Connective) (first : Expr) (others : List Expr) :
    (renderJoined op (first :: others)).toList =
      first.render.toList ++
        others.flatMap fun expr => ' ' :: (op.keyword.toList ++ ' ' :: expr.render.toList) := by
  induction others generalizing first with
  | nil => rw [renderJoined, List.flatMap_nil, List.append_nil]
  | cons next others ih =>
      have step : renderJoined op (first :: next :: others) =
          first.render ++ " " ++ op.keyword ++ " " ++ renderJoined op (next :: others) := rfl
      rw [step, String.toList_append, ih next]
      simp

/-- The text of the children after the first spells their tokens if each child spells its own. -/
theorem spells_after (op : Connective) {others : List Expr}
    (each : ∀ expr ∈ others, ∀ rest tokens, Apart rest → Spells rest tokens →
      Spells (expr.render.toList ++ rest) (expr.toTokens ++ tokens))
    (apart : Apart rest) (spells : Spells rest tokens) :
    Apart ((others.flatMap fun expr =>
        ' ' :: (op.keyword.toList ++ ' ' :: expr.render.toList)) ++ rest) ∧
      Spells ((others.flatMap fun expr =>
        ' ' :: (op.keyword.toList ++ ' ' :: expr.render.toList)) ++ rest)
        (toTokensAfter op others ++ tokens) := by
  induction others with
  | nil => exact ⟨apart, spells⟩
  | cons expr others ih =>
      obtain ⟨first, later⟩ := List.forall_mem_cons.mp each
      obtain ⟨ends, spelled⟩ := ih later
      have space : ∀ cs, Apart (' ' :: cs) := fun cs => apart_cons.mpr isSeparator_space.2
      have operand := first _ _ ends spelled
      have joined := Spells.lexeme op.lexeme (.inr (.inr (space _)))
        (.separator isSeparator_space operand)
      rw [List.flatMap_cons, toTokensAfter]
      simp only [List.cons_append, List.append_assoc] at joined ⊢
      exact ⟨space _, .separator isSeparator_space joined⟩

/-- The text of an expression spells its tokens, whatever follows that continues no identifier. -/
theorem spells_render {expr : Expr}
    (typable : ∀ condition ∈ expr.conditions, condition.Typable)
    (apart : Apart rest) (spells : Spells rest tokens) :
    Spells (expr.render.toList ++ rest) (expr.toTokens ++ tokens) := by
  induction expr generalizing rest tokens with
  | leaf condition =>
      have lexeme := (typable condition List.mem_cons_self).lexeme
      rw [render, toTokens]
      exact .lexeme lexeme (.inr (.inr apart)) spells
  | group op children ih =>
      have closing : Lexeme [')'] ⟨.paren, ")"⟩ := .paren (.inr rfl)
      have opening : Lexeme ['('] ⟨.paren, "("⟩ := .paren (.inl rfl)
      -- After a child comes a space or this parenthesis, and neither continues an identifier.
      have ended : Spells (')' :: rest) (⟨.paren, ")"⟩ :: tokens) :=
        .lexeme closing (.inl rfl) spells
      have apartEnd : Apart (')' :: rest) :=
        apart_cons.mpr (isIdentifier_of_mem_marks (by decide))
      have each : ∀ child ∈ children, ∀ rest tokens, Apart rest → Spells rest tokens →
          Spells (child.render.toList ++ rest) (child.toTokens ++ tokens) :=
        fun child member _ _ => ih child member fun condition inside =>
          typable condition (mem_conditions_group member inside)
      cases children with
      | nil =>
          have spelled := Spells.lexeme opening (.inl rfl) ended
          simpa [render, renderJoined, toTokens] using spelled
      | cons first others =>
          obtain ⟨head, later⟩ := List.forall_mem_cons.mp each
          obtain ⟨ends, spelled⟩ := spells_after op later apartEnd ended
          have body := Spells.lexeme opening (.inl rfl) (head _ _ ends spelled)
          have text : (group op (first :: others)).render.toList =
              '(' :: ((renderJoined op (first :: others)).toList ++ [')']) := by
            simp [render]
          rw [text, toList_renderJoined, toTokens]
          simpa using body

private theorem tokenize_render {expr : Expr}
    (typable : ∀ condition ∈ expr.conditions, condition.Typable) :
    tokenize expr.render = expr.toTokens := by
  have spelled := spells_render typable apart_nil Spells.nil
  rw [List.append_nil, List.append_nil] at spelled
  exact lex_eq_iff_spells.mpr spelled

end Spelling

section Derivation

open Grammar

variable {depth : Nat}

private theorem exists_factors_after {others : List Expr}
    (each : ∀ expr ∈ others, ∀ rest, ∃ operand : Operand depth (expr.toTokens ++ rest) rest,
      operand.expr = expr) (rest : List Token) :
    ∃ factors : Factors depth (toTokensAfter .and others ++ rest) rest,
      factors.exprs = others := by
  induction others with
  | nil => exact ⟨.none, rfl⟩
  | cons expr others ih =>
      obtain ⟨first, later⟩ := List.forall_mem_cons.mp each
      obtain ⟨factors, built⟩ := ih later
      obtain ⟨operand, same⟩ := first (toTokensAfter .and others ++ rest)
      rw [toTokensAfter, List.cons_append, List.append_assoc]
      refine ⟨.more (.keyword (Connective.role_toToken .and)) operand .none factors, ?_⟩
      rw [Factors.exprs, same, built]

private theorem exists_alternatives_after {others : List Expr}
    (each : ∀ expr ∈ others, ∀ rest, ∃ operand : Operand depth (expr.toTokens ++ rest) rest,
      operand.expr = expr) (rest : List Token) :
    ∃ alternatives : Alternatives depth (toTokensAfter .or others ++ rest) rest,
      alternatives.exprs = others := by
  induction others with
  | nil => exact ⟨.none, rfl⟩
  | cons expr others ih =>
      obtain ⟨first, later⟩ := List.forall_mem_cons.mp each
      obtain ⟨alternatives, built⟩ := ih later
      obtain ⟨operand, same⟩ := first (toTokensAfter .or others ++ rest)
      rw [toTokensAfter, List.cons_append, List.append_assoc]
      refine ⟨.more (Connective.role_toToken .or) (.mk operand .none .none) alternatives, ?_⟩
      rw [Alternatives.exprs, Conjunction.expr, Factors.exprs, same, built]
      rfl

/-- The children of a group form a disjunction whose expression is the group. -/
theorem exists_disjunction_group {op : Connective} {first second : Expr} {others : List Expr}
    (each : ∀ expr ∈ first :: second :: others, ∀ rest,
      ∃ operand : Operand depth (expr.toTokens ++ rest) rest, operand.expr = expr)
    (rest : List Token) :
    ∃ body : Disjunction depth
        (first.toTokens ++ (toTokensAfter op (second :: others) ++ rest)) rest,
      body.expr = group op (first :: second :: others) := by
  obtain ⟨head, later⟩ := List.forall_mem_cons.mp each
  obtain ⟨operand, same⟩ := head (toTokensAfter op (second :: others) ++ rest)
  cases op with
  | and =>
      obtain ⟨factors, built⟩ := exists_factors_after later rest
      refine ⟨.mk (.mk operand .none factors) .none, ?_⟩
      rw [Disjunction.expr, Conjunction.expr, Alternatives.exprs, same, built]
      rfl
  | or =>
      obtain ⟨alternatives, built⟩ := exists_alternatives_after later rest
      refine ⟨.mk (.mk operand .none .none) alternatives, ?_⟩
      rw [Disjunction.expr, Conjunction.expr, Factors.exprs, same, built]
      rfl

/-- The tokens of an expression are an operand with that expression, if there is room for its
groups. -/
theorem exists_operand_toTokens (depth : Nat) {expr : Expr} (branching : expr.Branching)
    (typable : ∀ condition ∈ expr.conditions, condition.Typable)
    (room : depth + expr.nesting ≤ maxNesting) (rest : List Token) :
    ∃ operand : Operand depth (expr.toTokens ++ rest) rest, operand.expr = expr := by
  induction branching generalizing depth rest with
  | leaf condition =>
      have same := (typable condition List.mem_cons_self).ofTerm_toToken
      have named : condition.toToken.role = .term := by
        unfold Condition.toToken
        split <;> rfl
      rw [toTokens]
      exact ⟨.term condition.toToken named, by rw [Operand.expr, same]⟩
  | @group op children several below ih =>
      rw [nesting] at room
      -- The children stand one group deeper, and are nested one level less.
      have each : ∀ child ∈ children, ∀ rest,
          ∃ operand : Operand (depth + 1) (child.toTokens ++ rest) rest, operand.expr = child := by
        intro child member rest
        have deepest := nesting_le_of_mem member
        apply ih child member
        · exact fun condition inside => typable condition (mem_conditions_group member inside)
        · omega
      obtain ⟨first, later, rfl⟩ := List.exists_cons_of_length_pos (Nat.lt_of_succ_lt several)
      obtain ⟨second, others, rfl⟩ :=
        List.exists_cons_of_length_pos (Nat.lt_of_succ_lt_succ several)
      obtain ⟨body, built⟩ := exists_disjunction_group each (⟨.paren, ")"⟩ :: rest)
      have inside : depth < maxNesting := by omega
      rw [toTokens, List.cons_append, List.append_assoc, List.append_assoc, List.singleton_append]
      have opens : Token.role ⟨.paren, "("⟩ = .opening := rfl
      have closes : Token.role ⟨.paren, ")"⟩ = .closing := rfl
      exact ⟨.group opens inside body closes, by rw [Operand.expr, built]⟩

end Derivation

/-- An expression is read back from what would be typed for it, if its conditions can be typed,
every group has at least two children and at most 128 groups are nested. -/
theorem rendered_expressions_read_back {expr : Expr} (branching : expr.Branching)
    (shallow : expr.nesting ≤ 128)
    (typable : ∀ condition ∈ expr.conditions, condition.Typable) :
    parse (tokenize expr.render) = .ok expr := by
  have derived := exists_operand_toTokens 0 branching typable (by rwa [Nat.zero_add]) []
  rw [List.append_nil] at derived
  obtain ⟨operand, same⟩ := derived
  let query : Grammar.Query expr.toTokens :=
    .mk (.mk (.mk operand .none .none) .none) (.none .none)
  have built : query.expr = expr := same
  rw [tokenize_render typable, Reading.parse_eq_ok_iff_yields, query.yields, built]

/-- A group inside a group of the same connective stays apart from it, a sign makes a keyword a
term, and a phrase may hold what elsewhere separates tokens. -/
theorem rendered_expressions_read_back_nested_conjunction :
    let expr := group .and [leaf ⟨"and", false, .required⟩,
      group .and [leaf ⟨"NOT (x", true, .neutral⟩, leaf ⟨"x_1", false, .excluded⟩],
      group .or [leaf ⟨"", true, .neutral⟩, leaf ⟨"7", false, .neutral⟩]]
    expr.Branching ∧ expr.nesting ≤ 128 ∧
      (∀ condition ∈ expr.conditions, condition.Typable) ∧
      expr.render = "(+and AND (\"NOT (x\" AND -x_1) AND (\"\" OR 7))" ∧
      parse (tokenize "(+and AND (\"NOT (x\" AND -x_1) AND (\"\" OR 7))") = .ok expr := by
  intro expr
  have branching : expr.Branching := by
    refine .group (by decide) ?_
    simp only [List.forall_mem_cons]
    refine ⟨.leaf _, .group (by decide) ?_, .group (by decide) ?_, List.forall_mem_nil _⟩
    · simp only [List.forall_mem_cons]
      exact ⟨.leaf _, .leaf _, List.forall_mem_nil _⟩
    · simp only [List.forall_mem_cons]
      exact ⟨.leaf _, .leaf _, List.forall_mem_nil _⟩
  have shallow : expr.nesting ≤ 128 := by decide
  have typable : ∀ condition ∈ expr.conditions, condition.Typable := by decide +kernel
  have typed : expr.render = "(+and AND (\"NOT (x\" AND -x_1) AND (\"\" OR 7))" := by
    rfl
  refine ⟨branching, shallow, typable, typed, ?_⟩
  rw [← typed]
  exact rendered_expressions_read_back branching shallow typable

end Expr

end ColumnSearch
