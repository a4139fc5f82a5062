import ColumnSearch.Proofs.Token.Spelling

/-!
# Typing tokens

Which lists of tokens texts spell, and a text for each of them. Apart from one exception at the end
of a list, every token is regular: its role and its text fit together. Regular tokens can be typed
one after the other with a space in between, whatever tokens they are.
-/

namespace ColumnSearch

namespace Token

open Text

/-- An identifier that spells no keyword in any ASCII case, or a sign and any identifier. -/
def IsWord (cs : List Char) : Prop :=
  IsIdentifier cs ∧ String.ofList (cs.map Char.toUpper) ∉ keywords ∨
    (cs.head? = some '+' ∨ cs.head? = some '-') ∧ IsIdentifier cs.tail

/-- The role and the text of the token fit together. -/
def Regular : Token → Prop
  | ⟨.word, text⟩ => IsWord text.toList
  | ⟨.quoted, text⟩ => '"' ∉ text.toList
  | ⟨.operator, text⟩ => text ∈ keywords
  | ⟨.paren, text⟩ => text = "(" ∨ text = ")"
  | ⟨.modifier, text⟩ => text = "+" ∨ text = "-"

/-- All tokens are regular, except that the last one may be any word without a double quote. -/
def Typable : List Token → Prop
  | [] => True
  | [token] => token.Regular ∨ token.kind = .word ∧ '"' ∉ token.text.toList
  | token :: next :: rest => token.Regular ∧ Typable (next :: rest)

instance (cs : List Char) : Decidable (IsIdentifier cs) :=
  decidable_of_iff (cs ≠ [] ∧ cs.all isIdentifier = true) (by rw [List.all_eq_true, IsIdentifier])

instance (cs : List Char) : Decidable (IsWord cs) :=
  inferInstanceAs (Decidable (_ ∨ _))

instance : DecidablePred Regular
  | ⟨.word, text⟩ => inferInstanceAs (Decidable (IsWord text.toList))
  | ⟨.quoted, text⟩ => inferInstanceAs (Decidable ('"' ∉ text.toList))
  | ⟨.operator, text⟩ => inferInstanceAs (Decidable (text ∈ keywords))
  | ⟨.paren, _⟩ => inferInstanceAs (Decidable (_ ∨ _))
  | ⟨.modifier, _⟩ => inferInstanceAs (Decidable (_ ∨ _))

instance decidableTypable : DecidablePred Typable
  | [] => inferInstanceAs (Decidable True)
  | [_] => inferInstanceAs (Decidable (_ ∨ _))
  | token :: next :: rest =>
    have := decidableTypable (next :: rest)
    inferInstanceAs (Decidable (token.Regular ∧ Typable (next :: rest)))

/-- The token as it would be typed. A word that is not regular stands behind a double quote that
nothing closes. -/
def render (token : Token) : String :=
  match token.kind with
  | .quoted => "\"" ++ token.text ++ "\""
  | .word => if token.Regular then token.text else "\"" ++ token.text
  | _ => token.text

/-- Tokens as they would be typed, with single spaces in between. -/
def renderAll (tokens : List Token) : String :=
  " ".intercalate (tokens.map render)

variable {cs : List Char} {token : Token} {tokens : List Token}

private theorem typable_cons (regular : token.Regular) (others : Typable tokens) :
    Typable (token :: tokens) := by
  cases tokens with
  | nil => exact .inl regular
  | cons next rest => exact ⟨regular, others⟩

private theorem regular_ofIdentifier (named : IsIdentifier cs) : (ofIdentifier cs).Regular := by
  unfold ofIdentifier
  by_cases keyword : String.ofList (cs.map Char.toUpper) ∈ keywords
  · simp only [keyword, ↓reduceIte]
    exact keyword
  · simp only [keyword, ↓reduceIte, Regular, String.toList_ofList]
    exact .inl ⟨named, keyword⟩

/-- A token with a spelling is regular. -/
theorem Lexeme.regular (lexeme : Lexeme cs token) : token.Regular := by
  cases lexeme with
  | paren parenthesis => exact parenthesis.imp (congrArg Char.toString) (congrArg Char.toString)
  | phrase closed => simpa only [Regular, String.toList_ofList] using closed
  | modifier sign => exact sign.imp (congrArg Char.toString) (congrArg Char.toString)
  | signed sign named =>
      simp only [Regular, String.toList_ofList]
      exact .inr ⟨sign.imp (congrArg some) (congrArg some), named⟩
  | unsigned named => exact regular_ofIdentifier named

private theorem ofIdentifier_toList {text : String}
    (other : String.ofList (text.toList.map Char.toUpper) ∉ keywords) :
    ofIdentifier text.toList = ⟨.word, text⟩ := by
  simp only [ofIdentifier, other, ↓reduceIte, String.ofList_toList]

/-- A keyword spells its operator. -/
theorem lexeme_keyword {text : String} (keyword : text ∈ keywords) :
    Lexeme text.toList ⟨.operator, text⟩ := by
  have each : ∀ text ∈ keywords,
      IsIdentifier text.toList ∧ ofIdentifier text.toList = ⟨.operator, text⟩ := by
    decide +kernel
  obtain ⟨named, same⟩ := each text keyword
  rw [← same]
  exact .unsigned named

private theorem lexeme_word {text : String} (word : IsWord text.toList) :
    Lexeme text.toList ⟨.word, text⟩ := by
  rcases word with ⟨named, other⟩ | ⟨sign, named⟩
  · rw [← ofIdentifier_toList other]
    exact .unsigned named
  · obtain ⟨cs, rfl⟩ : ∃ cs, text = String.ofList cs := ⟨text.toList, String.ofList_toList.symm⟩
    rw [String.toList_ofList] at sign named ⊢
    cases cs with
    | nil => rcases sign with none | none <;> cases none
    | cons first identifier => exact .signed (by simpa using sign) named

/-- A regular token is spelled by what would be typed for it. -/
theorem Regular.lexeme (regular : token.Regular) : Lexeme token.render.toList token := by
  obtain ⟨kind, text⟩ := token
  cases kind with
  | word =>
      rw [render, if_pos regular]
      exact lexeme_word regular
  | quoted =>
      have spelled := Lexeme.phrase regular
      have typed : ("\"" ++ text ++ "\"").toList = '"' :: (text.toList ++ ['"']) := by simp
      rw [String.ofList_toList, ← typed] at spelled
      exact spelled
  | operator => exact lexeme_keyword regular
  | paren =>
      rcases regular with rfl | rfl
      · exact .paren (.inl rfl)
      · exact .paren (.inr rfl)
  | modifier =>
      rcases regular with rfl | rfl
      · exact .modifier (.inl rfl)
      · exact .modifier (.inr rfl)

private theorem Spells.typable (spells : Spells cs tokens) : Typable tokens := by
  induction spells with
  | nil => trivial
  | separator _ _ ih => exact ih
  | unclosed lone =>
      refine .inr ⟨rfl, ?_⟩
      rwa [String.toList_ofList]
  | lexeme first _ _ ih => exact typable_cons first.regular ih

private theorem renderAll_cons_cons (token next : Token) (rest : List Token) :
    (renderAll (token :: next :: rest)).toList =
      token.render.toList ++ ' ' :: (renderAll (next :: rest)).toList := by
  simp [renderAll, String.toList_intercalate]

/-- A space separates tokens. -/
theorem isSeparator_space : IsSeparator ' ' := by
  refine ⟨by decide, by decide +kernel⟩

private theorem render_of_not_regular {text : String} (irregular : ¬Regular ⟨.word, text⟩) :
    (render ⟨.word, text⟩).toList = '"' :: text.toList := by
  rw [render, if_neg irregular]
  simp

private theorem Typable.spells (typable : Typable tokens) :
    Spells (renderAll tokens).toList tokens := by
  induction tokens with
  | nil => exact .nil
  | cons token rest ih =>
      cases rest with
      | nil =>
          by_cases regular : token.Regular
          · have spelled := Spells.lexeme regular.lexeme (.inr (.inr apart_nil)) .nil
            rwa [List.append_nil] at spelled
          · -- only the last token may be irregular: its double quote takes the rest of the text
            obtain ⟨kind, text⟩ := token
            obtain ⟨rfl, lone⟩ := typable.resolve_left regular
            have spelled := Spells.unclosed lone
            rwa [String.ofList_toList, ← render_of_not_regular regular] at spelled
      | cons next rest =>
          -- the space ends the lexeme, whatever token comes next, and is then skipped
          obtain ⟨regular, others⟩ := typable
          rw [renderAll_cons_cons]
          exact .lexeme regular.lexeme (.inr (.inr (apart_cons.mpr isSeparator_space.2)))
            (.separator isSeparator_space (ih others))

/-- The lists of tokens that texts spell are the typable ones, and each of them is spelled by what
would be typed for it. -/
theorem typable_tokens_read_back :
    (∀ query, Typable (tokenize query)) ∧
      ∀ tokens, Typable tokens → tokenize (renderAll tokens) = tokens := by
  refine ⟨fun query => (spells_lex query.toList).typable, fun tokens typable => ?_⟩
  exact lex_eq_iff_spells.mpr typable.spells

/-- A sign makes a keyword a word, and so does a double quote that nothing closes. -/
theorem typable_tokens_read_back_keywords :
    let tokens : List Token := [⟨.word, "+and"⟩, ⟨.modifier, "-"⟩, ⟨.paren, "("⟩,
      ⟨.operator, "NOT"⟩, ⟨.quoted, ""⟩, ⟨.word, "not"⟩]
    Typable tokens ∧ renderAll tokens = "+and - ( NOT \"\" \"not" ∧
      tokenize "+and - ( NOT \"\" \"not" = tokens := by
  intro tokens
  have typable : Typable tokens := by decide +kernel
  have typed : renderAll tokens = "+and - ( NOT \"\" \"not" := by decide +kernel
  refine ⟨typable, typed, ?_⟩
  rw [← typed]
  exact typable_tokens_read_back.2 tokens typable

end Token

end ColumnSearch
