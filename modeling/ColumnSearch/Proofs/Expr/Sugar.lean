import ColumnSearch.Proofs.Expr.Reached
import ColumnSearch.Proofs.Expr.Render

/-!
# Spellings that make no difference

`AND` between two operands and a lone sign behind an operand can be left out, and `NOT` before a
word, however the word is signed, can be written as a minus in front of it. This holds wherever such
a spelling stands, also inside groups that are never closed and among tokens that are refused.
-/

namespace ColumnSearch

open ColumnSearch.Grammar

namespace Expr

namespace Reading

variable {reading : Reading} {token : Token} {rest : List Token} {expr : Expr}

private theorem yields_and (expects : reading.expects = .connector) {keyword : Token}
    (named : keyword.role = .connective .and) (starts : StartsOperand token.role) :
    reading.Yields (keyword :: token :: rest) expr ↔ reading.Yields (token :: rest) expr := by
  have free : reading.expects ≠ .negated := expects ▸ Expectation.noConfusion
  rw [yields_cons (step_and expects named), yields_expecting free Expectation.noConfusion starts]

private theorem yields_negation (expects : reading.expects ≠ .negated) {text : String}
    (filled : text.toList ≠ []) (unsigned : ∀ c ∈ text.toList.head?, c ≠ '+' ∧ c ≠ '-')
    (polarity : Polarity) :
    reading.Yields (⟨.operator, "NOT"⟩ :: ⟨.word, polarity.sign ++ text⟩ :: rest) expr ↔
      reading.Yields (⟨.word, Polarity.excluded.sign ++ text⟩ :: rest) expr := by
  rw [yields_cons (step_negation expects rfl), yields_cons (step_negated rfl rfl),
    yields_cons (step_term expects rfl), Condition.ofTerm_signed polarity filled unsigned,
    Condition.ofTerm_signed .excluded filled unsigned, addFactors_expecting]
  -- Both conditions are the word without its sign, barred.
  rfl

end Reading

variable {before after : List Token} {expr : Expr}

private theorem parse_insert_and (ends : Token.EndsOperand before) {keyword first : Token}
    (named : keyword.role = .connective .and) (starts : StartsOperand first.role) :
    parse (before ++ keyword :: first :: after) = .ok expr ↔
      parse (before ++ first :: after) = .ok expr := by
  apply Reading.parse_append_congr
  intro reading reaches
  exact Reading.yields_and (Reading.expects_of_endsOperand reaches ends) named starts

private theorem parse_insert_sign (ends : Token.EndsOperand before) {sign : Token}
    (named : sign.role = .sign) :
    parse (before ++ sign :: after) = .ok expr ↔ parse (before ++ after) = .ok expr := by
  apply Reading.parse_append_congr
  intro reading reaches
  have expects := Reading.expects_of_endsOperand reaches ends
  exact Reading.yields_cons (Reading.step_sign expects named)

private theorem parse_negation (free : ∀ last ∈ before.getLast?, last.isOperator "NOT" = false)
    {text : String} (filled : text.toList ≠ [])
    (unsigned : ∀ c ∈ text.toList.head?, c ≠ '+' ∧ c ≠ '-') (polarity : Polarity) :
    parse (before ++ ⟨.operator, "NOT"⟩ :: ⟨.word, polarity.sign ++ text⟩ :: after) = .ok expr ↔
      parse (before ++ ⟨.word, Polarity.excluded.sign ++ text⟩ :: after) = .ok expr := by
  apply Reading.parse_append_congr
  intro reading reaches
  refine Reading.yields_negation (fun expects => ?_) filled unsigned polarity
  obtain ⟨last, ends, negates⟩ := Reading.exists_negation_of_expects reaches expects
  cases (free last ends).symm.trans negates

/-- Spellings that make no difference, whatever stands around them: behind an operand, `AND` before
another operand and any lone sign; and instead of a word with a minus, `NOT` before the word, be it
unsigned, with a plus or with a minus. -/
theorem sugar_is_immaterial (before after : List Token) (expr : Expr) :
    (Token.EndsOperand before →
      (∀ keyword : Token, keyword.kind = .operator →
        Connective.ofKeyword? keyword.text = some .and →
        (∃ first ∈ after.head?, first.isTerm = true ∨ first.isOpenParen = true ∨
          first.isOperator "NOT" = true) →
        (parse (before ++ [keyword] ++ after) = .ok expr ↔ parse (before ++ after) = .ok expr)) ∧
      ∀ sign : Token, sign.kind = .modifier →
        (parse (before ++ [sign] ++ after) = .ok expr ↔ parse (before ++ after) = .ok expr)) ∧
    ((∀ last ∈ before.getLast?, last.isOperator "NOT" = false) →
      ∀ text : String, text ≠ "" → text.toList.head? ≠ some '+' → text.toList.head? ≠ some '-' →
      ∀ negated ∈ [text, "+" ++ text, "-" ++ text],
        (parse (before ++ [⟨.operator, "NOT"⟩, ⟨.word, negated⟩] ++ after) = .ok expr ↔
          parse (before ++ [⟨.word, "-" ++ text⟩] ++ after) = .ok expr)) := by
  simp only [List.append_assoc, List.cons_append, List.nil_append]
  refine ⟨fun ends => ⟨?_, fun sign modifier => ?_⟩, ?_⟩
  · rintro keyword operator joins ⟨first, leads, starts⟩
    obtain ⟨rest, rfl⟩ := List.head?_eq_some_iff.mp leads
    have named : keyword.role = .connective .and := by
      rw [← Token.ofKeyword?_eq_some_iff, if_pos operator, joins]
    rw [Token.isTerm_iff, Token.isOpenParen_iff, Token.isOperator_not_iff] at starts
    exact parse_insert_and ends named (or_rotate.mp starts)
  · exact parse_insert_sign ends (Token.kind_eq_modifier_iff.mp modifier)
  · intro free text filled plus minus negated spelled
    have filled : text.toList ≠ [] := by simpa using filled
    have unsigned : ∀ c ∈ text.toList.head?, c ≠ '+' ∧ c ≠ '-' := by
      intro c leads
      exact ⟨fun same => plus (same ▸ leads), fun same => minus (same ▸ leads)⟩
    have signed : ∃ polarity : Polarity, negated = polarity.sign ++ text := by
      simp only [List.mem_cons, List.not_mem_nil, or_false] at spelled
      rcases spelled with rfl | rfl | rfl
      · exact ⟨.neutral, String.empty_append.symm⟩
      · exact ⟨.required, rfl⟩
      · exact ⟨.excluded, rfl⟩
    obtain ⟨polarity, rfl⟩ := signed
    exact parse_negation free filled unsigned polarity

/-- Behind a group that is closed inside one that is not, `AND` and a lone sign can be put before
`NOT`, and `NOT` before a word with a plus is a minus. -/
theorem sugar_is_immaterial_in_open_group :
    let before : List Token := [⟨.word, "a"⟩, ⟨.paren, ")"⟩, ⟨.paren, "("⟩, ⟨.paren, "("⟩,
      ⟨.word, "b"⟩, ⟨.paren, ")"⟩]
    let negation : List Token := [⟨.operator, "NOT"⟩, ⟨.word, "+c"⟩]
    let after : List Token := [⟨.operator, "OR"⟩, ⟨.word, "d"⟩]
    Token.EndsOperand before ∧ ∃ expr, parse (before ++ negation ++ after) = .ok expr ∧
      parse (before ++ [⟨.operator, "AND"⟩] ++ (negation ++ after)) = .ok expr ∧
      parse (before ++ [⟨.modifier, "+"⟩] ++ (negation ++ after)) = .ok expr ∧
      parse (before ++ [⟨.word, "-c"⟩] ++ after) = .ok expr := by
  intro before negation after
  have ends : Token.EndsOperand before := ⟨before.dropLast, ⟨.paren, ")"⟩, rfl, .inr (by decide)⟩
  have parsed : parse (before ++ negation ++ after) = .ok (group .and [leaf (.word "a"),
      group .or [group .and [leaf (.word "b"), leaf ⟨"c", false, .excluded⟩],
        leaf (.word "d")]]) := rfl
  refine ⟨ends, _, parsed, ?_, ?_, ?_⟩
  · refine (((sugar_is_immaterial before (negation ++ after) _).1 ends).1 _ rfl (by decide) ?_).mpr
      parsed
    exact ⟨_, rfl, .inr (.inr rfl)⟩
  · exact (((sugar_is_immaterial before (negation ++ after) _).1 ends).2 _ rfl).mpr parsed
  · refine ((sugar_is_immaterial before after _).2 ?_ "c" (by decide) (by decide) (by decide) _
      ?_).mp parsed
    · rintro last ⟨⟩
      rfl
    · exact List.mem_cons_of_mem _ List.mem_cons_self

-- Behind a parenthesis that closes nothing a new part starts, and `AND` starts none.
example : parse [⟨.word, "a"⟩, ⟨.paren, ")"⟩, ⟨.operator, "AND"⟩, ⟨.word, "b"⟩] =
    .error ⟨2, .unexpectedToken "AND"⟩ := rfl

end Expr

end ColumnSearch
