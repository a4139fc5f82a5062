import ColumnSearch.Proofs.Expr.Render
import ColumnSearch.Proofs.Expr.Terms
import ColumnSearch.Proofs.Number
import ColumnSearch.Proofs.Token.Pieces

/-!
# The conditions of typed searches

A text whose double quotes come in pairs spells regular tokens only: no word reaches to the end of
the text. So a quoted condition has no double quote in it and is never required, and a bare one is
an identifier. If an identifier is a numeric literal, it is a run of digits.
-/

namespace ColumnSearch

/-- A quoted condition has no double quote in it and is not required, and a bare one is an
identifier. -/
structure Condition.Typed (condition : Condition) : Prop where
  quoted : condition.quoted = true →
    '"' ∉ condition.value.toList ∧ condition.isRequired = false
  bare : condition.quoted = false →
    condition.value.toList ≠ [] ∧ ∀ c ∈ condition.value.toList, Text.isIdentifier c = true

private theorem Condition.Typed.excluded {condition : Condition} (typed : condition.Typed) :
    (condition.withPolarity .excluded).Typed :=
  ⟨fun quoted => ⟨(typed.quoted quoted).1, rfl⟩, typed.bare⟩

namespace Token

variable {cs : List Char} {token : Token} {tokens : List Token}

/-- Without a double quote that is left open, all tokens are regular. -/
theorem Spells.regular (spells : Spells cs tokens) (paired : Even (cs.count '"')) :
    ∀ token ∈ tokens, token.Regular := by
  induction spells with
  | nil => exact nofun
  | separator separates _ ih =>
      have quote := (not_mem_marks_iff.mp separates.1).1
      rw [List.count_cons_of_ne quote] at paired
      exact ih paired
  | unclosed lone =>
      rw [List.count_cons_self, List.count_eq_zero.mpr lone] at paired
      exact absurd paired (by decide)
  | lexeme first _ _ ih =>
      rw [List.count_append, Nat.even_add] at paired
      exact List.forall_mem_cons.mpr ⟨first.regular, ih (paired.mp first.even_count_quote)⟩

/-- A word is an identifier behind the sign of a polarity. -/
theorem IsWord.exists_sign {text : String} (word : IsWord text.toList) :
    ∃ (polarity : Polarity) (identifier : String),
      text = polarity.sign ++ identifier ∧ IsIdentifier identifier.toList := by
  rcases word with ⟨named, _⟩ | ⟨sign, named⟩
  · exact ⟨.neutral, text, String.empty_append.symm, named⟩
  · rw [← String.toList_ofList (l := text.toList.tail)] at named
    rcases sign with plus | minus
    · refine ⟨.required, _, String.toList_inj.mp ?_, named⟩
      rw [String.toList_append, String.toList_ofList]
      exact List.eq_cons_of_mem_head? plus
    · refine ⟨.excluded, _, String.toList_inj.mp ?_, named⟩
      rw [String.toList_append, String.toList_ofList]
      exact List.eq_cons_of_mem_head? minus

private theorem IsWord.typed_ofTerm {text : String} (word : IsWord text.toList) :
    (Condition.ofTerm ⟨.word, text⟩).Typed := by
  obtain ⟨polarity, identifier, rfl, named⟩ := word.exists_sign
  rw [Condition.ofTerm_signed polarity named.1 named.head_ne_sign]
  constructor
  · intro quoted
    cases quoted
  · intro _
    exact named

private theorem Regular.typed_condition (regular : token.Regular) (term : token.isTerm = true)
    (negated : Bool) : (token.condition negated).Typed := by
  have typed : (Condition.ofTerm token).Typed := by
    obtain ⟨kind, text⟩ := token
    cases kind with
    | word => exact IsWord.typed_ofTerm regular
    | quoted =>
        refine ⟨fun _ => ⟨regular, rfl⟩, fun bare => ?_⟩
        cases bare
    | operator => cases term
    | paren => cases term
    | modifier => cases term
  cases negated with
  | true => exact typed.excluded
  | false => exact typed

end Token

/-- The conditions of a text whose double quotes come in pairs. -/
theorem Expr.typed_of_parse {query : String} {expr : Expr}
    (paired : Even (query.toList.count '"')) (parsed : parse (tokenize query) = .ok expr) :
    ∀ condition ∈ expr.conditions, condition.Typed := by
  have regular := (Token.spells_lex query.toList).regular paired
  intro condition member
  rw [conditions_of_parse parsed, Token.mem_conditions_iff] at member
  obtain ⟨position, stands⟩ := member
  obtain ⟨token, found, rfl⟩ := Option.map_eq_some_iff.mp stands
  obtain ⟨present, term⟩ := Option.filter_eq_some_iff.mp found
  exact (regular token (List.mem_of_getElem? present)).typed_condition term _

open Numeral

private theorem Text.isIdentifier_of_isDigit {c : Char} (digit : c.isDigit = true) :
    isIdentifier c = true := by
  obtain ⟨least, most⟩ := Char.isDigit_iff_toNat.mp digit
  rw [isIdentifier, isAlphanumeric, Bool.or_eq_true]
  refine .inl (List.any_eq_true.mpr ⟨('0'.toNat, '9'.toNat), List.mem_cons_self, ?_⟩)
  rw [Bool.and_eq_true]
  exact ⟨decide_eq_true least, decide_eq_true most⟩

private theorem toUpper_of_isDigit {c : Char} (digit : c.isDigit = true) : c.toUpper = c := by
  obtain ⟨_, most⟩ := Char.isDigit_iff_toNat.mp digit
  refine dif_neg fun ⟨lower, _⟩ => ?_
  have letter := Nat.le_trans (UInt32.le_iff_toNat_le.mp lower) most
  exact absurd letter (by decide)

private theorem Token.isIdentifier_of_areDigits {cs : List Char} (run : AreDigits cs) :
    IsIdentifier cs :=
  ⟨run.1, fun c member => Text.isIdentifier_of_isDigit (run.2 c member)⟩

/-- A run of digits is a word, for no keyword has a digit in it. -/
theorem Token.lex_digits {cs rest : List Char} (run : AreDigits cs) (apart : Apart rest) :
    lex (cs ++ rest) = ⟨.word, String.ofList cs⟩ :: lex rest := by
  have named := isIdentifier_of_areDigits run
  have upper : cs.map Char.toUpper = cs :=
    (List.map_congr_left fun c member => toUpper_of_isDigit (run.2 c member)).trans (List.map_id cs)
  have letters : ∀ keyword ∈ keywords, keyword.toList.all Char.isDigit = false := by
    decide
  have other : String.ofList cs ∉ keywords := by
    intro keyword
    have mixed := letters _ keyword
    rw [String.toList_ofList, List.all_eq_true.mpr run.2] at mixed
    cases mixed
  rw [lex_identifier named apart, ofIdentifier]
  simp only [upper, other, ↓reduceIte]

section Alternatives

variable {first second : String}

/-- Two runs of digits joined by `OR` are read as two words and an operator. -/
theorem tokenize_alternatives (run : AreDigits first.toList) (other : AreDigits second.toList) :
    tokenize (first ++ " OR " ++ second) =
      [⟨.word, first⟩, ⟨.operator, "OR"⟩, ⟨.word, second⟩] := by
  have space : Text.isIdentifier ' ' = false := Token.isSeparator_space.2
  have keyword : Token.ofIdentifier ['O', 'R'] = ⟨.operator, "OR"⟩ := by decide
  have last := Token.lex_digits other Token.apart_nil
  rw [List.append_nil, String.ofList_toList, Token.lex] at last
  have text : (first ++ " OR " ++ second).toList =
      first.toList ++ ' ' :: (['O', 'R'] ++ ' ' :: second.toList) := by
    rw [String.toList_append, String.toList_append, List.append_assoc]
    rfl
  rw [tokenize, text, Token.lex_digits run (Token.apart_cons.mpr space),
    Token.lex_separator Token.isSeparator_space,
    Token.lex_identifier (by decide +kernel) (Token.apart_cons.mpr space),
    Token.lex_separator Token.isSeparator_space, keyword, last, String.ofList_toList]

/-- A search for one run of digits or another is a disjunction of the two. -/
theorem Expr.parse_alternatives (run : AreDigits first.toList) (other : AreDigits second.toList) :
    parse (tokenize (first ++ " OR " ++ second)) =
      .ok (.group .or [.leaf (.word first), .leaf (.word second)]) := by
  rw [tokenize_alternatives run other,
    ← Condition.ofTerm_word (Token.isIdentifier_of_areDigits run).head_ne_sign,
    ← Condition.ofTerm_word (Token.isIdentifier_of_areDigits other).head_ne_sign]
  rfl

end Alternatives

namespace Number

/-- What a run of digits with the given value denotes: the word that holds the value, and a double
only if there is none. -/
def DenotesRun (value : Nat) : Number → Prop
  | .signed word => word.toInt = value
  | .unsigned word => word.toNat = value
  | .real _ => 2 ^ 64 ≤ value

variable {s : String}

/-- An identifier that is a literal has neither a sign nor a point. -/
theorem areDigits_of_isLiteral (letters : ∀ c ∈ s.toList, Text.isIdentifier c = true)
    (literal : isLiteral s = true) : AreDigits s.toList := by
  have pointless : '.' ∉ s.toList := by
    intro point
    have other : Text.isIdentifier '.' = false := by decide +kernel
    exact Bool.false_ne_true (other.symm.trans (letters '.' point))
  have unsigned : ∀ sign ∈ ['+', '-'], sign ∉ s.toList := by
    intro sign mark member
    refine Token.not_mem_marks (letters sign member) ?_
    simp only [Token.marks, List.mem_cons] at mark ⊢
    tauto
  obtain ⟨negative, digits, signed, areDigits, _⟩ := exists_whole_of_not_mem literal pointless
  generalize s.toList = cs at *
  cases signed with
  | bare => exact areDigits
  | plus => exact (unsigned '+' (by simp) List.mem_cons_self).elim
  | minus => exact (unsigned '-' (by simp) List.mem_cons_self).elim

private theorem parts_of_areDigits {cs : List Char} (digits : AreDigits cs) : Parts cs cs none :=
  ⟨(List.append_nil cs).symm, digits.2, nofun, (List.append_nil cs).trans_ne digits.1⟩

private theorem spells_of_areDigits (digits : AreDigits s.toList) : Spells s false s.toList none :=
  ⟨s.toList, .bare _, parts_of_areDigits digits⟩

/-- A run of digits is a numeric literal. -/
theorem isLiteral_of_areDigits (digits : AreDigits s.toList) : isLiteral s = true :=
  isLiteral_iff.mpr
    ⟨false, s.toList, .bare _, isUnsigned_of_parts (parts_of_areDigits digits)⟩

/-- The magnitude of a run of digits is its value as a whole number. -/
theorem le_spelledMagnitude_of_areDigits (digits : AreDigits s.toList) {power place : Nat}
    (large : 2 ^ power ≤ Nat.ofDigitChars 10 s.toList 0 + 2 ^ place) :
    2 ^ power - 2 ^ place ≤ spelledMagnitude s := by
  have magnitude := magnitude_of_spells (spells_of_areDigits digits)
  rw [Option.getD_none, magnitude_whole, abs_wholeValue, Int.cast_natCast] at magnitude
  rw [← magnitude, sub_le_iff_le_add]
  exact_mod_cast large

/-- The number read from a run of digits is one that denotes the run. -/
theorem denotesRun_of_parse? (digits : AreDigits s.toList) {number : Number}
    (found : parse? s = some number) : DenotesRun (Nat.ofDigitChars 10 s.toList 0) number := by
  have same : wholeValue false s.toList = (Nat.ofDigitChars 10 s.toList 0 : Nat) := rfl
  rw [parse?_of_whole (spells_of_areDigits digits), same] at found
  generalize Nat.ofDigitChars 10 s.toList 0 = value at *
  by_cases small : value < 2 ^ 63
  · obtain ⟨word, held, least⟩ := exists_signed_of_ofInt? (n := value) (by omega) (by omega)
    rw [least] at found
    cases found
    exact held
  by_cases fits : value < 2 ^ 64
  · obtain ⟨word, held, least⟩ := exists_unsigned_of_ofInt? (n := value) (by omega) (by omega)
    rw [least] at found
    cases found
    exact Int.ofNat_inj.mp held
  · rw [ofInt?_eq_none_iff.mpr (by omega)] at found
    obtain ⟨x, _, rfl⟩ := Option.map_eq_some_iff.mp found
    exact Nat.not_lt.mp fits

end Number

end ColumnSearch
