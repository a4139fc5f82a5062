import ColumnSearch.Proofs.Token.Spelling
import Mathlib.Data.List.Forall2

/-!
# The characters that tokens keep

Between double quotes every character of a text belongs to a token, and elsewhere every character
but the separators does. So the texts of the tokens, one after the other, are what remains of a text
without its double quotes and separators. Only an operator may read differently from what was typed,
and only in ASCII case.
-/

namespace ColumnSearch

namespace Token

open Text

/-- The characters that mean something, in a text that starts inside or outside double quotes. Each
double quote changes sides and is dropped. -/
def significant : Bool → List Char → List Char
  | _, [] => []
  | inside, c :: cs =>
    if c = '"' then significant (!inside) cs
    else if inside || isIdentifier c || c ∈ ['(', ')', '+', '-'] then c :: significant inside cs
    else significant inside cs

/-- The characters are the text of the token, or that of an operator in another ASCII case. -/
def ReadsAs (token : Token) (cs : List Char) : Prop :=
  cs = token.text.toList ∨
    token.kind = .operator ∧ cs.map Char.toUpper = token.text.toList.map Char.toUpper

variable {c : Char} {cs body identifier rest : List Char} {token : Token}

private theorem significant_quote (inside : Bool) (cs : List Char) :
    significant inside ('"' :: cs) = significant (!inside) cs := by
  rw [significant, if_pos rfl]

private theorem significant_separator (separates : IsSeparator c) (cs : List Char) :
    significant false (c :: cs) = significant false cs := by
  obtain ⟨unmarked, other⟩ := separates
  simp only [marks, List.mem_cons, not_or] at unmarked
  rw [significant, if_neg unmarked.1, if_neg]
  simp [other, unmarked]

private theorem significant_mark (mark : c ∈ ['(', ')', '+', '-']) (cs : List Char) :
    significant false (c :: cs) = c :: significant false cs := by
  have quote : c ≠ '"' := by
    rintro rfl
    simp at mark
  rw [significant, if_neg quote, if_pos (by simp only [mark, decide_true, Bool.or_true])]

private theorem significant_identifier (letters : ∀ c ∈ identifier, isIdentifier c = true)
    (rest : List Char) :
    significant false (identifier ++ rest) = identifier ++ significant false rest := by
  induction identifier with
  | nil => rfl
  | cons c identifier ih =>
      obtain ⟨letter, later⟩ := List.forall_mem_cons.mp letters
      obtain ⟨quote, _⟩ := not_mem_marks_iff.mp (not_mem_marks letter)
      rw [List.cons_append, significant, if_neg quote, if_pos (by simp [letter]), ih later,
        List.cons_append]

private theorem significant_inside (closed : '"' ∉ body) (rest : List Char) :
    significant true (body ++ rest) = body ++ significant true rest := by
  induction body with
  | nil => rfl
  | cons c body ih =>
      obtain ⟨quote, later⟩ := List.ne_and_not_mem_of_not_mem_cons closed
      rw [List.cons_append, significant, if_neg quote.symm, if_pos (by simp), ih later,
        List.cons_append]

private theorem readsAs_ofList (kind : Kind) (cs : List Char) :
    ReadsAs ⟨kind, String.ofList cs⟩ cs :=
  .inl String.toList_ofList.symm

private theorem readsAs_toString (kind : Kind) (c : Char) : ReadsAs ⟨kind, c.toString⟩ [c] :=
  .inl (String.toList_singleton c).symm

private theorem map_toUpper_keyword {text : String} (keyword : text ∈ keywords) :
    text.toList.map Char.toUpper = text.toList := by
  have each : ∀ text ∈ keywords, text.toList.map Char.toUpper = text.toList := by decide
  exact each text keyword

/-- An identifier is a word as it stands, or an operator in upper case. -/
theorem readsAs_ofIdentifier (identifier : List Char) :
    (ofIdentifier identifier).ReadsAs identifier := by
  unfold ofIdentifier
  by_cases keyword : String.ofList (identifier.map Char.toUpper) ∈ keywords
  · simp only [keyword, ↓reduceIte]
    refine .inr ⟨rfl, ?_⟩
    rw [map_toUpper_keyword keyword, String.toList_ofList]
  · simp only [keyword, ↓reduceIte]
    exact readsAs_ofList .word identifier

private theorem Lexeme.significant_append (lexeme : Lexeme cs token) :
    ∃ kept, token.ReadsAs kept ∧
      ∀ rest, significant false (cs ++ rest) = kept ++ significant false rest := by
  cases lexeme with
  | @paren c parenthesis =>
      refine ⟨[c], readsAs_toString .paren c, significant_mark ?_⟩
      rcases parenthesis with rfl | rfl <;> decide
  | @phrase body closed =>
      refine ⟨body, readsAs_ofList .quoted body, fun rest => ?_⟩
      rw [List.cons_append, List.append_assoc, List.singleton_append, significant_quote,
        Bool.not_false, significant_inside closed, significant_quote, Bool.not_true]
  | @modifier c sign =>
      refine ⟨[c], readsAs_toString .modifier c, significant_mark ?_⟩
      rcases sign with rfl | rfl <;> decide
  | @signed c identifier sign named =>
      refine ⟨c :: identifier, readsAs_ofList .word _, fun rest => ?_⟩
      have mark : c ∈ ['(', ')', '+', '-'] := by rcases sign with rfl | rfl <;> decide
      rw [List.cons_append, significant_mark mark, significant_identifier named.2,
        List.cons_append]
  | unsigned named =>
      exact ⟨cs, readsAs_ofIdentifier cs, significant_identifier named.2⟩

/-- The tokens of a text keep its significant characters, all of them, once each and in order. Their
texts, up to the ASCII case of operators, make up what remains of the text without double quotes and
without the separators outside of them. -/
theorem texts_keep_significant_characters (query : String) :
    ∃ readings, List.Forall₂ ReadsAs (tokenize query) readings ∧
      readings.flatten = significant false query.toList := by
  rw [tokenize]
  generalize query.toList = cs
  have spells := spells_lex cs
  generalize lex cs = tokens at spells ⊢
  induction spells with
  | nil => exact ⟨[], .nil, rfl⟩
  | separator separates _ ih =>
      obtain ⟨readings, read, kept⟩ := ih
      exact ⟨readings, read, by rw [kept, significant_separator separates]⟩
  | @unclosed body lone =>
      -- the double quote moves inside, and nothing of what follows moves outside again
      refine ⟨[body], .cons (readsAs_ofList .word body) .nil, ?_⟩
      have inside := significant_inside lone []
      rw [List.append_nil, significant, List.append_nil] at inside
      rw [List.flatten_singleton, significant_quote, Bool.not_false, inside]
  | lexeme first _ _ ih =>
      obtain ⟨readings, read, kept⟩ := ih
      obtain ⟨reading, reads, append⟩ := first.significant_append
      refine ⟨reading :: readings, .cons reads read, ?_⟩
      rw [List.flatten_cons, kept, append]

-- The dash stands inside the phrase that nothing closes, the comma does not.
example : significant false "Or,+b \"c - d".toList = "Or+bc - d".toList := by decide +kernel

end Token

end ColumnSearch
