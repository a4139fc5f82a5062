import ColumnSearch.Token.Lexer
import Mathlib.Data.List.TakeWhile

/-!
# How texts spell tokens

`Token.Spells` says which tokens a text spells without saying how they are found: a text is made of
lexemes and separators, and a lexeme that could go on is as long as possible. `Token.lex` finds
exactly these tokens, so what is said of texts and their tokens can be proved by induction over
spellings.
-/

namespace ColumnSearch

namespace Token

open Text

/-- The characters outside identifiers that do not merely separate tokens. -/
def marks : List Char :=
  ['"', '(', ')', '+', '-']

/-- A character that only separates tokens. -/
def IsSeparator (c : Char) : Prop :=
  c ∉ marks ∧ isIdentifier c = false

/-- A nonempty run of identifier characters. -/
def IsIdentifier (cs : List Char) : Prop :=
  cs ≠ [] ∧ ∀ c ∈ cs, isIdentifier c = true

/-- The text does not start with an identifier character. -/
def Apart (cs : List Char) : Prop :=
  ∀ c ∈ cs.head?, isIdentifier c = false

/-- The characters spell the token. -/
inductive Lexeme : List Char → Token → Prop where
  | paren {c : Char} (parenthesis : c = '(' ∨ c = ')') : Lexeme [c] ⟨.paren, c.toString⟩
  | phrase {body : List Char} (closed : '"' ∉ body) :
    Lexeme ('"' :: (body ++ ['"'])) ⟨.quoted, String.ofList body⟩
  | modifier {c : Char} (sign : c = '+' ∨ c = '-') : Lexeme [c] ⟨.modifier, c.toString⟩
  | signed {c : Char} {identifier : List Char} (sign : c = '+' ∨ c = '-')
    (named : IsIdentifier identifier) :
    Lexeme (c :: identifier) ⟨.word, String.ofList (c :: identifier)⟩
  | unsigned {identifier : List Char} (named : IsIdentifier identifier) :
    Lexeme identifier (ofIdentifier identifier)

/-- The text spells the tokens. Parentheses and phrases end by themselves, all other lexemes only
where no identifier goes on. -/
inductive Spells : List Char → List Token → Prop where
  | nil : Spells [] []
  | separator {c : Char} {rest : List Char} {tokens : List Token} (separates : IsSeparator c)
    (others : Spells rest tokens) : Spells (c :: rest) tokens
  | unclosed {body : List Char} (lone : '"' ∉ body) :
    Spells ('"' :: body) [⟨.word, String.ofList body⟩]
  | lexeme {lexeme rest : List Char} {token : Token} {tokens : List Token}
    (first : Lexeme lexeme token)
    (maximal : token.kind = .paren ∨ token.kind = .quoted ∨ Apart rest)
    (others : Spells rest tokens) : Spells (lexeme ++ rest) (token :: tokens)

variable {c : Char} {cs body identifier rest : List Char} {token : Token} {tokens : List Token}

/-- The characters that are no marks are those that the lexer takes for none. -/
theorem not_mem_marks_iff :
    c ∉ marks ↔ c ≠ '"' ∧ ¬(c = '(' ∨ c = ')') ∧ ¬(c = '+' ∨ c = '-') := by
  simp only [marks, List.mem_cons, List.not_mem_nil, or_false, not_or, ne_eq, and_assoc]

/-- A sign is neither a quotation mark nor a parenthesis. -/
theorem ne_of_sign (sign : c = '+' ∨ c = '-') : c ≠ '"' ∧ ¬(c = '(' ∨ c = ')') := by
  rcases sign with rfl | rfl
  · decide
  · decide

/-- No mark is part of an identifier. -/
theorem isIdentifier_of_mem_marks (mark : c ∈ marks) : isIdentifier c = false := by
  have none : marks.all (fun c => !isIdentifier c) = true := by decide +kernel
  simpa using List.all_eq_true.mp none c mark

/-- The characters of identifiers are no marks. -/
theorem not_mem_marks (letter : isIdentifier c = true) : c ∉ marks := by
  intro mark
  rw [isIdentifier_of_mem_marks mark] at letter
  cases letter

/-- No identifier starts with a sign. -/
theorem IsIdentifier.head_ne_sign (named : IsIdentifier cs) :
    ∀ c ∈ cs.head?, c ≠ '+' ∧ c ≠ '-' := by
  intro c leading
  have letter := named.2 c (List.mem_of_mem_head? leading)
  obtain ⟨_, _, sign⟩ := not_mem_marks_iff.mp (not_mem_marks letter)
  exact not_or.mp sign

private theorem kind_ofIdentifier (identifier : List Char) :
    (ofIdentifier identifier).kind ≠ .paren ∧ (ofIdentifier identifier).kind ≠ .quoted := by
  unfold ofIdentifier
  dsimp only
  split <;> exact ⟨nofun, nofun⟩

/-- The end of the text ends an identifier. -/
theorem apart_nil : Apart [] :=
  nofun

/-- A character ends an identifier unless it can be part of one. -/
theorem apart_cons : Apart (c :: cs) ↔ isIdentifier c = false := by
  simp only [Apart, List.head?_cons, Option.mem_some_iff, forall_eq']

/-- The longest run that satisfies a property ends where the property does. -/
theorem takeWhile_append_of_head? {p : Char → Bool} (inside : ∀ c ∈ cs, p c = true)
    (outside : ∀ c ∈ rest.head?, p c = false) : (cs ++ rest).takeWhile p = cs := by
  rw [List.takeWhile_append_of_pos inside]
  cases rest with
  | nil => rw [List.takeWhile_nil, List.append_nil]
  | cons c rest =>
      rw [List.takeWhile_cons_of_neg (by simp [outside c rfl]), List.append_nil]

/-- What is left after the longest run that satisfies a property starts where the property ends. -/
theorem dropWhile_append_of_head? {p : Char → Bool} (inside : ∀ c ∈ cs, p c = true)
    (outside : ∀ c ∈ rest.head?, p c = false) : (cs ++ rest).dropWhile p = rest := by
  rw [List.dropWhile_append_of_pos inside]
  cases rest with
  | nil => rfl
  | cons c rest => rw [List.dropWhile_cons_of_neg (by simp [outside c rfl])]

private theorem head?_dropWhile {p : Char → Bool} (cs : List Char) :
    ∀ c ∈ (cs.dropWhile p).head?, p c = false := by
  intro c first
  have stopped := List.head?_dropWhile_not p cs
  rwa [Option.mem_def.mp first] at stopped

private theorem apart_of_takeWhile_eq_nil (none : cs.takeWhile isIdentifier = []) : Apart cs := by
  have same := List.takeWhile_append_dropWhile (p := isIdentifier) (l := cs)
  rw [none, List.nil_append] at same
  rw [← same]
  exact head?_dropWhile cs

private theorem ne_quote_of_not_mem (absent : '"' ∉ body) :
    ∀ c ∈ body, decide (c ≠ '"') = true := by
  intro c member
  rw [decide_eq_true_iff]
  rintro rfl
  exact absent member

private theorem quote_not_mem_takeWhile (cs : List Char) : '"' ∉ cs.takeWhile (· ≠ '"') := by
  intro member
  have different := List.mem_takeWhile_imp member
  simp at different

private theorem quote_not_mem_of_dropWhile (unclosed : cs.dropWhile (· ≠ '"') = []) : '"' ∉ cs := by
  intro member
  have different := List.dropWhile_eq_nil_iff.mp unclosed '"' member
  simp at different

private theorem eq_append_of_dropWhile (closed : cs.dropWhile (· ≠ '"') = c :: rest) :
    c = '"' ∧ cs = cs.takeWhile (· ≠ '"') ++ c :: rest := by
  have stopped := head?_dropWhile (p := (· ≠ '"')) cs
  rw [closed] at stopped
  refine ⟨by simpa using stopped c rfl, ?_⟩
  rw [← closed, List.takeWhile_append_dropWhile]

/-- A separator is skipped. -/
theorem lex_separator (separates : IsSeparator c) (cs : List Char) : lex (c :: cs) = lex cs := by
  obtain ⟨unmarked, other⟩ := separates
  obtain ⟨quote, paren, sign⟩ := not_mem_marks_iff.mp unmarked
  rw [lex, if_neg quote, if_neg paren, if_neg sign, if_neg (Bool.eq_false_iff.mp other)]

private theorem lex_paren (parenthesis : c = '(' ∨ c = ')') (cs : List Char) :
    lex (c :: cs) = ⟨.paren, c.toString⟩ :: lex cs := by
  have quote : c ≠ '"' := by rcases parenthesis with rfl | rfl <;> decide
  rw [lex, if_neg quote, if_pos parenthesis]

private theorem lex_unclosed (lone : '"' ∉ body) :
    lex ('"' :: body) = [⟨.word, String.ofList body⟩] := by
  have unclosed := List.dropWhile_eq_nil_iff.mpr (ne_quote_of_not_mem lone)
  rw [lex, if_pos rfl]
  split
  · rfl
  · rename_i closed
    rw [unclosed] at closed
    cases closed

private theorem lex_phrase (closed : '"' ∉ body) (rest : List Char) :
    lex ('"' :: (body ++ '"' :: rest)) = ⟨.quoted, String.ofList body⟩ :: lex rest := by
  have inside := ne_quote_of_not_mem closed
  have outside : ∀ c ∈ ('"' :: rest).head?, decide (c ≠ '"') = false := by simp
  have dropped := dropWhile_append_of_head? inside outside
  rw [lex, if_pos rfl, takeWhile_append_of_head? inside outside]
  split
  · rename_i unclosed
    rw [dropped] at unclosed
    cases unclosed
  · rename_i after closed
    rw [dropped] at closed
    cases closed
    rfl

private theorem lex_sign (sign : c = '+' ∨ c = '-') (apart : Apart rest) :
    lex (c :: rest) = ⟨.modifier, c.toString⟩ :: lex rest := by
  obtain ⟨quote, paren⟩ := ne_of_sign sign
  have none : rest.takeWhile isIdentifier = [] :=
    takeWhile_append_of_head? (List.forall_mem_nil _) apart
  rw [lex, if_neg quote, if_neg paren, if_pos sign, none]

private theorem lex_signed (sign : c = '+' ∨ c = '-') (named : IsIdentifier identifier)
    (apart : Apart rest) :
    lex (c :: (identifier ++ rest)) = ⟨.word, String.ofList (c :: identifier)⟩ :: lex rest := by
  obtain ⟨quote, paren⟩ := ne_of_sign sign
  obtain ⟨nonempty, letters⟩ := named
  rw [lex, if_neg quote, if_neg paren, if_pos sign, takeWhile_append_of_head? letters apart,
    dropWhile_append_of_head? letters apart]
  cases identifier with
  | nil => exact (nonempty rfl).elim
  | cons first others => rfl

/-- An identifier that ends where it stands is read as one token. -/
theorem lex_identifier (named : IsIdentifier identifier) (apart : Apart rest) :
    lex (identifier ++ rest) = ofIdentifier identifier :: lex rest := by
  obtain ⟨nonempty, letters⟩ := named
  obtain ⟨first, others, rfl⟩ := List.exists_cons_of_ne_nil nonempty
  obtain ⟨letter, later⟩ := List.forall_mem_cons.mp letters
  obtain ⟨quote, paren, sign⟩ := not_mem_marks_iff.mp (not_mem_marks letter)
  rw [List.cons_append, lex, if_neg quote, if_neg paren, if_neg sign, if_pos letter,
    takeWhile_append_of_head? later apart, dropWhile_append_of_head? later apart]

/-- A text spells the tokens that are read from it. -/
theorem spells_lex (cs : List Char) : Spells cs (lex cs) := by
  fun_induction lex cs with
  | case1 => exact .nil
  | case2 cs unclosed => exact .unclosed (quote_not_mem_of_dropWhile unclosed)
  | case3 cs mark after closed ih =>
      obtain ⟨rfl, split⟩ := eq_append_of_dropWhile closed
      have spelled := Spells.lexeme (.phrase (quote_not_mem_takeWhile cs)) (.inr (.inl rfl)) ih
      rwa [List.cons_append, List.append_assoc, List.singleton_append, ← split] at spelled
  | case4 c cs _ parenthesis ih => exact .lexeme (.paren parenthesis) (.inl rfl) ih
  | case5 c cs _ _ sign none ih =>
      exact .lexeme (.modifier sign) (.inr (.inr (apart_of_takeWhile_eq_nil none))) ih
  | case6 c cs _ _ sign some ih =>
      have named : IsIdentifier (cs.takeWhile isIdentifier) :=
        ⟨some, fun _ => List.mem_takeWhile_imp⟩
      have spelled := Spells.lexeme (.signed sign named) (.inr (.inr (head?_dropWhile cs))) ih
      rwa [List.cons_append, List.takeWhile_append_dropWhile] at spelled
  | case7 c cs _ _ _ letter ih =>
      have named : IsIdentifier (c :: cs.takeWhile isIdentifier) :=
        ⟨nofun, List.forall_mem_cons.mpr ⟨letter, fun _ => List.mem_takeWhile_imp⟩⟩
      have spelled := Spells.lexeme (.unsigned named) (.inr (.inr (head?_dropWhile cs))) ih
      rwa [List.cons_append, List.takeWhile_append_dropWhile] at spelled
  | case8 c cs quote paren sign other ih =>
      have unmarked : c ∉ marks := not_mem_marks_iff.mpr ⟨quote, paren, sign⟩
      exact .separator ⟨unmarked, Bool.eq_false_iff.mpr other⟩ ih

/-- A spelling that the following characters do not prolong is read as its token. -/
theorem Lexeme.lex_append (first : Lexeme cs token)
    (maximal : token.kind = .paren ∨ token.kind = .quoted ∨ Apart rest) :
    lex (cs ++ rest) = token :: lex rest := by
  cases first with
  | paren parenthesis => exact lex_paren parenthesis rest
  | phrase closed =>
      rw [List.cons_append, List.append_assoc, List.singleton_append]
      exact lex_phrase closed rest
  | modifier sign => exact lex_sign sign (by simpa using maximal)
  | signed sign named => exact lex_signed sign named (by simpa using maximal)
  | unsigned named =>
      obtain ⟨paren, quoted⟩ := kind_ofIdentifier cs
      exact lex_identifier named ((maximal.resolve_left paren).resolve_left quoted)

/-- The lexer finds the tokens that a text spells. -/
theorem lex_eq_iff_spells : lex cs = tokens ↔ Spells cs tokens := by
  constructor
  · rintro rfl
    exact spells_lex cs
  · intro spells
    induction spells with
    | nil => rw [lex]
    | separator separates others ih => rw [lex_separator separates, ih]
    | unclosed lone => exact lex_unclosed lone
    | lexeme first maximal others ih => rw [first.lex_append maximal, ih]

private theorem Lexeme.length_pos (lexeme : Lexeme cs token) : 0 < cs.length := by
  cases lexeme with
  | unsigned named => exact List.length_pos_iff.mpr named.1
  | _ => exact Nat.succ_pos _

private theorem Spells.length_le (spells : Spells cs tokens) : tokens.length ≤ cs.length := by
  induction spells with
  | nil => exact Nat.le_refl _
  | separator _ _ ih => exact Nat.le_succ_of_le ih
  | unclosed _ => exact Nat.succ_le_succ (Nat.zero_le _)
  | lexeme first _ _ ih =>
      have nonempty := first.length_pos
      rw [List.length_cons, List.length_append]
      omega

end Token

/-- A text has at most as many tokens as characters. -/
theorem length_tokenize_le (query : String) : (tokenize query).length ≤ query.length := by
  rw [← String.length_toList]
  exact (Token.spells_lex query.toList).length_le

end ColumnSearch
