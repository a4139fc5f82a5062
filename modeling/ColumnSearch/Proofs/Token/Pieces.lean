import ColumnSearch.Proofs.Token.Spelling
import Mathlib.Algebra.Group.Nat.Even

/-!
# Pieces of a text

A separator outside double quotes divides a text: the tokens on its two sides have nothing to do
with each other. It stands outside exactly if an even number of double quotes comes before it. So
the tokens of a text are those of the pieces between its separators, and neither the number of
separators between two pieces nor their choice matters.
-/

namespace ColumnSearch

namespace Token

open Text

instance : DecidablePred IsSeparator :=
  fun c => inferInstanceAs (Decidable (c ∉ marks ∧ isIdentifier c = false))

/-- The pieces between the separators outside double quotes, the first of which goes on from the
characters given. A piece is empty where two separators meet. -/
def pieces (piece : List Char) : List Char → List (List Char)
  | [] => [piece]
  | c :: cs =>
    if Even (piece.count '"') ∧ IsSeparator c then piece :: pieces [] cs
    else pieces (piece ++ [c]) cs

/-- The pieces of a text that are not empty. They do not tell which separators stand between them,
nor how many. -/
def filledPieces (query : String) : List (List Char) :=
  (pieces [] query.toList).filter (· ≠ [])

variable {c : Char} {cs gap identifier rest : List Char} {token : Token}

private theorem toList_append_singleton_append (first : String) (c : Char) (second : String) :
    (first ++ String.singleton c ++ second).toList = first.toList ++ c :: second.toList := by
  simp

private theorem apart_append (apart : Apart cs) (separates : IsSeparator c) (rest : List Char) :
    Apart (cs ++ c :: rest) := by
  cases cs with
  | nil => exact apart_cons.mpr separates.2
  | cons first others => exact apart_cons.mpr (apart_cons.mp apart)

private theorem count_quote_identifier (letters : ∀ c ∈ identifier, isIdentifier c = true) :
    identifier.count '"' = 0 := by
  refine List.count_eq_zero.mpr fun member => ?_
  exact not_mem_marks (letters '"' member) (by decide)

/-- The double quotes of a lexeme are those around its phrase. -/
theorem Lexeme.even_count_quote (lexeme : Lexeme cs token) : Even (cs.count '"') := by
  cases lexeme with
  | paren parenthesis => rcases parenthesis with rfl | rfl <;> decide
  | phrase closed =>
      rw [List.count_cons_self, List.count_append, List.count_eq_zero.mpr closed]
      decide
  | modifier sign => rcases sign with rfl | rfl <;> decide
  | signed sign named =>
      rw [List.count_cons_of_ne (ne_of_sign sign).1, count_quote_identifier named.2]
      exact Even.zero
  | unsigned named =>
      rw [count_quote_identifier named.2]
      exact Even.zero

/-- A separator behind an even number of double quotes divides the tokens. -/
theorem lex_append_separator (outside : Even (cs.count '"')) (separates : IsSeparator c)
    (rest : List Char) : lex (cs ++ c :: rest) = lex cs ++ lex rest := by
  have spells := spells_lex cs
  generalize lex cs = tokens at spells ⊢
  induction spells with
  | nil => rw [List.nil_append, List.nil_append, lex_separator separates]
  | @separator first others tokens divides _ ih =>
      have quote : first ≠ '"' := (not_mem_marks_iff.mp divides.1).1
      rw [List.count_cons_of_ne quote] at outside
      rw [List.cons_append, lex_separator divides, ih outside]
  | unclosed lone =>
      -- the one double quote is not an even number of them
      rw [List.count_cons_self, List.count_eq_zero.mpr lone] at outside
      exact absurd outside (by decide)
  | lexeme first maximal _ ih =>
      rw [List.count_append, Nat.even_add] at outside
      have still := maximal.imp_right (·.imp_right (apart_append · separates rest))
      rw [List.append_assoc, first.lex_append still, ih (outside.mp first.even_count_quote),
        List.cons_append]

/-- Separators in front of a text are skipped. -/
theorem lex_separators_append (separate : ∀ c ∈ gap, IsSeparator c) (rest : List Char) :
    lex (gap ++ rest) = lex rest := by
  induction gap with
  | nil => rfl
  | cons c gap ih =>
      obtain ⟨first, others⟩ := List.forall_mem_cons.mp separate
      rw [List.cons_append, lex_separator first, ih others]

/-- Separators alone hold no token. -/
theorem lex_of_separators (separate : ∀ c ∈ gap, IsSeparator c) : lex gap = [] := by
  rw [← List.append_nil gap, lex_separators_append separate, lex]

/-- Separators after a text outside of quotes are skipped. -/
theorem lex_append_separators (outside : Even (cs.count '"'))
    (separate : ∀ c ∈ gap, IsSeparator c) : lex (cs ++ gap) = lex cs := by
  cases gap with
  | nil => rw [List.append_nil]
  | cons c gap =>
      obtain ⟨first, others⟩ := List.forall_mem_cons.mp separate
      rw [lex_append_separator outside first, lex_of_separators others, List.append_nil]

private theorem pieces_append_separator (piece : List Char)
    (outside : Even ((piece ++ cs).count '"')) (separates : IsSeparator c) (rest : List Char) :
    pieces piece (cs ++ c :: rest) = pieces piece cs ++ pieces [] rest := by
  induction cs generalizing piece with
  | nil =>
      rw [List.append_nil] at outside
      simp [pieces, outside, separates]
  | cons first cs ih =>
      rw [List.cons_append, pieces, pieces]
      by_cases divides : Even (piece.count '"') ∧ IsSeparator first
      · have quote : first ≠ '"' := (not_mem_marks_iff.mp divides.2.1).1
        rw [List.count_append, List.count_cons_of_ne quote, Nat.even_add] at outside
        rw [if_pos divides, if_pos divides, ih [] (outside.mp divides.1), List.cons_append]
      · rw [List.append_cons] at outside
        rw [if_neg divides, if_neg divides, ih _ outside]

/-- A separator outside of quotes splits the pieces of a text into those before and those after it.
-/
theorem filledPieces_append_separator {first : String} (outside : Even (first.toList.count '"'))
    (separates : IsSeparator c) (second : String) :
    filledPieces (first ++ String.singleton c ++ second) =
      filledPieces first ++ filledPieces second := by
  have outside : Even (([] ++ first.toList).count '"') := outside
  rw [filledPieces, toList_append_singleton_append, pieces_append_separator [] outside separates,
    List.filter_append, filledPieces, filledPieces]

private theorem lex_append_eq_flatMap_pieces (piece cs : List Char) :
    lex (piece ++ cs) = (pieces piece cs).flatMap lex := by
  induction cs generalizing piece with
  | nil => rw [pieces, List.append_nil, List.flatMap_singleton]
  | cons c cs ih =>
      by_cases divides : Even (piece.count '"') ∧ IsSeparator c
      · rw [pieces, if_pos divides, lex_append_separator divides.1 divides.2, List.flatMap_cons,
          ← ih, List.nil_append]
      · rw [pieces, if_neg divides, ← ih, List.append_assoc, List.singleton_append]

private theorem flatMap_lex_filter (texts : List (List Char)) :
    (texts.filter (· ≠ [])).flatMap lex = texts.flatMap lex := by
  induction texts with
  | nil => rfl
  | cons text texts ih =>
      cases text with
      | nil => rw [List.filter_cons_of_neg (by simp), List.flatMap_cons, lex, List.nil_append, ih]
      | cons c cs =>
          rw [List.filter_cons_of_pos (by simp), List.flatMap_cons, ih, List.flatMap_cons]

end Token

/-- A separator outside of quotes splits the tokens of a text into those before and those after it.
-/
theorem tokenize_append_separator {c : Char} {first : String}
    (outside : Even (first.toList.count '"')) (separates : Token.IsSeparator c) (second : String) :
    tokenize (first ++ String.singleton c ++ second) = tokenize first ++ tokenize second := by
  rw [tokenize, Token.toList_append_singleton_append, Token.lex_append_separator outside separates,
    tokenize, tokenize]

/-- The tokens of a text are those of its pieces. -/
theorem tokenize_eq_flatMap_filledPieces (query : String) :
    tokenize query = (Token.filledPieces query).flatMap Token.lex := by
  rw [tokenize, Token.filledPieces, Token.flatMap_lex_filter, ← Token.lex_append_eq_flatMap_pieces,
    List.nil_append]

end ColumnSearch
