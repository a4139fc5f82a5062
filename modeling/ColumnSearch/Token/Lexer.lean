import ColumnSearch.Text.Alphanumeric
import ColumnSearch.Token

/-!
# Reading tokens out of search text

A double quote opens a phrase that runs to the next double quote; without one, the rest of the
text is a single word. Parentheses stand for themselves. A sign joins the identifier that follows
it directly, and stands alone otherwise. An identifier that spells a keyword, in any ASCII case,
is an operator. All other characters only separate tokens.
-/

namespace ColumnSearch

namespace Token

open Text

/-- The keywords of a search, in the spelling their operators carry. -/
def keywords : List String :=
  ["AND", "OR", "NOT"]

/-- The token an unsigned identifier spells. -/
def ofIdentifier (identifier : List Char) : Token :=
  let upper := String.ofList (identifier.map Char.toUpper)
  if upper ∈ keywords then ⟨.operator, upper⟩ else ⟨.word, String.ofList identifier⟩

private theorem length_dropWhile_le (p : Char → Bool) (cs : List Char) :
    (cs.dropWhile p).length ≤ cs.length :=
  (List.dropWhile_sublist p).length_le

/-- The tokens that a list of characters spells. -/
def lex (input : List Char) : List Token :=
  match input with
  | [] => []
  | c :: cs =>
    if c = '"' then
      match _rest : cs.dropWhile (· ≠ '"') with
      | [] => [⟨.word, String.ofList cs⟩]
      | _ :: after => ⟨.quoted, String.ofList (cs.takeWhile (· ≠ '"'))⟩ :: lex after
    else if c = '(' ∨ c = ')' then
      ⟨.paren, c.toString⟩ :: lex cs
    else if c = '+' ∨ c = '-' then
      match cs.takeWhile isIdentifier with
      | [] => ⟨.modifier, c.toString⟩ :: lex cs
      | identifier => ⟨.word, String.ofList (c :: identifier)⟩ :: lex (cs.dropWhile isIdentifier)
    else if isIdentifier c then
      ofIdentifier (c :: cs.takeWhile isIdentifier) :: lex (cs.dropWhile isIdentifier)
    else
      lex cs
termination_by input.length
decreasing_by
  · have shorter := length_dropWhile_le (· ≠ '"') cs
    rw [_rest] at shorter
    simp only [List.length_cons] at shorter ⊢
    omega
  · simp
  · simp
  · exact Nat.lt_succ_of_le (length_dropWhile_le isIdentifier cs)
  · exact Nat.lt_succ_of_le (length_dropWhile_le isIdentifier cs)
  · simp

end Token

/-- The tokens of a search text. -/
def tokenize (query : String) : List Token :=
  Token.lex query.toList

end ColumnSearch
