import ColumnSearch.Json.Printer
import ColumnSearch.Proofs.Numeral

/-!
# The characters of numbers

In every layout, the text of a number is made of digits and a few marks, and starts with a digit
after an optional minus.
-/

namespace ColumnSearch

namespace Number

/-- What texts of numbers hold besides digits. -/
def textMarks : List Char :=
  ['-', '+', '.', 'e']

/-- A digit or one of the marks. -/
def IsTextChar (c : Char) : Prop :=
  c.isDigit = true ∨ c ∈ textMarks

/-- The text starts with a digit and goes on with digits and marks. -/
def StartsWithDigit (cs : List Char) : Prop :=
  ∃ digit rest, cs = digit :: rest ∧ digit.isDigit = true ∧ ∀ c ∈ rest, IsTextChar c

private theorem isTextChar_of_areDigits {cs : List Char} (digits : Numeral.AreDigits cs) :
    ∀ c ∈ cs, IsTextChar c :=
  fun c member => .inl (digits.2 c member)

private theorem startsWithDigit_append {cs rest : List Char} (digits : Numeral.AreDigits cs)
    (more : ∀ c ∈ rest, IsTextChar c) : StartsWithDigit (cs ++ rest) := by
  cases cs with
  | nil => exact absurd rfl digits.1
  | cons digit others =>
      obtain ⟨first, others⟩ := List.forall_mem_cons.mp digits.2
      refine ⟨digit, _, rfl, first, List.forall_mem_append.mpr ⟨fun c member => ?_, more⟩⟩
      exact .inl (others c member)

private theorem isTextChar_fractionChars {fraction : Option (List Char)}
    (digits : ∀ digits, fraction = some digits → Numeral.AreDigits digits) :
    ∀ c ∈ Numeral.fractionChars fraction, IsTextChar c := by
  cases fraction with
  | none => exact List.forall_mem_nil _
  | some places =>
      exact List.forall_mem_cons.mpr
        ⟨.inr (by decide), isTextChar_of_areDigits (digits places rfl)⟩

private theorem isTextChar_exponentChars {plus : List Char}
    (signs : ∀ c ∈ plus, IsTextChar c) (exponent : Option Int) :
    ∀ c ∈ Numeral.exponentChars plus exponent, IsTextChar c := by
  have mark : IsTextChar 'e' := .inr (by decide)
  have power (n : Nat) : ∀ c ∈ Nat.toDigits 10 n, IsTextChar c :=
    isTextChar_of_areDigits (Numeral.areDigits_toDigits n)
  rcases exponent with _ | n | n
  · exact List.forall_mem_nil _
  · exact List.forall_mem_cons.mpr ⟨mark, List.forall_mem_append.mpr ⟨signs, power n⟩⟩
  · exact List.forall_mem_cons.mpr
      ⟨mark, List.forall_mem_cons.mpr ⟨.inr (by decide), power (n + 1)⟩⟩

end Number

namespace Json

open Number

/-- The text of a number starts with a digit, after a minus if it is negative. -/
theorem exists_sign_numberChars {layout : Binary64.Layout}
    (signs : ∀ c ∈ layout.positiveExponent, IsTextChar c) (number : Number) :
    ∃ sign body, numberChars layout number = sign ++ body ∧ (sign = [] ∨ sign = ['-']) ∧
      StartsWithDigit body := by
  have wellFormed := number.wellFormed_numeral layout
  refine ⟨_, _, rfl, ?_, startsWithDigit_append wellFormed.whole (List.forall_mem_append.mpr
    ⟨isTextChar_fractionChars wellFormed.fraction, isTextChar_exponentChars signs _⟩)⟩
  split
  · exact .inr rfl
  · exact .inl rfl

/-- The text of a number is made of digits and marks. -/
theorem isTextChar_of_mem_numberChars {layout : Binary64.Layout}
    (signs : ∀ c ∈ layout.positiveExponent, IsTextChar c) (number : Number) :
    ∀ c ∈ numberChars layout number, IsTextChar c := by
  obtain ⟨sign, _, text, minus, digit, rest, rfl, first, more⟩ :=
    exists_sign_numberChars signs number
  rw [text]
  refine List.forall_mem_append.mpr ⟨?_, List.forall_mem_cons.mpr ⟨.inl first, more⟩⟩
  rcases minus with rfl | rfl
  · exact List.forall_mem_nil _
  · exact List.forall_mem_singleton.mpr (.inr (by decide))

end Json

end ColumnSearch
