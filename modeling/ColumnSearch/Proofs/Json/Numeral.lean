import ColumnSearch.Json.Printer
import ColumnSearch.Json.Reader
import ColumnSearch.Proofs.Numeral

/-!
# Numerals in JSON text

A well-formed numeral is read to its end before anything that closes a value.
-/

namespace ColumnSearch.JsonDocument

open Numeral

/-- A text starts, if at all, with a mark that closes a value. -/
def Closes (rest : List Char) : Prop :=
  ∀ c, rest.head? = some c → c = ',' ∨ c = ']' ∨ c = '}'

private theorem Closes.ne_of_head? {rest : List Char} (closes : Closes rest) {c : Char}
    (first : rest.head? = some c) : c.isDigit = false ∧ c ≠ '.' ∧ c ≠ 'e' ∧ c ≠ 'E' := by
  rcases closes c first with rfl | rfl | rfl <;> decide

private theorem digits?_append {digits rest : List Char} (are : AreDigits digits)
    (stops : ∀ c, rest.head? = some c → c.isDigit = false) :
    digits? (digits ++ rest) = some (digits, rest) := by
  have stop : rest.takeWhile Char.isDigit = [] ∧ rest.dropWhile Char.isDigit = rest := by
    cases rest with
    | nil => exact ⟨rfl, rfl⟩
    | cons c rest =>
        have other := stops c rfl
        simp [other]
  rw [digits?, List.takeWhile_append_of_pos are.2, List.dropWhile_append_of_pos are.2, stop.1,
    stop.2, List.append_nil]
  cases digits with
  | nil => exact absurd rfl are.1
  | cons digit digits => rfl

private theorem fraction?_append {fraction : Option (List Char)} {rest : List Char}
    (digits : ∀ digits, fraction = some digits → AreDigits digits)
    (stops : ∀ c, rest.head? = some c → c.isDigit = false ∧ c ≠ '.') :
    fraction? (fractionChars fraction ++ rest) = some (fraction, rest) := by
  cases fraction with
  | none =>
      rw [fractionChars, List.nil_append]
      unfold fraction?
      split
      · exact absurd rfl (stops _ rfl).2
      · rfl
  | some places =>
      have read := digits?_append (digits places rfl) (fun c first => (stops c first).1)
      rw [fractionChars, List.cons_append, fraction?, read]
      rfl

private theorem exponent?_append (exponent : Option Int) {rest : List Char}
    (closes : Closes rest) :
    exponent? (exponentChars ['+'] exponent ++ rest) = some (exponent, rest) := by
  have read (n : Nat) : digits? (Nat.toDigits 10 n ++ rest) = some (Nat.toDigits 10 n, rest) :=
    digits?_append (areDigits_toDigits n) (fun _ first => (closes.ne_of_head? first).1)
  rcases exponent with _ | power | power
  · rw [exponentChars, List.nil_append]
    cases rest with
    | nil => rfl
    | cons c rest =>
        obtain ⟨_, _, lower, upper⟩ := closes.ne_of_head? (c := c) rfl
        rw [exponent?, if_neg (by simp [lower, upper])]
  · simp [exponentChars, exponent?, Number.splitSign, read]
  · simp [exponentChars, exponent?, Number.splitSign, read, Int.negSucc_eq]

private theorem head?_exponentChars (exponent : Option Int) {rest : List Char}
    (closes : Closes rest) {c : Char}
    (first : (exponentChars ['+'] exponent ++ rest).head? = some c) :
    c.isDigit = false ∧ c ≠ '.' := by
  rcases exponent with _ | power | power
  · obtain ⟨digit, point, _⟩ := closes.ne_of_head? first
    exact ⟨digit, point⟩
  · cases first
    decide
  · cases first
    decide

private theorem head?_fractionChars (fraction : Option (List Char)) (exponent : Option Int)
    {rest : List Char} (closes : Closes rest) {c : Char}
    (first : (fractionChars fraction ++ (exponentChars ['+'] exponent ++ rest)).head? = some c) :
    c.isDigit = false := by
  cases fraction with
  | none => exact (head?_exponentChars exponent closes first).1
  | some digits =>
      cases first
      decide

private theorem number?_append {numeral : Numeral} (wellFormed : numeral.WellFormed)
    {rest : List Char} (closes : Closes rest) :
    number? (numeral.chars ['+'] ++ rest) = some (.number numeral, rest) := by
  obtain ⟨negative, whole, fraction, exponent⟩ := numeral
  obtain ⟨digits, leading, places⟩ := wellFormed
  dsimp only at digits leading places
  have readWhole := digits?_append digits
    (fun _ first => head?_fractionChars fraction exponent closes first)
  have readFraction := fraction?_append places
    (fun _ first => head?_exponentChars exponent closes first)
  have readExponent := exponent?_append exponent closes
  have checked : guard (whole.head? ≠ some '0' ∨ whole.length = 1) = some () := by
    rw [guard, if_pos leading]
    rfl
  cases negative with
  | true =>
      unfold number?
      simp only [chars, if_true, List.cons_append, List.nil_append, List.append_assoc, readWhole,
        checked, readFraction, readExponent, Option.bind_eq_bind, Option.bind_some]
      rfl
  | false =>
      obtain ⟨first, more, starts⟩ := List.exists_cons_of_ne_nil digits.1
      have unsigned : first ≠ '-' := by
        rintro rfl
        exact absurd (digits.2 '-' (starts ▸ List.mem_cons_self)) (by decide)
      unfold number?
      simp only [chars, Bool.false_eq_true, if_false, List.nil_append, List.append_assoc]
      split
      · rename_i minus
        rw [starts] at minus
        cases minus
        exact absurd rfl unsigned
      · simp only [readWhole, checked, readFraction, readExponent, Option.bind_eq_bind,
          Option.bind_some]
        rfl

/-- A numeral starts with a minus or a digit. -/
theorem exists_head_numeral {numeral : Numeral} (wellFormed : numeral.WellFormed)
    (plus : List Char) :
    ∃ c rest, numeral.chars plus = c :: rest ∧ (c = '-' ∨ c.isDigit = true) := by
  obtain ⟨negative, whole, fraction, exponent⟩ := numeral
  obtain ⟨digits, _, _⟩ := wellFormed
  obtain ⟨digit, more, rfl⟩ := List.exists_cons_of_ne_nil digits.1
  cases negative with
  | true => exact ⟨'-', _, rfl, .inl rfl⟩
  | false => exact ⟨digit, _, rfl, .inr (digits.2 digit List.mem_cons_self)⟩

private theorem lexeme?_eq_number? {c : Char} (starts : c = '-' ∨ c.isDigit = true)
    (rest : List Char) : lexeme? (c :: rest) = number? (c :: rest) := by
  rw [lexeme?]
  -- No other lexeme starts with a minus or a digit.
  all_goals
    intro _ same
    cases same
    exact absurd starts (by decide)

/-- A well-formed numeral is the first lexeme of a text that it starts. -/
theorem lexeme?_numeral {numeral : Numeral} (wellFormed : numeral.WellFormed) {rest : List Char}
    (closes : Closes rest) :
    lexeme? (numeral.chars ['+'] ++ rest) = some (.number numeral, rest) := by
  have read := number?_append wellFormed closes
  obtain ⟨c, more, chars, starts⟩ := exists_head_numeral wellFormed ['+']
  rw [chars, List.cons_append] at read ⊢
  rw [lexeme?_eq_number? starts, read]

end ColumnSearch.JsonDocument
