import ColumnSearch.Json.Record
import ColumnSearch.Proofs.Yaml.Scalar

/-!
# Counts as scalars

A count is a whole number of 64 bits. In JSON it is a number that is read back as the count, and in
YAML its decimal digits are.
-/

namespace ColumnSearch

/-- The number that holds a count. -/
def Number.ofCount (value : UInt64) : Number :=
  if value.toNat < 0x8000000000000000 then .signed (Int64.ofInt value.toNat) else .unsigned value

private theorem Number.ofInt?_count (value : UInt64) :
    ofInt? value.toNat = some (ofCount value) := by
  rw [ofCount]
  split
  · rw [ofInt?, if_pos (by omega)]
  · exact Number.ofInt?_toNat (by omega)

private theorem Number.toInt_ofInt_of_lt {n : Nat} (small : n < 0x8000000000000000) :
    (Int64.ofInt n).toInt = n :=
  Int64.toInt_ofInt_of_le (by omega) (by omega)

/-- A count is written as a canonical number. -/
theorem Number.canonical_ofCount (value : UInt64) : (ofCount value).Canonical := by
  rw [ofCount]
  split
  · trivial
  · next large => exact Nat.le_of_not_lt large

/-- The number that holds a count is a word. -/
theorem Number.ofCount_ne_real (value : UInt64) (x : Binary64) : ofCount value ≠ .real x := by
  rw [ofCount]
  split
  · exact fun same => by cases same
  · exact fun same => by cases same

/-- The scalar that holds a count. -/
def Json.Scalar.count (value : UInt64) : Json.Scalar :=
  .number (.ofCount value) (Number.canonical_ofCount value)

/-- A count is read back from the number that holds it. -/
theorem Json.word?_ofCount (value : UInt64) : word? (.number (.ofCount value)) = some value := by
  rw [Number.ofCount]
  split
  · next small =>
    have word : (Int64.ofInt value.toNat).toUInt64 = value := by
      apply UInt64.toBitVec_inj.mp
      show BitVec.ofInt 64 value.toNat = value.toBitVec
      rw [BitVec.ofInt_natCast]
      exact BitVec.ofNat_uInt64ToNat value
    have positive : 0 ≤ Int64.ofInt value.toNat := by
      rw [Int64.le_iff_toInt_le, Number.toInt_ofInt_of_lt small]
      exact Int.natCast_nonneg _
    rw [word?, if_pos positive, word]
  · rfl

/-- The numeral of a count is that of its value. -/
theorem Number.numeral_ofCount (layout : Binary64.Layout) (value : UInt64) :
    (ofCount value).numeral layout = .ofInt value.toNat := by
  rw [ofCount]
  split
  · next small => rw [numeral, toInt_ofInt_of_lt small]
  · rfl

/-- A count in JSON is the number that holds it. -/
theorem Json.count_toNat (value : UInt64) : count value.toNat = .number (.ofCount value) := by
  rw [count, Number.ofInt?_count, Option.getD_some]

/-- A count is written with its decimal digits. -/
theorem Json.numberChars_ofCount (layout : Binary64.Layout) (value : UInt64) :
    numberChars layout (.ofCount value) = Nat.toDigits 10 value.toNat := by
  rw [numberChars, Number.numeral_ofCount]
  simp [Numeral.chars, Numeral.ofInt, Numeral.fractionChars, Numeral.exponentChars]

namespace Yaml

private theorem digit?_of_isDigit {c : Char} (digit : c.isDigit = true) :
    digit? 10 c = some (c.toNat - '0'.toNat) := by
  have range : 48 ≤ c.toNat ∧ c.toNat ≤ 57 := Char.isDigit_iff_toNat.mp digit
  have zero : '0'.toNat = 48 := rfl
  rw [digit?, if_pos digit]
  exact if_pos (by omega)

private theorem natural?_of_areDigits {cs : List Char} (digits : Numeral.AreDigits cs) :
    natural? 10 cs = some (Decimal.digitsValue 0 cs) := by
  have fold (value : Nat) : cs.foldlM (fun value c => (digit? 10 c).map (10 * value + ·)) value =
      some (Decimal.digitsValue value cs) := by
    have each := digits.2
    clear digits
    induction cs generalizing value with
    | nil => rfl
    | cons c cs ih =>
        obtain ⟨first, others⟩ := List.forall_mem_cons.mp each
        rw [List.foldlM_cons, digit?_of_isDigit first]
        exact ih _ others
  cases cs with
  | nil => exact absurd rfl digits.1
  | cons c cs => exact fold 0

/-- Digits without a needless zero are neither signed nor in another base. -/
theorem unsigned?_of_areDigits {cs : List Char} (digits : Numeral.AreDigits cs)
    (leading : cs.head? ≠ some '0' ∨ cs.length = 1) : unsigned? cs = natural? 10 cs := by
  cases cs with
  | nil => exact absurd rfl digits.1
  | cons c rest =>
      have digit := digits.2 c List.mem_cons_self
      have plus : c ≠ '+' := ne_of_isDigit digit rfl
      have minus : c ≠ '-' := ne_of_isDigit digit rfl
      by_cases zero : c = '0'
      · subst zero
        obtain rfl : rest = [] := by
          simpa using leading
        rfl
      · simp [unsigned?, magnitude?, hasLeadingZero, Number.splitSign, plus, minus, zero]

/-- The decimal digits of a count are read back as the count. -/
theorem count?_toDigits (value : UInt64) :
    count? (String.ofList (Nat.toDigits 10 value.toNat)) = some value := by
  have digits := Numeral.areDigits_toDigits value.toNat
  have natural := natural?_of_areDigits digits
  rw [Decimal.digitsValue_toDigits] at natural
  have leading := Numeral.toDigits_leading value.toNat
  rw [count?, String.toList_ofList, unsigned?_of_areDigits digits leading, natural]
  simp [value.toNat_lt]

end Yaml

end ColumnSearch
