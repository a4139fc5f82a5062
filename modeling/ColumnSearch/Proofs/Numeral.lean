import ColumnSearch.Number.Numeral
import ColumnSearch.Proofs.Binary64.Shortest

/-!
# Numerals of numbers

The numeral of a number is well formed whatever the layout, and the number is what it spells:
`Numeral.nearest?` reads it with the double nearest to its decimal, so different numbers have
different numerals.
-/

namespace ColumnSearch

/-- The number is the one that its own numeral spells: an unsigned word holds what no signed word
does. -/
def Number.Canonical : Number → Prop
  | .unsigned value => 0x8000000000000000 ≤ value.toNat
  | .signed _ => True
  | .real _ => True

namespace Decimal

/-- Digits are read as the standard library reads them. -/
theorem digitsValue_eq (leading : Nat) (cs : List Char) :
    digitsValue leading cs = Nat.ofDigitChars 10 cs leading := by
  rw [Nat.ofDigitChars_eq_foldl, digitsValue]

/-- Digits that follow others are read after them. -/
theorem digitsValue_append (leading : Nat) (first second : List Char) :
    digitsValue leading (first ++ second) = digitsValue (digitsValue leading first) second :=
  List.foldl_append

/-- The digits of a number spell it. -/
@[simp]
theorem digitsValue_toDigits (n : Nat) : digitsValue 0 (Nat.toDigits 10 n) = n := by
  rw [digitsValue_eq, Nat.ofDigitChars_ten_toDigits]

private theorem digitsValue_zeros (leading count : Nat) :
    digitsValue leading (List.replicate count '0') = leading * 10 ^ count := by
  rw [digitsValue_eq, Nat.ofDigitChars_replicate_zero, Nat.mul_comm]

end Decimal

namespace Number

/-- A signed word is the one that holds its value. -/
theorem ofInt?_toInt (value : Int64) : ofInt? value.toInt = some (.signed value) := by
  have least := value.le_toInt
  have greatest := value.toInt_lt
  rw [ofInt?, if_pos (by omega), Int64.ofInt_toInt]

/-- An unsigned word is the one that holds its value, unless a signed word does. -/
theorem ofInt?_toNat {value : UInt64} (large : 0x8000000000000000 ≤ value.toNat) :
    ofInt? value.toNat = some (.unsigned value) := by
  have greatest := value.toNat_lt
  rw [ofInt?, if_neg (by omega), if_pos (by omega), Int.toNat_natCast, UInt64.ofNat_toNat]

end Number

namespace Numeral

/-- Some digits, at least one. -/
def AreDigits (cs : List Char) : Prop :=
  cs ≠ [] ∧ ∀ c ∈ cs, c.isDigit = true

/-- The decimal form of a number is made of digits. -/
theorem areDigits_toDigits (n : Nat) : AreDigits (Nat.toDigits 10 n) :=
  ⟨Nat.toDigits_ne_nil, fun _ member => Nat.isDigit_of_mem_toDigits (by decide) (by decide) member⟩

private theorem AreDigits.append {first second : List Char} (digits : AreDigits first)
    (more : ∀ c ∈ second, c.isDigit = true) : AreDigits (first ++ second) := by
  refine ⟨List.append_ne_nil_of_left_ne_nil digits.1 _, ?_⟩
  intro c member
  exact (List.mem_append.mp member).elim (digits.2 c) (more c)

private theorem isDigit_of_mem_zeros {count : Nat} {c : Char}
    (member : c ∈ List.replicate count '0') : c.isDigit = true := by
  rw [List.eq_of_mem_replicate member]
  rfl

private theorem head?_toDigits_ne_zero {n : Nat} (nonzero : n ≠ 0) :
    (Nat.toDigits 10 n).head? ≠ some '0' := by
  induction n using Nat.strongRecOn with
  | ind n ih =>
      rw [Nat.toDigits_eq_if (by decide)]
      split
      · rename_i small
        have digit : ∀ n < 10, n ≠ 0 → n.digitChar ≠ '0' := by decide
        rw [List.head?_singleton, ne_eq, Option.some.injEq]
        exact digit n small nonzero
      · rename_i large
        rw [List.head?_append_of_ne_nil _ Nat.toDigits_ne_nil]
        exact ih (n / 10) (by omega) (by omega)

/-- The decimal form of a number has no needless leading zero. -/
theorem toDigits_leading (n : Nat) :
    (Nat.toDigits 10 n).head? ≠ some '0' ∨ (Nat.toDigits 10 n).length = 1 := by
  by_cases zero : n = 0
  · subst zero
    exact .inr rfl
  · exact .inl (head?_toDigits_ne_zero zero)

/-- The parts of the numeral are digits, and the whole part has no needless leading zero. -/
structure WellFormed (numeral : Numeral) : Prop where
  whole : AreDigits numeral.whole
  leading : numeral.whole.head? ≠ some '0' ∨ numeral.whole.length = 1
  fraction : ∀ digits, numeral.fraction = some digits → AreDigits digits

/-- The number of a numeral, with the double nearest to its decimal. -/
def nearest? (numeral : Numeral) : Option Number :=
  numeral.numberOr (Binary64.ofDecimal? numeral.decimal)

private theorem wellFormed_ofInt (n : Int) : (ofInt n).WellFormed where
  whole := areDigits_toDigits _
  leading := toDigits_leading _
  fraction _ present := by cases present

/-- The numeral of a whole number that a word holds spells that word. -/
theorem numberOr_ofInt {n : Int} {number : Number} (held : Number.ofInt? n = some number)
    (real : Option Binary64) : (ofInt n).numberOr real = some number := by
  have whole : (ofInt n).isWhole = true := rfl
  rw [numberOr, if_pos whole]
  simp only [ofInt, Decimal.digitsValue_toDigits, decide_eq_true_eq]
  by_cases negative : n < 0
  · have magnitude : -(n.natAbs : Int) = n := by omega
    rw [if_pos negative, if_neg (by omega), magnitude, held]
    rfl
  · have magnitude : (n.natAbs : Int) = n := by omega
    rw [if_neg negative, magnitude, held]
    rfl

private theorem le_digitsValue (leading : Nat) (cs : List Char) :
    leading ≤ Decimal.digitsValue leading cs := by
  induction cs generalizing leading with
  | nil => exact Nat.le_refl leading
  | cons c cs ih =>
      have next : leading ≤ 10 * leading + (c.toNat - '0'.toNat) := by omega
      exact Nat.le_trans next (ih _)

private theorem takeWord_eq_of_lt {leading : Nat} {cs : List Char}
    (fits : Decimal.digitsValue leading cs < UInt64.size) :
    takeWord leading cs = (Decimal.digitsValue leading cs, []) := by
  induction cs generalizing leading with
  | nil => rfl
  | cons c cs ih =>
      have held := Nat.lt_of_le_of_lt (le_digitsValue (Decimal.digitsValue leading [c]) cs) fits
      rw [takeWord]
      exact (if_pos held).trans (ih fits)

/-- Nothing is left out of a numeral whose digits a word holds. -/
theorem truncated_eq_decimal {numeral : Numeral}
    (fits : numeral.decimal.digits < UInt64.size) : numeral.truncated = numeral.decimal := by
  have whole := takeWord_eq_of_lt (Nat.lt_of_le_of_lt (le_digitsValue _ _) fits)
  rw [truncated, whole]
  dsimp only
  rw [takeWord_eq_of_lt fits]
  simp only [decimal, Decimal.ofParts, Decimal.scale, List.length_nil, Nat.sub_zero]
  congr 1
  omega

private theorem magnitude_decimal (numeral : Numeral) :
    numeral.decimal.magnitude =
      Decimal.digitsValue 0 (numeral.whole ++ numeral.fraction.getD []) *
        10 ^ (numeral.exponent.getD 0 - (numeral.fraction.getD []).length) := by
  rw [Decimal.digitsValue_append, sub_eq_neg_add]
  rfl

/-- The numeral is that of a double of the given sign and magnitude. -/
structure SpellsReal (numeral : Numeral) (negative : Bool) (magnitude : ℚ) : Prop where
  wellFormed : numeral.WellFormed
  notWhole : numeral.isWhole = false
  sign : numeral.negative = negative
  magnitude : numeral.decimal.magnitude = magnitude

variable {n : Nat} (negative : Bool)

/-- Zeros may have to fill up the whole part. -/
private theorem spellsReal_filled (zeros : Nat) (leading : n = 0 → zeros = 0) :
    SpellsReal ⟨negative, Nat.toDigits 10 n ++ List.replicate zeros '0', some ['0'], none⟩ negative
      (n * 10 ^ (zeros : Int)) where
  wellFormed := {
    whole := (areDigits_toDigits n).append fun _ => isDigit_of_mem_zeros
    leading := by
      by_cases zero : n = 0
      · subst zero
        rw [leading rfl]
        exact .inr rfl
      · rw [List.head?_append_of_ne_nil _ Nat.toDigits_ne_nil]
        exact .inl (head?_toDigits_ne_zero zero)
    fraction := by
      rintro _ ⟨⟩
      exact areDigits_toDigits 0 }
  notWhole := rfl
  sign := rfl
  magnitude := by
    have ten : (10 : ℚ) ≠ 0 := by norm_num
    have value : Decimal.digitsValue 0 (Nat.toDigits 10 n ++ List.replicate zeros '0' ++ ['0']) =
        n * 10 ^ zeros * 10 ^ 1 := by
      rw [Decimal.digitsValue_append, Decimal.digitsValue_append, Decimal.digitsValue_toDigits,
        Decimal.digitsValue_zeros]
      exact Decimal.digitsValue_zeros _ 1
    rw [magnitude_decimal]
    dsimp only [Option.getD_some, Option.getD_none, List.length_singleton]
    rw [value, zpow_natCast, Nat.cast_mul, Nat.cast_mul, Nat.cast_pow, Nat.cast_pow, Nat.cast_ofNat,
      mul_assoc, ← zpow_natCast (10 : ℚ) 1, ← zpow_add₀ ten]
    norm_num

/-- A point may stand between two digits. -/
private theorem spellsReal_divided {place : Nat} (positive : 0 < place)
    (within : place < (Nat.toDigits 10 n).length) :
    SpellsReal ⟨negative, (Nat.toDigits 10 n).take place, some ((Nat.toDigits 10 n).drop place),
      none⟩ negative (n * 10 ^ ((place : Int) - (Nat.toDigits 10 n).length)) where
  wellFormed := {
    whole := by
      refine ⟨?_, fun c member => (areDigits_toDigits n).2 c (List.mem_of_mem_take member)⟩
      rw [ne_eq, List.take_eq_nil_iff]
      exact not_or.mpr ⟨positive.ne', (areDigits_toDigits n).1⟩
    leading := by
      have nonzero : n ≠ 0 := by
        rintro rfl
        rw [Nat.toDigits_zero, List.length_singleton] at within
        omega
      rw [List.head?_take, if_neg positive.ne']
      exact .inl (head?_toDigits_ne_zero nonzero)
    fraction := by
      rintro _ ⟨⟩
      refine ⟨?_, fun c member => (areDigits_toDigits n).2 c (List.mem_of_mem_drop member)⟩
      rw [ne_eq, List.drop_eq_nil_iff]
      omega }
  notWhole := rfl
  sign := rfl
  magnitude := by
    rw [magnitude_decimal]
    dsimp only [Option.getD_some, Option.getD_none]
    rw [List.take_append_drop, Decimal.digitsValue_toDigits, List.length_drop,
      Nat.cast_sub within.le]
    congr 2
    omega

/-- Zeros may have to stand before the digits. -/
private theorem spellsReal_fractional (zeros : Nat) :
    SpellsReal ⟨negative, ['0'], some (List.replicate zeros '0' ++ Nat.toDigits 10 n), none⟩
      negative (n * 10 ^ (-(zeros : Int) - (Nat.toDigits 10 n).length)) where
  wellFormed := {
    whole := areDigits_toDigits 0
    leading := .inr rfl
    fraction := by
      rintro _ ⟨⟩
      refine ⟨List.append_ne_nil_of_right_ne_nil _ (areDigits_toDigits n).1, ?_⟩
      intro c member
      exact (List.mem_append.mp member).elim isDigit_of_mem_zeros ((areDigits_toDigits n).2 c) }
  notWhole := rfl
  sign := rfl
  magnitude := by
    rw [magnitude_decimal]
    dsimp only [Option.getD_some, Option.getD_none]
    rw [← List.append_assoc, Decimal.digitsValue_append]
    have none : Decimal.digitsValue 0 (['0'] ++ List.replicate zeros '0') = 0 := by
      rw [Decimal.digitsValue_append, Decimal.digitsValue_zeros]
      exact Nat.zero_mul _
    rw [none, Decimal.digitsValue_toDigits, List.length_append, List.length_replicate]
    congr 2
    omega

/-- The digits may be followed by an exponent, with a point after the first of several. -/
private theorem spellsReal_scientific (exponent : Int) :
    SpellsReal
      (match Nat.toDigits 10 n with
        | first :: second :: rest => ⟨negative, [first], some (second :: rest), some exponent⟩
        | _ => ⟨negative, Nat.toDigits 10 n, none, some exponent⟩)
      negative (n * 10 ^ (exponent + 1 - (Nat.toDigits 10 n).length)) := by
  have value := Decimal.digitsValue_toDigits n
  obtain ⟨present, digits⟩ := areDigits_toDigits n
  generalize Nat.toDigits 10 n = cs at *
  match cs with
  | [] => exact absurd rfl present
  | [digit] =>
      refine ⟨⟨⟨present, digits⟩, .inr rfl, fun _ none => by cases none⟩, rfl, rfl, ?_⟩
      rw [magnitude_decimal]
      dsimp only [Option.getD_some, Option.getD_none]
      rw [List.append_nil, value]
      simp
  | first :: second :: rest =>
      obtain ⟨leading, others⟩ := List.forall_mem_cons.mp digits
      refine ⟨⟨⟨List.cons_ne_nil _ _, List.forall_mem_singleton.mpr leading⟩, .inr rfl, ?_⟩, rfl,
        rfl, ?_⟩
      · rintro _ ⟨⟩
        exact ⟨List.cons_ne_nil _ _, others⟩
      · rw [magnitude_decimal]
        dsimp only [Option.getD_some]
        rw [List.singleton_append, value, List.length_cons (a := first), Nat.cast_succ]
        congr 2
        omega

/-- Digits in a layout spell a double whatever the exponent of the first one is. -/
private theorem spellsReal_numeral (form : Binary64.Layout) {exponent : Int}
    (leading : n = 0 → exponent = 0) :
    SpellsReal (form.numeral negative (Nat.toDigits 10 n) exponent) negative
      (n * 10 ^ (exponent + 1 - (Nat.toDigits 10 n).length)) := by
  unfold Binary64.Layout.numeral
  split
  · cases exponent with
    | ofNat power =>
        dsimp only
        by_cases long : power + 1 < (Nat.toDigits 10 n).length
        · have fraction : (Nat.toDigits 10 n).drop (power + 1) ≠ [] := by
            rw [ne_eq, List.drop_eq_nil_iff]
            omega
          have filling : power + 1 - (Nat.toDigits 10 n).length = 0 := by omega
          rw [if_neg fraction, filling, List.replicate_zero, List.append_nil]
          exact spellsReal_divided negative power.succ_pos long
        · have exponent : ((power : Int) + 1 - (Nat.toDigits 10 n).length) =
              (power + 1 - (Nat.toDigits 10 n).length : Nat) := by omega
          have fraction : (Nat.toDigits 10 n).drop (power + 1) = [] :=
            List.drop_eq_nil_iff.mpr (by omega)
          rw [if_pos fraction, List.take_of_length_le (by omega), Int.ofNat_eq_natCast, exponent]
          apply spellsReal_filled
          rintro rfl
          have power := Int.ofNat_eq_zero.mp (leading rfl)
          rw [Nat.toDigits_zero, List.length_singleton]
          omega
    | negSucc power =>
        have exponent : Int.negSucc power + 1 = -(power : Int) := by omega
        rw [exponent]
        exact spellsReal_fractional negative power
  · exact spellsReal_scientific negative exponent

end Numeral

/-- The numeral of a double spells its shortest decimal. -/
theorem Binary64.spellsReal_numeral (form : Layout) (x : Binary64) :
    (x.numeral form).SpellsReal x.negative (x.shortest.1 * 10 ^ x.shortest.2) := by
  have leading : x.shortest.1 = 0 →
      x.shortest.2 + (Nat.toDigits 10 x.shortest.1).length - 1 = 0 := by
    intro zero
    have insignificant : x.significand = 0 := by
      by_contra significant
      exact shortest_digits_ne_zero significant zero
    rw [shortest, if_pos insignificant]
    rfl
  have spells := Numeral.spellsReal_numeral x.negative form leading
  rwa [show x.shortest.2 + (Nat.toDigits 10 x.shortest.1).length - 1 + 1 -
    (Nat.toDigits 10 x.shortest.1).length = x.shortest.2 by omega] at spells

namespace Number

variable (form : Binary64.Layout)

/-- Numerals of numbers are well formed. -/
theorem wellFormed_numeral (number : Number) : (number.numeral form).WellFormed := by
  cases number with
  | signed value => exact Numeral.wellFormed_ofInt _
  | unsigned value => exact Numeral.wellFormed_ofInt _
  | real value => exact (value.spellsReal_numeral form).wellFormed

/-- A canonical word is what its numeral spells, whatever double is offered in its place. -/
theorem numberOr_numeral {number : Number} (canonical : number.Canonical)
    (word : ∀ x, number ≠ .real x) (real : Option Binary64) :
    (number.numeral form).numberOr real = some number := by
  cases number with
  | signed value => exact Numeral.numberOr_ofInt (ofInt?_toInt value) real
  | unsigned value => exact Numeral.numberOr_ofInt (ofInt?_toNat canonical) real
  | real value => exact absurd rfl (word value)

/-- A canonical number is what its numeral spells. -/
theorem nearest?_numeral {number : Number} (canonical : number.Canonical) :
    (number.numeral form).nearest? = some number := by
  cases number with
  | real value =>
      have spells := value.spellsReal_numeral form
      have rounded := Binary64.ofDecimal?_shortest spells.sign spells.magnitude
      rw [numeral, Numeral.nearest?, Numeral.numberOr, rounded, spells.notWhole]
      rfl
  | signed value => exact numberOr_numeral form canonical (fun _ real => by cases real) _
  | unsigned value => exact numberOr_numeral form canonical (fun _ real => by cases real) _

end Number

end ColumnSearch
