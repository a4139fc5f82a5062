import ColumnSearch.Binary64.Estimate
import ColumnSearch.Numeral
import ColumnSearch.Proofs.Binary64.Rounding

/-!
# Estimates that are right

The estimate of a decimal is made with three roundings. If the digits and the power of ten are
doubles themselves, two of them change nothing, and the estimate is the double nearest to the
decimal (`Binary64.estimate?_of_attracts`).
-/

namespace ColumnSearch

/-- The digits of the decimal and the power of ten next to them are doubles. -/
def Decimal.IsShort (decimal : Decimal) : Prop :=
  decimal.digits < 2 ^ 53 ∧ -22 ≤ decimal.exponent ∧ decimal.exponent ≤ 22
  deriving Decidable

namespace Binary64

/-- The double is a whole number. -/
def Equals (x : Binary64) (n : Nat) : Prop :=
  x.significand * 2 ^ x.scale = n * 2 ^ 1074

private theorem Equals.attracts {x : Binary64} {n : Nat} (equals : x.Equals n) :
    x.Attracts ((n : Nat) / (1 : Nat)) := by
  refine (attracts_quotient_iff Nat.one_pos equals.symm).mpr ?_
  have place : 0 < 2 ^ x.scale := Nat.two_pow_pos _
  have slack : 0 < x.slack := by
    unfold slack
    split <;> decide
  have room : 0 < x.slack * 2 ^ x.scale := Nat.mul_pos slack place
  rw [Nat.one_mul, Nat.mul_assoc, Nat.add_mul, Nat.mul_assoc]
  omega

/-- A whole number of 53 bits and some zeros is a double. -/
private theorem exists_equals_of_bits (negative : Bool) {bits zeros : Nat} (positive : 0 < bits)
    (fits : bits < 2 ^ 53) (few : zeros ≤ 900) :
    ∃ x : Binary64, x.negative = negative ∧ x.Equals (bits * 2 ^ zeros) := by
  have least := Nat.log2_self_le positive.ne'
  have most : bits.log2 ≤ 52 := Nat.le_of_lt_succ ((Nat.log2_lt positive.ne').mpr fits)
  have above := Nat.lt_log2_self (n := bits)
  have shift : bits.log2 + (52 - bits.log2) = 52 := by omega
  refine ⟨⟨negative, bits * 2 ^ (52 - bits.log2), 1022 + bits.log2 + zeros, ?_, by omega,
    .inr ?_⟩, rfl, ?_⟩
  · calc bits * 2 ^ (52 - bits.log2)
        < 2 ^ (bits.log2 + 1) * 2 ^ (52 - bits.log2) :=
          Nat.mul_lt_mul_of_pos_right above (Nat.two_pow_pos _)
      _ = 2 ^ 53 := by rw [← Nat.pow_add, Nat.add_right_comm, shift]
  · calc 2 ^ 52 = 2 ^ bits.log2 * 2 ^ (52 - bits.log2) := by rw [← Nat.pow_add, shift]
      _ ≤ bits * 2 ^ (52 - bits.log2) := Nat.mul_le_mul_right _ least
  · show bits * 2 ^ (52 - bits.log2) * 2 ^ (1022 + bits.log2 + zeros) = bits * 2 ^ zeros * 2 ^ 1074
    rw [Nat.mul_assoc, Nat.mul_assoc, ← Nat.pow_add, ← Nat.pow_add]
    congr 2
    omega

private theorem exists_equals (negative : Bool) {n : Nat} (fits : n < 2 ^ 53) :
    ∃ x : Binary64, x.negative = negative ∧ x.Equals n := by
  rcases n.eq_zero_or_pos with rfl | positive
  · exact ⟨zero negative, rfl, by rw [Equals, Nat.zero_mul]; exact Nat.zero_mul _⟩
  · obtain ⟨x, sign, equals⟩ := exists_equals_of_bits negative positive fits (Nat.zero_le _)
    exact ⟨x, sign, by rwa [Nat.pow_zero, Nat.mul_one] at equals⟩

private theorem exists_equals_pow {power : Nat} (small : power ≤ 22) :
    ∃ x : Binary64, x.negative = false ∧ x.Equals (10 ^ power) := by
  have fits : 5 ^ power < 2 ^ 53 :=
    Nat.lt_of_le_of_lt (Nat.pow_le_pow_right (by decide) small) (by decide)
  obtain ⟨x, sign, equals⟩ := exists_equals_of_bits false (Nat.pow_pos (by decide)) fits
    (Nat.le_trans small (by decide))
  exact ⟨x, sign, by rwa [← Nat.mul_pow] at equals⟩

private theorem powerOfTen?_of_equals {y : Binary64} {power : Nat} (sign : y.negative = false)
    (equals : y.Equals (10 ^ power)) : powerOfTen? power = some y := by
  rw [powerOfTen?, ← sign]
  exact ofQuotient?_of_attracts Nat.one_pos equals.attracts

section Arithmetic

variable {x y z : Binary64} {m n : Nat}

private theorem Equals.cast (equals : x.Equals m) :
    (x.significand * 2 ^ x.scale : ℚ) = m * 2 ^ 1074 := by
  have cast := congrArg (Nat.cast : ℕ → ℚ) equals
  simpa only [Nat.cast_mul, Nat.cast_pow, Nat.cast_ofNat] using cast

private theorem cast_shiftLeft (n places : Nat) : ((n <<< places : ℕ) : ℚ) = n * 2 ^ places := by
  rw [Nat.shiftLeft_eq, Nat.cast_mul, Nat.cast_pow, Nat.cast_ofNat]

private theorem mul?_of_attracts (first : x.Equals m) (second : y.Equals n)
    (sign : z.negative = (x.negative != y.negative)) (attracts : z.Attracts (m * n)) :
    x.mul? y = some z := by
  have unit : (2 : ℚ) ^ 1074 ≠ 0 := by positivity
  rw [mul?, ← sign]
  refine ofQuotient?_of_attracts (by decide +kernel) ?_
  have units : (2 : ℚ) ^ 2148 = 2 ^ 1074 * 2 ^ 1074 := pow_add 2 1074 1074
  have product : ((x.significand * y.significand) <<< (x.scale + y.scale) : ℕ) =
      (m * 2 ^ 1074) * (n * 2 ^ 1074 : ℚ) := by
    rw [← first.cast, ← second.cast, cast_shiftLeft, Nat.cast_mul, pow_add, mul_mul_mul_comm]
  rw [product, cast_shiftLeft, Nat.cast_one, one_mul, units, mul_mul_mul_comm,
    mul_div_cancel_right₀ _ (mul_ne_zero unit unit)]
  exact attracts

private theorem div?_of_attracts (first : x.Equals m) (second : y.Equals n) (nonzero : 0 < n)
    (sign : z.negative = (x.negative != y.negative)) (attracts : z.Attracts (m / n)) :
    x.div? y = some z := by
  have unit : (2 : ℚ) ^ 1074 ≠ 0 := by positivity
  rw [div?, ← sign]
  refine ofQuotient?_of_attracts ?_ ?_
  · rw [Nat.shiftLeft_eq, second]
    positivity
  · rw [cast_shiftLeft, cast_shiftLeft, first.cast, second.cast, mul_div_mul_right _ _ unit]
    exact attracts

end Arithmetic

/-- A short decimal that the double attracts is estimated to be it. -/
theorem estimate?_of_attracts {x : Binary64} {decimal : Decimal} (short : decimal.IsShort)
    (sign : decimal.negative = x.negative) (attracts : x.Attracts decimal.magnitude) :
    estimate? decimal = some x := by
  obtain ⟨fits, least, most⟩ := short
  obtain ⟨digits, negative, equals⟩ := exists_equals decimal.negative fits
  have rounded : ofQuotient? decimal.negative decimal.digits 1 = some digits := by
    rw [← negative]
    exact ofQuotient?_of_attracts Nat.one_pos equals.attracts
  have signed : x.negative = (digits.negative != false) := by
    rw [negative, sign, Bool.bne_false]
  rw [estimate?, rounded, Option.bind_eq_bind, Option.bind_some]
  rw [Decimal.magnitude] at attracts
  cases scaled : decimal.exponent with
  | ofNat power =>
      rw [scaled, Int.ofNat_eq_natCast] at most attracts
      have small : power ≤ 22 := Int.ofNat_le.mp most
      obtain ⟨ten, positive, exact⟩ := exists_equals_pow small
      rw [zpow_natCast] at attracts
      rw [← positive] at signed
      dsimp only
      rw [if_pos (Nat.le_trans small (by decide)), powerOfTen?_of_equals positive exact]
      refine mul?_of_attracts equals exact signed ?_
      rwa [Nat.cast_pow, Nat.cast_ofNat]
  | negSucc power =>
      have small : power + 1 ≤ 22 := by omega
      have inside : power < maxPower := Nat.lt_of_lt_of_le small (by decide)
      obtain ⟨ten, positive, exact⟩ := exists_equals_pow small
      rw [scaled, zpow_negSucc, ← div_eq_mul_inv] at attracts
      rw [← positive] at signed
      dsimp only
      rw [Nat.div_eq_of_lt inside, Nat.mod_eq_of_lt inside, divideRepeatedly?, Option.bind_some,
        powerOfTen?_of_equals positive exact]
      refine div?_of_attracts equals exact (Nat.pow_pos (by decide)) signed ?_
      rwa [Nat.cast_pow, Nat.cast_ofNat]

end Binary64

end ColumnSearch
