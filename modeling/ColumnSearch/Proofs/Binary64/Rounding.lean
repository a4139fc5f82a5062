import ColumnSearch.Binary64
import Mathlib.Algebra.Order.Field.Rat
import Mathlib.Tactic.Linarith
import Mathlib.Tactic.Positivity
import Mathlib.Tactic.Ring
import Mathlib.Tactic.NormNum

/-!
# Rounding to doubles

Every double attracts the magnitudes of an interval around it: those that lie nearer to it than to
the doubles beside it, and the ends of the interval if its significand is even. A decimal is rounded
to the double that attracts its magnitude (`Binary64.ofDecimal?_of_attracts`).
-/

namespace ColumnSearch

namespace Binary64

/-- A number within half a unit of a quotient is what the quotient is rounded to; at exactly half a
unit, it must be even. -/
theorem roundDiv_eq {numerator denominator rounded : Nat} (positive : 0 < denominator)
    (lower : 2 * rounded * denominator ≤ 2 * numerator + denominator)
    (upper : 2 * numerator ≤ (2 * rounded + 1) * denominator)
    (strict : rounded % 2 = 1 → 2 * rounded * denominator < 2 * numerator + denominator ∧
      2 * numerator < (2 * rounded + 1) * denominator) :
    roundDiv numerator denominator = rounded := by
  have split := Nat.div_add_mod numerator denominator
  have remainder := Nat.mod_lt numerator positive
  unfold roundDiv
  generalize numerator / denominator = quotient at *
  generalize numerator % denominator = rest at *
  have least : quotient ≤ rounded := by
    by_contra less
    have below : (rounded + 1) * denominator ≤ denominator * quotient := by
      rw [Nat.mul_comm denominator]
      exact Nat.mul_le_mul_right _ (Nat.not_le.mp less)
    nlinarith
  have most : rounded ≤ quotient + 1 := by
    by_contra more
    have above : (quotient + 2) * denominator ≤ rounded * denominator :=
      Nat.mul_le_mul_right _ (Nat.not_le.mp more)
    nlinarith
  obtain rfl | rfl : rounded = quotient ∨ rounded = quotient + 1 := by omega
  · rw [Nat.add_mul, Nat.mul_assoc, Nat.mul_comm rounded] at *
    dsimp only
    split_ifs <;> omega
  · rw [Nat.add_mul, Nat.mul_assoc, Nat.add_mul, Nat.mul_comm quotient] at *
    dsimp only
    split_ifs <;> omega

section Places

variable {units denominator significand scale : Nat}

/-- The scale of a count of units with 53 bits before its place. -/
theorem log2_sub_eq (positive : 0 < denominator)
    (large : scale = 0 ∨ 2 ^ 52 * (denominator * 2 ^ scale) ≤ units)
    (small : units < 2 ^ 53 * (denominator * 2 ^ scale)) :
    (units / denominator).log2 - 52 = scale := by
  have bounded : units / denominator < 2 ^ (scale + 53) := by
    rw [Nat.div_lt_iff_lt_mul positive, Nat.pow_add]
    calc units < 2 ^ 53 * (denominator * 2 ^ scale) := small
      _ = 2 ^ scale * 2 ^ 53 * denominator := by ring
  rcases large with rfl | large
  · by_cases zero : units / denominator = 0
    · rw [zero]
      rfl
    · have := (Nat.log2_lt zero).mpr bounded
      omega
  · have leading : 2 ^ (scale + 52) ≤ units / denominator := by
      rw [Nat.le_div_iff_mul_le positive, Nat.pow_add]
      calc 2 ^ scale * 2 ^ 52 * denominator = 2 ^ 52 * (denominator * 2 ^ scale) := by ring
        _ ≤ units := large
    have nonzero : units / denominator ≠ 0 :=
      Nat.ne_of_gt (Nat.lt_of_lt_of_le (Nat.two_pow_pos _) leading)
    rw [(Nat.log2_eq_iff nonzero).mpr ⟨leading, bounded⟩, Nat.add_sub_cancel]

/-- Rounding a count of units to the place of a significand, when the leading bit of the count is
that of the significand. -/
theorem round_in_place (positive : 0 < denominator) (fits : significand < 2 ^ 53)
    (large : scale = 0 ∨ 2 ^ 52 * (denominator * 2 ^ scale) ≤ units)
    (lower : 4 * significand * (denominator * 2 ^ scale) ≤
      4 * units + 2 * (denominator * 2 ^ scale))
    (upper : 4 * units ≤ (4 * significand + 2) * (denominator * 2 ^ scale))
    (strict : significand % 2 = 1 →
      4 * significand * (denominator * 2 ^ scale) < 4 * units + 2 * (denominator * 2 ^ scale) ∧
        4 * units < (4 * significand + 2) * (denominator * 2 ^ scale)) :
    (units / denominator).log2 - 52 = scale ∧
      roundDiv units (denominator * 2 ^ scale) = significand := by
  have place : 0 < denominator * 2 ^ scale := Nat.mul_pos positive (Nat.two_pow_pos scale)
  constructor
  · apply log2_sub_eq positive large
    have : (4 * significand + 2) * (denominator * 2 ^ scale) <
        4 * 2 ^ 53 * (denominator * 2 ^ scale) :=
      Nat.mul_lt_mul_of_pos_right (by omega) place
    omega
  · generalize denominator * 2 ^ scale = size at *
    apply roundDiv_eq place
    · nlinarith
    · nlinarith
    · intro odd
      obtain ⟨above, below⟩ := strict odd
      constructor
      · nlinarith
      · nlinarith

/-- Just below the least significand of a scale, the leading bit of the count is one lower, and
rounding to the finer place carries. -/
theorem round_with_carry (positive : 0 < denominator)
    (below : units < 2 ^ 52 * (denominator * 2 ^ (scale + 1)))
    (lower : 2 ^ 54 * (denominator * 2 ^ (scale + 1)) ≤
      4 * units + denominator * 2 ^ (scale + 1)) :
    (units / denominator).log2 - 52 = scale ∧
      roundDiv units (denominator * 2 ^ scale) = 2 ^ 53 := by
  have place : 0 < denominator * 2 ^ scale := Nat.mul_pos positive (Nat.two_pow_pos scale)
  have double : denominator * 2 ^ (scale + 1) = 2 * (denominator * 2 ^ scale) := by ring
  rw [double] at below lower
  constructor
  · apply log2_sub_eq positive
    · right
      omega
    · omega
  · apply roundDiv_eq place
    · omega
    · omega
    · intro odd
      cases odd

end Places

/-- A double is put together again from its own parts. -/
theorem ofParts?_eq (x : Binary64) : ofParts? x.negative x.significand x.scale = some x := by
  rw [ofParts?, dif_pos ⟨x.significand_lt, x.scale_le, x.normal⟩]

/-- How far below the double numbers still round to it, in quarters of the least place of the
significand. Below a power of two the next double is only half as far. -/
def slack (x : Binary64) : Nat :=
  if x.significand = 0x10000000000000 ∧ x.scale ≠ 0 then 1 else 2

/-- A magnitude in units of the least positive double. -/
def inUnits (magnitude : ℚ) : ℚ :=
  magnitude * 2 ^ 1074

/-- A magnitude in quarters of the least place of the significand. -/
def quarters (x : Binary64) (magnitude : ℚ) : ℚ :=
  4 * inUnits magnitude / 2 ^ x.scale

/-- A magnitude lies in the interval that rounds to the double. The ends of the interval belong to
it when the significand is even. -/
def Attracts (x : Binary64) (magnitude : ℚ) : Prop :=
  4 * x.significand ≤ x.quarters magnitude + x.slack ∧
    x.quarters magnitude ≤ 4 * x.significand + 2 ∧
    (x.significand % 2 = 1 → 4 * x.significand < x.quarters magnitude + x.slack ∧
      x.quarters magnitude < 4 * x.significand + 2)

/-- The interval of a double, multiplied by the denominator of a quotient. -/
theorem attracts_iff {x : Binary64} {magnitude : ℚ} {numerator denominator : Nat}
    (positive : 0 < denominator) (same : x.quarters magnitude = numerator / denominator) :
    x.Attracts magnitude ↔
      4 * x.significand * denominator ≤ numerator + x.slack * denominator ∧
        numerator ≤ (4 * x.significand + 2) * denominator ∧
        (x.significand % 2 = 1 →
          4 * x.significand * denominator < numerator + x.slack * denominator ∧
            numerator < (4 * x.significand + 2) * denominator) := by
  have positive' : (0 : ℚ) < denominator := Nat.cast_pos.mpr positive
  rw [Attracts, same, ← sub_le_iff_le_add, ← sub_lt_iff_lt_add, le_div_iff₀ positive',
    lt_div_iff₀ positive', div_le_iff₀ positive', div_lt_iff₀ positive', sub_mul,
    sub_le_iff_le_add, sub_lt_iff_lt_add]
  norm_cast

/-- The interval of a double in whole numbers: the units of a quotient against the place of the
significand. -/
theorem attracts_quotient_iff {x : Binary64} {numerator denominator units : Nat}
    (positive : 0 < denominator) (counted : numerator * 2 ^ 1074 = units) :
    x.Attracts (numerator / denominator) ↔
      4 * x.significand * (denominator * 2 ^ x.scale) ≤
          4 * units + x.slack * (denominator * 2 ^ x.scale) ∧
        4 * units ≤ (4 * x.significand + 2) * (denominator * 2 ^ x.scale) ∧
        (x.significand % 2 = 1 →
          4 * x.significand * (denominator * 2 ^ x.scale) <
              4 * units + x.slack * (denominator * 2 ^ x.scale) ∧
            4 * units < (4 * x.significand + 2) * (denominator * 2 ^ x.scale)) := by
  apply attracts_iff (Nat.mul_pos positive (Nat.two_pow_pos _))
  rw [quarters, inUnits, div_mul_eq_mul_div, mul_div_assoc', div_div, ← counted]
  simp only [Nat.cast_mul, Nat.cast_pow, Nat.cast_ofNat]

/-- A double reaches at most two quarters of its last place to either side. -/
theorem slack_le (x : Binary64) : x.slack ≤ 2 := by
  unfold slack
  split <;> omega

/-- A count of units below the leading bit of the significand is attracted only just below a power
of two. -/
theorem significand_eq_of_lt {x : Binary64} {units size : Nat} (scaled : x.scale ≠ 0)
    (below : units < 2 ^ 52 * size)
    (lower : 4 * x.significand * size ≤ 4 * units + x.slack * size) :
    x.significand = 0x10000000000000 ∧ x.slack = 1 := by
  have least : 2 ^ 52 ≤ x.significand := x.normal.resolve_left scaled
  have tight : x.significand = 2 ^ 52 := by
    have := x.slack_le
    by_contra other
    have : (2 ^ 52 + 1) * size ≤ x.significand * size := Nat.mul_le_mul_right _ (by omega)
    nlinarith
  exact ⟨tight, if_pos ⟨tight, scaled⟩⟩

/-- A quotient that the double attracts is rounded to it. -/
theorem ofQuotient?_of_attracts {x : Binary64} {numerator denominator : Nat}
    (positive : 0 < denominator) (attracts : x.Attracts (numerator / denominator)) :
    ofQuotient? x.negative numerator denominator = some x := by
  obtain ⟨units, shifted⟩ : ∃ units, numerator * 2 ^ 1074 = units := ⟨_, rfl⟩
  obtain ⟨lower, upper, strict⟩ := (attracts_quotient_iff positive shifted).mp attracts
  have ends : x.slack * (denominator * 2 ^ x.scale) ≤ 2 * (denominator * 2 ^ x.scale) :=
    Nat.mul_le_mul_right _ x.slack_le
  unfold ofQuotient?
  simp only [Nat.shiftLeft_eq, shifted]
  by_cases leading : x.scale = 0 ∨ 2 ^ 52 * (denominator * 2 ^ x.scale) ≤ units
  · obtain ⟨placed, rounded⟩ := round_in_place positive x.significand_lt leading
      (Nat.le_trans lower (Nat.add_le_add_left ends _)) upper
      fun odd => ⟨Nat.lt_of_lt_of_le (strict odd).1 (Nat.add_le_add_left ends _), (strict odd).2⟩
    rw [placed, rounded, if_neg (Nat.ne_of_lt x.significand_lt), ofParts?_eq]
  · rw [not_or, Nat.not_le] at leading
    obtain ⟨least, half⟩ := significand_eq_of_lt leading.1 leading.2 lower
    obtain ⟨scale, finer⟩ := Nat.exists_eq_succ_of_ne_zero leading.1
    rw [least, half, Nat.one_mul, finer] at lower
    rw [finer] at leading
    obtain ⟨placed, rounded⟩ := round_with_carry positive leading.2 lower
    rw [placed, rounded, if_pos (by decide), ← least, ← Nat.succ_eq_add_one, ← finer, ofParts?_eq]

end Binary64

/-- The magnitude of a decimal. -/
def Decimal.magnitude (decimal : Decimal) : ℚ :=
  decimal.digits * 10 ^ decimal.exponent

namespace Binary64

private theorem Attracts.inUnits_lt {x : Binary64} {magnitude : ℚ}
    (attracts : x.Attracts magnitude) :
    inUnits magnitude < 2 ^ 53 * 2 ^ 2045 := by
  have upper := attracts.2.1
  have size : (0 : ℚ) < 2 ^ x.scale := by positivity
  have fits : (x.significand : ℚ) + 1 ≤ 2 ^ 53 := by exact_mod_cast x.significand_lt
  rw [quarters, div_le_iff₀ size] at upper
  calc inUnits magnitude < 2 ^ 53 * 2 ^ x.scale := by nlinarith
    _ ≤ 2 ^ 53 * 2 ^ 2045 := by gcongr; exacts [by norm_num, x.scale_le]

/-- What rounds to a double other than zero is at least half the least positive double. -/
theorem Attracts.le_inUnits {x : Binary64} {magnitude : ℚ} (attracts : x.Attracts magnitude)
    (nonzero : x.significand ≠ 0) : 1 ≤ 2 * inUnits magnitude := by
  have lower := attracts.1
  have size : (1 : ℚ) ≤ 2 ^ x.scale := one_le_pow₀ (by norm_num)
  have ends : (x.slack : ℚ) ≤ 2 := by exact_mod_cast x.slack_le
  have least : (1 : ℚ) ≤ x.significand := by exact_mod_cast Nat.pos_of_ne_zero nonzero
  rw [quarters, ← sub_le_iff_le_add, le_div_iff₀ (by linarith)] at lower
  nlinarith

private theorem digitCount_pos (n : Nat) : 0 < digitCount n :=
  Nat.length_toDigits_pos

/-- A number is below the power of ten with as many zeros as it has digits. -/
theorem lt_pow_digitCount (n : Nat) : n < 10 ^ digitCount n :=
  (Nat.length_toDigits_le_iff (by decide) (digitCount_pos n)).mp (Nat.le_refl _)

/-- A number reaches the power of ten of each of its decimal places. -/
theorem pow_le_of_lt_digitCount {n place : Nat} (nonzero : n ≠ 0) (within : place < digitCount n) :
    10 ^ place ≤ n := by
  by_contra less
  cases place with
  | zero => omega
  | succ place =>
      have short := (Nat.length_toDigits_le_iff (by decide) place.succ_pos).mpr (Nat.not_le.mp less)
      exact Nat.not_le.mpr within short

/-- The position of the leading digit of a decimal bounds its magnitude. -/
theorem magnitude_bounds {decimal : Decimal} (nonzero : decimal.digits ≠ 0) :
    (10 : ℚ) ^ (decimal.exponent + digitCount decimal.digits - 1) ≤ decimal.magnitude ∧
      decimal.magnitude < 10 ^ (decimal.exponent + digitCount decimal.digits) := by
  have ten : (10 : ℚ) ≠ 0 := by norm_num
  have unit : (0 : ℚ) < 10 ^ decimal.exponent := zpow_pos (by norm_num) _
  obtain ⟨place, count⟩ := Nat.exists_eq_add_one.mpr (digitCount_pos decimal.digits)
  have above : (10 ^ place : ℚ) ≤ decimal.digits := by
    exact_mod_cast pow_le_of_lt_digitCount nonzero (by omega)
  have below : (decimal.digits : ℚ) < 10 ^ (place + 1) := by
    exact_mod_cast count ▸ lt_pow_digitCount decimal.digits
  rw [count, Nat.cast_add, Nat.cast_one, ← add_assoc, add_sub_cancel_right, Decimal.magnitude,
    mul_comm]
  constructor
  · rw [zpow_add₀ ten, zpow_natCast]
    exact mul_le_mul_of_nonneg_left above unit.le
  · rw [add_assoc, zpow_add₀ ten, ← Nat.cast_one, ← Nat.cast_add, zpow_natCast]
    exact mul_lt_mul_of_pos_left below unit

/-- A magnitude whose leading digit is far to the right of the point is less than half a unit. -/
theorem inUnits_lt_of_lt_pow {magnitude : ℚ} {top : Int} (tiny : top < -400)
    (below : magnitude < 10 ^ top) : 2 * inUnits magnitude < 1 := by
  have unit : (0 : ℚ) < 2 ^ 1074 := by positivity
  have small : magnitude < (10 ^ 401)⁻¹ := by
    refine lt_of_lt_of_le below ?_
    rw [← zpow_natCast, ← zpow_neg]
    exact zpow_le_zpow_right₀ (by norm_num) (by omega)
  have less : 2 * inUnits magnitude < 2 * ((10 ^ 401)⁻¹ * 2 ^ 1074) :=
    mul_lt_mul_of_pos_left (mul_lt_mul_of_pos_right small unit) (by norm_num)
  have short : (2 * ((10 ^ 401)⁻¹ * 2 ^ 1074) : ℚ) < 1 := by
    rw [mul_left_comm, inv_mul_lt_iff₀ (by positivity), mul_one]
    exact_mod_cast (by decide +kernel : 2 * 2 ^ 1074 < 10 ^ 401)
  exact less.trans short

/-- A magnitude whose leading digit is far to the left of the point exceeds every double. -/
theorem lt_inUnits_of_pow_le {magnitude : ℚ} {top : Int} (huge : 400 < top)
    (above : (10 : ℚ) ^ (top - 1) ≤ magnitude) : 2 ^ 53 * 2 ^ 2045 < inUnits magnitude := by
  have unit : (0 : ℚ) < 2 ^ 1074 := by positivity
  have large : (10 : ℚ) ^ 400 ≤ magnitude := by
    refine le_trans ?_ above
    rw [← zpow_natCast]
    exact zpow_le_zpow_right₀ (by norm_num) (by omega)
  have more : 10 ^ 400 * 2 ^ 1074 ≤ inUnits magnitude := mul_le_mul_of_nonneg_right large unit.le
  have long : (2 ^ 53 * 2 ^ 2045 : ℚ) < 10 ^ 400 * 2 ^ 1074 := by
    exact_mod_cast (by decide +kernel : 2 ^ 53 * 2 ^ 2045 < 10 ^ 400 * 2 ^ 1074)
  exact long.trans_le more

/-- The leading digit of a decimal that a double attracts is neither far to the left nor far to the
right of the point. -/
theorem Attracts.exponent_bounds {x : Binary64} {magnitude : ℚ} (significant : x.significand ≠ 0)
    (attracts : x.Attracts magnitude) {top : Int} (above : (10 : ℚ) ^ (top - 1) ≤ magnitude)
    (below : magnitude < 10 ^ top) : -400 ≤ top ∧ top ≤ 400 := by
  constructor
  · by_contra tiny
    have small := inUnits_lt_of_lt_pow (not_le.mp tiny) below
    exact absurd (attracts.le_inUnits significant) (not_le.mpr small)
  · by_contra huge
    have large := lt_inUnits_of_pow_le (not_le.mp huge) above
    exact absurd attracts.inUnits_lt (not_lt.mpr large.le)

/-- A decimal whose leading digit is near the point is rounded as the quotient it is. -/
theorem exists_quotient {decimal : Decimal} (nonzero : decimal.digits ≠ 0)
    (least : -400 ≤ decimal.exponent + digitCount decimal.digits)
    (most : decimal.exponent + digitCount decimal.digits ≤ 400) :
    ∃ numerator denominator : Nat, 0 < denominator ∧
      decimal.magnitude = numerator / denominator ∧
      ofDecimal? decimal = ofQuotient? decimal.negative numerator denominator := by
  rw [ofDecimal?, if_neg nonzero]
  dsimp only
  rw [if_neg (not_lt.mpr most), if_neg (not_lt.mpr least), Decimal.magnitude]
  cases scaled : decimal.exponent with
  | ofNat power =>
      refine ⟨decimal.digits * 10 ^ power, 1, Nat.one_pos, ?_, rfl⟩
      rw [Int.ofNat_eq_natCast, zpow_natCast, Nat.cast_one, div_one, Nat.cast_mul, Nat.cast_pow,
        Nat.cast_ofNat]
  | negSucc power =>
      refine ⟨decimal.digits, 10 ^ (power + 1), Nat.pow_pos (by decide), ?_, rfl⟩
      rw [zpow_negSucc, div_eq_mul_inv, Nat.cast_pow, Nat.cast_ofNat]

/-- A decimal that the double attracts is rounded to it. -/
theorem ofDecimal?_of_attracts {x : Binary64} {decimal : Decimal}
    (sign : decimal.negative = x.negative) (significant : x.significand ≠ 0)
    (attracts : x.Attracts decimal.magnitude) : ofDecimal? decimal = some x := by
  have nonzero : decimal.digits ≠ 0 := by
    intro zero
    have least := attracts.le_inUnits significant
    rw [Decimal.magnitude, zero, Nat.cast_zero, zero_mul, inUnits, zero_mul, mul_zero] at least
    exact absurd least (by norm_num)
  obtain ⟨above, below⟩ := magnitude_bounds nonzero
  obtain ⟨least, most⟩ := attracts.exponent_bounds significant above below
  obtain ⟨numerator, denominator, positive, quotient, same⟩ := exists_quotient nonzero least most
  rw [same, sign]
  exact ofQuotient?_of_attracts positive (quotient ▸ attracts)

end Binary64

end ColumnSearch
