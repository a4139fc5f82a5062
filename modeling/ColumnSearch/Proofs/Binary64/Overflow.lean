import ColumnSearch.Proofs.Binary64.Rounding

/-!
# The double a decimal is rounded to

A decimal is rounded to a double that attracts its magnitude, and has none exactly if its magnitude
is at least `2 ^ 1024 - 2 ^ 970`, which is halfway from the largest double to the next power of two
(`Binary64.ofDecimal?_eq_none_iff`).
-/

namespace ColumnSearch

namespace Binary64

/-- A quotient is within half a unit of what it is rounded to, and nearer than that if the latter is
odd. -/
theorem roundDiv_near (numerator : Nat) {denominator : Nat} (positive : 0 < denominator) :
    2 * roundDiv numerator denominator * denominator ≤ 2 * numerator + denominator ∧
      2 * numerator ≤ (2 * roundDiv numerator denominator + 1) * denominator ∧
      (roundDiv numerator denominator % 2 = 1 →
        2 * roundDiv numerator denominator * denominator < 2 * numerator + denominator ∧
          2 * numerator < (2 * roundDiv numerator denominator + 1) * denominator) := by
  have split := Nat.div_add_mod numerator denominator
  have remainder := Nat.mod_lt numerator positive
  unfold roundDiv
  generalize numerator / denominator = quotient at *
  generalize numerator % denominator = rest at *
  have next : (quotient + 1) * denominator = denominator * quotient + denominator := by ring
  have same : quotient * denominator = denominator * quotient := Nat.mul_comm _ _
  dsimp only
  simp only [Nat.mul_assoc, Nat.add_mul, Nat.one_mul]
  split_ifs with below above
  · simp only [same]
    omega
  · simp only [next]
    omega
  · -- at exactly half a unit, what is added makes the quotient even
    rcases Nat.mod_two_eq_zero_or_one quotient with even | odd
    · simp only [even, Nat.add_zero, same]
      omega
    · simp only [odd, next]
      omega

/-- A count of units over a denominator is rounded to a number of places of the given scale. There
are 53 bits before the place, or fewer if it is the least one. -/
structure RoundsAt (units denominator scale rounded : Nat) : Prop where
  positive : 0 < denominator
  large : scale = 0 ∨ 2 ^ 52 * (denominator * 2 ^ scale) ≤ units
  small : units < 2 ^ 53 * (denominator * 2 ^ scale)
  lower : 2 * rounded * (denominator * 2 ^ scale) ≤ 2 * units + denominator * 2 ^ scale
  upper : 2 * units ≤ (2 * rounded + 1) * (denominator * 2 ^ scale)
  strict : rounded % 2 = 1 →
    2 * rounded * (denominator * 2 ^ scale) < 2 * units + denominator * 2 ^ scale ∧
      2 * units < (2 * rounded + 1) * (denominator * 2 ^ scale)

section Places

variable {units denominator scale rounded : Nat}

private theorem place_bounds (units : Nat) (positive : 0 < denominator) :
    let size := denominator * 2 ^ ((units / denominator).log2 - 52)
    ((units / denominator).log2 - 52 = 0 ∨ 2 ^ 52 * size ≤ units) ∧ units < 2 ^ 53 * size := by
  intro size
  obtain ⟨leading, bits⟩ : ∃ leading, (units / denominator).log2 = leading := ⟨_, rfl⟩
  have below : units / denominator < 2 ^ (leading + 1) := bits ▸ Nat.lt_log2_self
  rw [Nat.div_lt_iff_lt_mul positive] at below
  constructor
  · by_cases least : leading ≤ 52
    · left
      omega
    · right
      have nonzero : units / denominator ≠ 0 := by
        intro zero
        rw [zero, Nat.log2_zero] at bits
        omega
      have above := bits ▸ Nat.log2_self_le nonzero
      rw [Nat.le_div_iff_mul_le positive] at above
      have exponent : 52 + (leading - 52) = leading := by omega
      calc 2 ^ 52 * size = 2 ^ (52 + (leading - 52)) * denominator := by
            simp only [size, bits, Nat.pow_add]
            ring
        _ ≤ units := by rwa [exponent]
  · calc units < 2 ^ (leading + 1) * denominator := below
      _ ≤ 2 ^ (53 + (leading - 52)) * denominator :=
          Nat.mul_le_mul_right _ (Nat.pow_le_pow_right (by decide) (by omega))
      _ = 2 ^ 53 * size := by
          simp only [size, bits, Nat.pow_add]
          ring

private theorem roundsAt (units : Nat) (positive : 0 < denominator) :
    RoundsAt units denominator ((units / denominator).log2 - 52)
      (roundDiv units (denominator * 2 ^ ((units / denominator).log2 - 52))) := by
  obtain ⟨large, small⟩ := place_bounds units positive
  obtain ⟨lower, upper, strict⟩ :=
    roundDiv_near units (Nat.mul_pos positive (Nat.two_pow_pos _))
  exact ⟨positive, large, small, lower, upper, strict⟩

/-- What is rounded to has 53 bits, or one more after a carry. -/
theorem RoundsAt.le_pow (rounds : RoundsAt units denominator scale rounded) :
    rounded ≤ 2 ^ 53 := by
  have small := rounds.small
  have lower := rounds.lower
  generalize denominator * 2 ^ scale = size at *
  by_contra more
  have above : (2 ^ 53 + 1) * size ≤ rounded * size := Nat.mul_le_mul_right _ (Nat.not_le.mp more)
  nlinarith

/-- Fewer bits are possible only at the least place. -/
theorem RoundsAt.pow_le (rounds : RoundsAt units denominator scale rounded) :
    scale = 0 ∨ 2 ^ 52 ≤ rounded := by
  refine rounds.large.imp_right fun large => ?_
  have upper := rounds.upper
  have place : 0 < denominator * 2 ^ scale := Nat.mul_pos rounds.positive (Nat.two_pow_pos _)
  generalize denominator * 2 ^ scale = size at *
  by_contra less
  have below : rounded * size ≤ (2 ^ 52 - 1) * size := Nat.mul_le_mul_right _ (by omega)
  nlinarith

end Places

private theorem ofParts?_eq_some_iff {negative : Bool} {significand scale : Nat} {x : Binary64} :
    ofParts? negative significand scale = some x ↔
      x.negative = negative ∧ x.significand = significand ∧ x.scale = scale := by
  constructor
  · intro found
    unfold ofParts? at found
    split at found
    · cases found
      exact ⟨rfl, rfl, rfl⟩
    · cases found
  · rintro ⟨rfl, rfl, rfl⟩
    exact x.ofParts?_eq

private theorem lt_of_ofParts?_eq_none {negative : Bool} {significand scale : Nat}
    (fits : significand < 2 ^ 53) (normal : scale = 0 ∨ 2 ^ 52 ≤ significand)
    (beyond : ofParts? negative significand scale = none) : 2045 < scale := by
  unfold ofParts? at beyond
  split at beyond
  · cases beyond
  · rename_i bounds
    by_contra within
    exact bounds ⟨fits, Nat.not_lt.mp within, normal⟩

section Quotients

variable {negative : Bool} {numerator denominator : Nat} {x : Binary64}

/-- What rounding a quotient does: its units are rounded at a place, and a carry moves to the next
one. -/
theorem exists_roundsAt (negative : Bool) (numerator : Nat) (positive : 0 < denominator) :
    ∃ units scale rounded, numerator * 2 ^ 1074 = units ∧
      RoundsAt units denominator scale rounded ∧
      ofQuotient? negative numerator denominator =
        if rounded = 2 ^ 53 then ofParts? negative (2 ^ 52) (scale + 1)
        else ofParts? negative rounded scale := by
  obtain ⟨units, counted⟩ : ∃ units, numerator * 2 ^ 1074 = units := ⟨_, rfl⟩
  refine ⟨units, _, _, counted, roundsAt units positive, ?_⟩
  unfold ofQuotient?
  simp only [Nat.shiftLeft_eq, counted]
  rfl

/-- A quotient is rounded to a double that attracts it. -/
theorem attracts_of_ofQuotient? (positive : 0 < denominator)
    (found : ofQuotient? negative numerator denominator = some x) :
    x.negative = negative ∧ x.Attracts (numerator / denominator) := by
  obtain ⟨units, scale, rounded, counted, ⟨_, large, small, lower, upper, strict⟩, same⟩ :=
    exists_roundsAt negative numerator positive
  rw [same] at found
  rw [attracts_quotient_iff positive counted]
  split at found
  · rename_i carry
    obtain ⟨sign, significand, coarser⟩ := ofParts?_eq_some_iff.mp found
    have slack : x.slack = 1 := if_pos ⟨significand, by omega⟩
    have double : denominator * 2 ^ (scale + 1) = 2 * (denominator * 2 ^ scale) := by ring
    rw [carry] at lower
    rw [significand, coarser, slack, double]
    generalize denominator * 2 ^ scale = size at *
    exact ⟨sign, by omega, by omega, fun odd => absurd odd (by decide)⟩
  · obtain ⟨sign, rfl, rfl⟩ := ofParts?_eq_some_iff.mp found
    generalize denominator * 2 ^ x.scale = size at *
    refine ⟨sign, ?_, by nlinarith, fun odd => ?_⟩
    · unfold slack
      split
      · rename_i least
        -- below a power of two the interval is narrower, but the units are not below it
        have := large.resolve_left least.2
        rw [least.1]
        omega
      · nlinarith
    · have slack : x.slack = 2 := by
        refine if_neg fun least => ?_
        rw [least.1] at odd
        exact absurd odd (by decide)
      obtain ⟨above, below⟩ := strict odd
      rw [slack]
      constructor
      · nlinarith
      · nlinarith

/-- A quotient that is rounded to no double is at least halfway beyond the largest one. -/
theorem le_of_ofQuotient?_eq_none (positive : 0 < denominator)
    (overflows : ofQuotient? negative numerator denominator = none) :
    2 ^ 54 * (denominator * 2 ^ 2044) ≤ numerator * 2 ^ 1074 + denominator * 2 ^ 2044 := by
  obtain ⟨units, scale, rounded, counted, rounds, same⟩ :=
    exists_roundsAt negative numerator positive
  have wide (exponent more : Nat) (beyond : exponent + more ≤ scale) :
      2 ^ more * (denominator * 2 ^ exponent) ≤ denominator * 2 ^ scale := by
    calc 2 ^ more * (denominator * 2 ^ exponent) = denominator * 2 ^ (exponent + more) := by ring
      _ ≤ denominator * 2 ^ scale :=
          Nat.mul_le_mul_left _ (Nat.pow_le_pow_right (by decide) beyond)
  rw [same] at overflows
  rw [counted]
  split at overflows
  · rename_i carry
    have beyond := lt_of_ofParts?_eq_none (by decide) (.inr (by decide)) overflows
    have lower := rounds.lower
    have wide := wide 2044 1 (by omega)
    rw [carry] at lower
    omega
  · rename_i carry
    have beyond := lt_of_ofParts?_eq_none (by have := rounds.le_pow; omega) rounds.pow_le overflows
    have large := rounds.large.resolve_left (by omega)
    have wide := wide 2044 2 (by omega)
    omega

end Quotients

section Decimals

variable {decimal : Decimal} {magnitude : ℚ} {x : Binary64}

/-- Halfway beyond the largest double, in units. -/
theorem inUnits_limit : inUnits (2 ^ 1024 - 2 ^ 970) = (2 ^ 54 - 1) * 2 ^ 2044 := by
  have power : (2 : ℚ) ^ 1024 = 2 ^ 54 * 2 ^ 970 := (pow_add 2 54 970)
  have units : (2 : ℚ) ^ 2044 = 2 ^ 970 * 2 ^ 1074 := (pow_add 2 970 1074)
  rw [inUnits, power, units]
  generalize (2 : ℚ) ^ 970 = place
  generalize (2 : ℚ) ^ 1074 = unit
  ring

private theorem inUnits_le_iff {first second : ℚ} :
    inUnits first ≤ inUnits second ↔ first ≤ second :=
  mul_le_mul_iff_left₀ (by positivity)

/-- No double attracts a magnitude halfway beyond the largest one, which is odd. -/
theorem Attracts.lt_limit (attracts : x.Attracts magnitude) : magnitude < 2 ^ 1024 - 2 ^ 970 := by
  rw [← not_le, ← inUnits_le_iff, inUnits_limit, not_le]
  have size : (0 : ℚ) < 2 ^ x.scale := by positivity
  have coarsest : (2 : ℚ) ^ x.scale ≤ 2 ^ (2044 + 1) :=
    pow_le_pow_right₀ (by norm_num) x.scale_le
  rw [pow_succ] at coarsest
  have below : 4 * inUnits magnitude < (4 * 2 ^ 53 - 2) * 2 ^ x.scale := by
    obtain ⟨_, upper, strict⟩ := attracts
    by_cases largest : x.significand = 2 ^ 53 - 1
    · have below := (strict (by rw [largest]; decide)).2
      rw [quarters, div_lt_iff₀ size, largest] at below
      push_cast at below
      linarith
    · have fits : (x.significand : ℚ) + 2 ≤ 2 ^ 53 := by
        have := x.significand_lt
        exact_mod_cast (by omega : x.significand + 2 ≤ 2 ^ 53)
      rw [quarters, div_le_iff₀ size] at upper
      nlinarith
  generalize (2 : ℚ) ^ x.scale = place at *
  generalize (2 : ℚ) ^ 2044 = finer at *
  linarith

private theorem ofQuotient?_eq_none_iff {negative : Bool} {numerator denominator : Nat}
    (positive : 0 < denominator) :
    ofQuotient? negative numerator denominator = none ↔
      (2 : ℚ) ^ 1024 - 2 ^ 970 ≤ numerator / denominator := by
  constructor
  · intro overflows
    have large := le_of_ofQuotient?_eq_none positive overflows
    have divisor : (0 : ℚ) < denominator := Nat.cast_pos.mpr positive
    rw [← Nat.cast_le (α := ℚ)] at large
    simp only [Nat.cast_add, Nat.cast_mul, Nat.cast_pow, Nat.cast_ofNat] at large
    rw [← inUnits_le_iff, inUnits_limit, inUnits, div_mul_eq_mul_div, le_div_iff₀ divisor]
    generalize (2 : ℚ) ^ 2044 = finer at *
    generalize (2 : ℚ) ^ 1074 = unit at *
    linarith
  · intro large
    cases found : ofQuotient? negative numerator denominator with
    | none => rfl
    | some x =>
        have attracts := (attracts_of_ofQuotient? positive found).2
        exact absurd large (not_le.mpr attracts.lt_limit)

/-- Zero attracts the magnitudes up to half a unit. -/
theorem attracts_zero (negative : Bool) (least : 0 ≤ magnitude)
    (small : 2 * inUnits magnitude ≤ 1) :
    (zero negative).Attracts magnitude := by
  have nonneg : 0 ≤ inUnits magnitude := mul_nonneg least (by positivity)
  have scaled : (zero negative).quarters magnitude = 4 * inUnits magnitude := by
    rw [quarters]
    exact div_one _
  have slack : (zero negative).slack = 2 := rfl
  have significand : (zero negative).significand = 0 := rfl
  refine ⟨?_, ?_, fun odd => ?_⟩
  · rw [scaled, slack, significand]
    push_cast
    linarith
  · rw [scaled, significand]
    push_cast
    linarith
  · cases odd

private theorem magnitude_nonneg (decimal : Decimal) : 0 ≤ decimal.magnitude := by
  rw [Decimal.magnitude]
  exact mul_nonneg (Nat.cast_nonneg _) (zpow_nonneg (by norm_num) _)

/-- A decimal is zero, or too large or too small for its leading digit, or a quotient that is
rounded. -/
theorem ofDecimal?_cases (decimal : Decimal) :
    (2 * inUnits decimal.magnitude < 1 ∧ ofDecimal? decimal = some (zero decimal.negative)) ∨
      (2 ^ 53 * 2 ^ 2045 < inUnits decimal.magnitude ∧ ofDecimal? decimal = none) ∨
      ∃ numerator denominator : Nat, 0 < denominator ∧
        decimal.magnitude = numerator / denominator ∧
        ofDecimal? decimal = ofQuotient? decimal.negative numerator denominator := by
  by_cases zero : decimal.digits = 0
  · refine .inl ⟨?_, by rw [ofDecimal?, if_pos zero]⟩
    rw [Decimal.magnitude, zero, Nat.cast_zero, zero_mul, inUnits, zero_mul, mul_zero]
    norm_num
  obtain ⟨above, below⟩ := magnitude_bounds zero
  by_cases huge : 400 < decimal.exponent + digitCount decimal.digits
  · refine .inr (.inl ⟨lt_inUnits_of_pow_le huge above, ?_⟩)
    rw [ofDecimal?, if_neg zero]
    exact if_pos huge
  by_cases tiny : decimal.exponent + digitCount decimal.digits < -400
  · refine .inl ⟨inUnits_lt_of_lt_pow tiny below, ?_⟩
    rw [ofDecimal?, if_neg zero]
    exact (if_neg huge).trans (if_pos tiny)
  · exact .inr (.inr (exists_quotient zero (not_lt.mp tiny) (not_lt.mp huge)))

/-- A decimal is rounded to a double of its sign that attracts its magnitude. -/
theorem attracts_of_ofDecimal? (found : ofDecimal? decimal = some x) :
    x.negative = decimal.negative ∧ x.Attracts decimal.magnitude := by
  rcases ofDecimal?_cases decimal with ⟨small, same⟩ | ⟨_, same⟩ | ⟨_, _, positive, quotient, same⟩
  · cases same.symm.trans found
    exact ⟨rfl, attracts_zero _ (magnitude_nonneg decimal) small.le⟩
  · cases same.symm.trans found
  · rw [quotient]
    exact attracts_of_ofQuotient? positive (same.symm.trans found)

/-- A decimal has no double exactly if its magnitude is at least halfway beyond the largest one. -/
theorem ofDecimal?_eq_none_iff (decimal : Decimal) :
    ofDecimal? decimal = none ↔ 2 ^ 1024 - 2 ^ 970 ≤ decimal.magnitude := by
  rcases ofDecimal?_cases decimal with
    ⟨small, same⟩ | ⟨large, same⟩ | ⟨_, _, positive, quotient, same⟩
  · have attracts := attracts_zero decimal.negative (magnitude_nonneg decimal) small.le
    rw [same]
    exact iff_of_false nofun (not_le.mpr attracts.lt_limit)
  · rw [same, ← inUnits_le_iff, inUnits_limit]
    refine iff_of_true rfl (le_trans ?_ large.le)
    calc ((2 : ℚ) ^ 54 - 1) * 2 ^ 2044 ≤ 2 ^ 54 * 2 ^ 2044 :=
          mul_le_mul_of_nonneg_right (by norm_num) (by positivity)
      _ = 2 ^ 53 * 2 ^ 2045 := by rw [← pow_add, ← pow_add]
  · rw [same, quotient]
    exact ofQuotient?_eq_none_iff positive

end Decimals

end Binary64

end ColumnSearch
