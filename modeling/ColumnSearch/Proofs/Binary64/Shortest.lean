import ColumnSearch.Binary64.Shortest
import ColumnSearch.Proofs.Binary64.Rounding
import Mathlib.Tactic.FieldSimp

/-!
# The shortest decimal of a double reads back

The decimal that names a double lies in the interval that the double attracts. Such a decimal is
always found: seventeen digits make the grid of decimals finer than the interval is wide.
-/

namespace ColumnSearch.Binary64

variable {x : Binary64}

/-- A quarter of the least place of the significand, in units. -/
def place (x : Binary64) : Nat :=
  2 ^ x.scale * 10 ^ finest

private theorem place_pos (x : Binary64) : 0 < x.place :=
  Nat.mul_pos (Nat.two_pow_pos _) (Nat.pow_pos (by decide))

private theorem units_eq (x : Binary64) (quarters : Nat) :
    x.units quarters = quarters * x.place := by
  rw [units, Nat.pow_eq, Nat.shiftLeft_eq, place, Nat.mul_assoc]

private theorem value_eq (x : Binary64) : x.value = 4 * x.significand * x.place :=
  x.units_eq _

private theorem upper_eq (x : Binary64) : x.upper = (4 * x.significand + 2) * x.place :=
  x.units_eq _

private theorem lower_eq (x : Binary64) (significant : x.significand ≠ 0) :
    x.lower + x.slack * x.place = 4 * x.significand * x.place := by
  have least := Nat.pos_of_ne_zero significant
  unfold lower slack
  split
  · rw [units_eq, ← Nat.add_mul, Nat.sub_add_cancel (by omega)]
  · rw [units_eq, ← Nat.add_mul, Nat.sub_add_cancel (by omega)]

private theorem unitsPerFinest_eq : (unitsPerFinest : ℚ) = 4 * 2 ^ 1074 := by
  have count : unitsPerFinest = 4 * 2 ^ 1074 := by decide +kernel
  rw [count, Nat.cast_mul, Nat.cast_pow, Nat.cast_ofNat, Nat.cast_ofNat]

private theorem quarters_units (x : Binary64) (n : Nat) :
    x.quarters (n / (unitsPerFinest * 10 ^ finest)) = n / (x.place : Nat) := by
  have unit : (2 : ℚ) ^ 1074 ≠ 0 := by positivity
  rw [quarters, inUnits, unitsPerFinest_eq, place, Nat.cast_mul, Nat.cast_pow, Nat.cast_pow,
    Nat.cast_ofNat, Nat.cast_ofNat]
  generalize (2 : ℚ) ^ 1074 = unit at *
  field_simp

/-- A number of units rounds to the double exactly if the double attracts what it counts. -/
theorem reads_iff_attracts (significant : x.significand ≠ 0) (n : Nat) :
    x.reads n = true ↔ x.Attracts (n / (unitsPerFinest * 10 ^ finest)) := by
  have lower := x.lower_eq significant
  rw [attracts_iff x.place_pos (x.quarters_units n), reads, upper_eq]
  rw [← lower]
  split
  · rename_i even
    simp only [Bool.and_eq_true, decide_eq_true_eq, Nat.add_le_add_iff_right,
      even, Nat.zero_ne_one, false_implies, and_true]
  · rename_i odd
    simp only [Bool.and_eq_true, decide_eq_true_eq, Nat.add_le_add_iff_right,
      Nat.add_lt_add_iff_right, Nat.mod_two_ne_zero.mp odd, true_implies]
    omega

private theorem reads_of_lt {n : Nat} (above : x.lower < n) (below : n < x.upper) :
    x.reads n = true := by
  unfold reads
  split
  · rw [Bool.and_eq_true, decide_eq_true_eq, decide_eq_true_eq]
    exact ⟨above.le, below.le⟩
  · rw [Bool.and_eq_true, decide_eq_true_eq, decide_eq_true_eq]
    exact ⟨above, below⟩

/-- A multiple of a step that names the double rounds to it. -/
theorem reads_of_onGrid? {step digits : Nat} (found : x.onGrid? step = some digits) :
    x.reads (digits * step) = true := by
  unfold onGrid? at found
  dsimp only at found
  split at found
  · cases found
  · cases found
    assumption
  · cases found
    assumption
  · -- Both multiples round to the double, so it does not matter which one is nearer.
    split_ifs at found <;> cases found <;> assumption

private theorem onGrid?_isSome_of_reads {step : Nat}
    (reads : x.reads (x.value / step * step) = true ∨
      x.reads ((x.value / step + 1) * step) = true) : (x.onGrid? step).isSome = true := by
  unfold onGrid?
  dsimp only
  split
  · rename_i below above
    rw [below, above] at reads
    rcases reads with reads | reads <;> cases reads
  · rfl
  · rfl
  · split_ifs <;> rfl

/-- On a grid that is finer than the interval is wide, a decimal names the double: the nearer one of
the two around it. -/
theorem onGrid?_isSome {step : Nat} (significant : x.significand ≠ 0) (positive : 0 < step)
    (fine : 10 ^ 16 * step ≤ x.value) : (x.onGrid? step).isSome = true := by
  have split := Nat.div_add_mod' x.value step
  have remainder := Nat.mod_lt x.value positive
  have lower := x.lower_eq significant
  have upper : x.upper = x.value + 2 * x.place := by rw [upper_eq, value_eq, Nat.add_mul]
  have slack : 2 * x.significand < 10 ^ 16 * x.slack := by
    have fits := x.significand_lt
    unfold Binary64.slack
    split <;> omega
  have wide : 2 * x.value < 10 ^ 16 * (4 * (x.slack * x.place)) := by
    rw [value_eq]
    calc 2 * (4 * x.significand * x.place) = 4 * (2 * x.significand * x.place) := by ring
      _ < 4 * (10 ^ 16 * x.slack * x.place) :=
        Nat.mul_lt_mul_of_pos_left (Nat.mul_lt_mul_of_pos_right slack x.place_pos) (by decide)
      _ = 10 ^ 16 * (4 * (x.slack * x.place)) := by ring
  have ends : x.slack * x.place ≤ 2 * x.place := Nat.mul_le_mul_right _ x.slack_le
  rw [← value_eq] at lower
  apply onGrid?_isSome_of_reads
  rw [Nat.add_mul, Nat.one_mul]
  by_cases nearer : 2 * (x.value % step) ≤ step
  · exact .inl (reads_of_lt (by omega) (by omega))
  · exact .inr (reads_of_lt (by omega) (by omega))

private theorem value_div_large (significant : x.significand ≠ 0) :
    10 ^ 16 ≤ x.value / unitsPerFinest := by
  have unit : 0 < unitsPerFinest := by decide +kernel
  have small : 10 ^ 16 * unitsPerFinest ≤ 4 * 10 ^ finest := by decide +kernel
  have least : 10 ^ finest ≤ x.significand * x.place :=
    Nat.le_trans (Nat.le_mul_of_pos_left _ (Nat.two_pow_pos x.scale))
      (Nat.le_mul_of_pos_left _ (Nat.pos_of_ne_zero significant))
  rw [Nat.le_div_iff_mul_le unit, value_eq, Nat.mul_assoc]
  exact Nat.le_trans small (Nat.mul_le_mul_left 4 least)

/-- With seventeen digits a decimal names the double. -/
theorem withDigits?_seventeen (significant : x.significand ≠ 0) :
    (x.withDigits? 17).isSome = true := by
  have large := value_div_large significant
  have nonzero : x.value / unitsPerFinest ≠ 0 := by omega
  have long : 17 ≤ digitCount (x.value / unitsPerFinest) := by
    by_contra short
    have few : 10 ^ digitCount (x.value / unitsPerFinest) ≤ 10 ^ 16 :=
      Nat.pow_le_pow_right (by decide) (by omega)
    have := lt_pow_digitCount (x.value / unitsPerFinest)
    omega
  have leading : 10 ^ (digitCount (x.value / unitsPerFinest) - 1) ≤ x.value / unitsPerFinest :=
    pow_le_of_lt_digitCount nonzero (by omega)
  unfold withDigits?
  dsimp only
  rw [Option.isSome_map]
  apply onGrid?_isSome significant
  · exact Nat.mul_pos (by decide +kernel) (Nat.pow_pos (by decide))
  · rw [Nat.le_div_iff_mul_le (by decide +kernel)] at leading
    refine Nat.le_trans (Nat.le_of_eq ?_) leading
    rw [Nat.pow_eq, Nat.mul_comm unitsPerFinest, ← Nat.mul_assoc, ← Nat.pow_add]
    congr 2
    omega

/-- Trailing zeros do not change what digits and an exponent denote. -/
theorem magnitude_dropZeros (digits : Nat) (exponent : Int) :
    ((dropZeros digits exponent).1 : ℚ) * 10 ^ (dropZeros digits exponent).2 =
      digits * 10 ^ exponent := by
  fun_induction dropZeros digits exponent with
  | case1 exponent => rfl
  | case2 digits exponent _ trailing ih =>
      have ten : (10 : ℚ) ≠ 0 := by norm_num
      have whole : digits = digits / 10 * 10 := by omega
      rw [ih, zpow_add₀ ten, zpow_one, mul_comm (_ ^ _) 10, ← mul_assoc]
      congr 1
      exact_mod_cast whole.symm
  | case3 digits exponent _ _ => rfl

/-- A decimal with any number of digits that names the double is attracted by it. -/
theorem attracts_of_withDigits? (significant : x.significand ≠ 0) {count digits : Nat}
    {exponent : Int} (found : x.withDigits? count = some (digits, exponent)) :
    x.Attracts (digits * 10 ^ exponent) := by
  unfold withDigits? at found
  obtain ⟨multiple, named, dropped⟩ := Option.map_eq_some_iff.mp found
  have attracts := (reads_iff_attracts significant _).mp (reads_of_onGrid? named)
  have ten : (10 : ℚ) ≠ 0 := by norm_num
  have unit : (unitsPerFinest : ℚ) ≠ 0 := by
    rw [unitsPerFinest_eq]
    positivity
  have same := magnitude_dropZeros multiple
    ((digitCount (x.value / unitsPerFinest) - count : Nat) - finest)
  rw [dropped] at same
  rw [same, zpow_sub₀ ten, zpow_natCast, zpow_natCast]
  convert attracts using 1
  rw [Nat.pow_eq, Nat.cast_mul, Nat.cast_mul, Nat.cast_pow, Nat.cast_ofNat]
  field_simp

/-- The double attracts its shortest decimal. -/
theorem attracts_shortest (significant : x.significand ≠ 0) :
    x.Attracts (x.shortest.1 * 10 ^ x.shortest.2) := by
  have present : ((List.range' 1 17).findSome? x.withDigits?).isSome = true := by
    rw [List.findSome?_isSome_iff]
    exact ⟨17, by decide, withDigits?_seventeen significant⟩
  obtain ⟨⟨digits, exponent⟩, found⟩ := Option.isSome_iff_exists.mp present
  obtain ⟨count, _, named⟩ := List.exists_of_findSome?_eq_some found
  have shortest : x.shortest = (digits, exponent) := by
    rw [shortest, if_neg significant, found, Option.getD_some]
  rw [shortest]
  exact attracts_of_withDigits? significant named

/-- The shortest digits of a double other than zero are not zero. -/
theorem shortest_digits_ne_zero (significant : x.significand ≠ 0) : x.shortest.1 ≠ 0 := by
  intro zero
  have least := (attracts_shortest significant).le_inUnits significant
  rw [zero, Nat.cast_zero, zero_mul, inUnits, zero_mul, mul_zero] at least
  exact absurd least (by norm_num)

/-- The double of significand zero is the zero of its sign. -/
theorem eq_zero_of_significand_eq_zero (insignificant : x.significand = 0) :
    x = zero x.negative := by
  obtain ⟨negative, significand, scale, _, _, normal⟩ := x
  cases insignificant
  cases normal.resolve_right (by decide)
  rfl

/-- A decimal of the sign of the double and the magnitude of its shortest decimal is rounded to
it. -/
theorem ofDecimal?_shortest {decimal : Decimal} (sign : decimal.negative = x.negative)
    (magnitude : decimal.magnitude = x.shortest.1 * 10 ^ x.shortest.2) :
    ofDecimal? decimal = some x := by
  by_cases significant : x.significand = 0
  · have none : decimal.digits = 0 := by
      have ten : (10 : ℚ) ^ decimal.exponent ≠ 0 := zpow_ne_zero _ (by norm_num)
      rw [shortest, if_pos significant, Nat.cast_zero, zero_mul, Decimal.magnitude] at magnitude
      exact_mod_cast (mul_eq_zero.mp magnitude).resolve_right ten
    rw [ofDecimal?, if_pos none, sign, ← eq_zero_of_significand_eq_zero significant]
  · apply ofDecimal?_of_attracts sign significant
    rw [magnitude]
    exact attracts_shortest significant

end ColumnSearch.Binary64
