import JsonSchema.Multiple
import JsonSchema.Proofs.Numbers.Rounding
import Mathlib.Data.Rat.Floor
import Mathlib.Tactic.Linarith
import Mathlib.Tactic.Positivity

set_option autoImplicit false

/-! The steps of the test for multiples, over exact fractions. What the steps keep of a value are twice as many
decimal places as the divisor has; up to these they tell the multiples from all other values. The main
statement is `isMultiple_exact`. -/

namespace JsonSchema

namespace Arithmetic

def Multiple (divisor value : ℚ) : Prop := ∃ factor : ℤ, value = factor * divisor

/-- The nearest integer, a half away from zero. -/
def roundAway (value : ℚ) : ℤ :=
  if 0 ≤ value then ⌊value + 1 / 2⌋ else ⌈value - 1 / 2⌉

def truncate (value : ℚ) : ℤ :=
  if 0 ≤ value then ⌊value⌋ else ⌈value⌉

def remainder (divisor value : ℚ) : ℚ := value - divisor * truncate (value / divisor)

/-- Fractions, on which every step is exact. Nothing is divided evenly by zero. -/
def exact : Arithmetic ℚ where
  powerOfTen := fun exponent => 10 ^ exponent
  mul := fun left right => left * right
  div := fun left right => left / right
  round := fun value => roundAway value
  dividesEvenly := fun divisor value => decide (divisor ≠ 0 ∧ remainder divisor value = 0)

@[simp] theorem roundAway_intCast (value : ℤ) : roundAway value = value := by
  unfold roundAway
  split
  · rw [Int.floor_eq_iff]
    constructor <;> linarith
  · rw [Int.ceil_eq_iff]
    constructor <;> linarith

@[simp] theorem truncate_intCast (value : ℤ) : truncate value = value := by
  unfold truncate
  split
  next => exact Int.floor_intCast value
  next => exact Int.ceil_intCast value

private theorem abs_roundAway_sub_le (value : ℚ) : |(roundAway value : ℚ) - value| ≤ 1 / 2 := by
  unfold roundAway
  rw [abs_le]
  split
  · have below := Int.floor_le (value + 1 / 2)
    have above := Int.lt_floor_add_one (value + 1 / 2)
    constructor <;> linarith
  · have below := Int.le_ceil (value - 1 / 2)
    have above := Int.ceil_lt_add_one (value - 1 / 2)
    constructor <;> linarith

section Divisor

variable {divisor value : ℚ}

private theorem remainder_eq_zero_iff (nonzero : divisor ≠ 0) :
    remainder divisor value = 0 ↔ Multiple divisor value := by
  unfold remainder
  rw [sub_eq_zero]
  constructor
  · intro isProduct
    exact ⟨truncate (value / divisor), isProduct.trans (mul_comm _ _)⟩
  · rintro ⟨factor, rfl⟩
    rw [mul_div_cancel_right₀ _ nonzero, truncate_intCast, mul_comm]

private theorem dividesEvenly_exact_iff (nonzero : divisor ≠ 0) :
    exact.dividesEvenly divisor value = true ↔ Multiple divisor value := by
  change decide (divisor ≠ 0 ∧ remainder divisor value = 0) = true ↔ _
  rw [decide_eq_true_iff, and_iff_right nonzero, remainder_eq_zero_iff nonzero]

private theorem multiple_mul_iff {scale : ℚ} (nonzero : scale ≠ 0) :
    Multiple (divisor * scale) (value * scale) ↔ Multiple divisor value := by
  refine exists_congr fun factor => ?_
  rw [← mul_assoc]
  exact mul_left_inj' nonzero

end Divisor

def roundTo (places : ℕ) (value : ℚ) : ℚ := roundAway (value * 10 ^ places) / 10 ^ places

private theorem scale_ne_zero (places : ℕ) : (10 : ℚ) ^ places ≠ 0 := pow_ne_zero _ (by norm_num)

private theorem roundTo_of_decimal {places : ℕ} {value : ℚ} {digits : ℤ}
    (decimal : value * 10 ^ places = digits) : roundTo places value = value := by
  rw [roundTo, decimal, roundAway_intCast, ← decimal, mul_div_cancel_right₀ _ (scale_ne_zero places)]

private theorem abs_roundTo_sub_le (places : ℕ) (value : ℚ) :
    |roundTo places value - value| ≤ 1 / 2 / 10 ^ places := by
  have positive : (0 : ℚ) < 10 ^ places := by positivity
  have scaled : roundTo places value - value =
      (roundAway (value * 10 ^ places) - value * 10 ^ places) / 10 ^ places := by
    rw [roundTo, sub_div, mul_div_cancel_right₀ _ (scale_ne_zero places)]
  rw [scaled, abs_div, abs_of_pos positive]
  exact div_le_div_of_nonneg_right (abs_roundAway_sub_le _) positive.le

section Steps

variable {places : ℕ} {divisor value : ℚ} {digits : ℤ}

/-- With decimal places in the divisor, a value is first rounded to twice as many. -/
theorem isMultiple_of_places (positive : 0 < places) (nonzero : divisor ≠ 0)
    (decimal : divisor * 10 ^ places = digits) :
    exact.isMultiple places divisor value = true ↔ Multiple divisor (roundTo (2 * places) value) := by
  have scaled : roundTo (2 * places) value * 10 ^ places =
      roundAway (value * 10 ^ places * 10 ^ places) / 10 ^ places := by
    rw [roundTo, two_mul, pow_add, ← mul_assoc, ← div_div, div_mul_cancel₀ _ (scale_ne_zero places)]
  rw [isMultiple, if_pos positive]
  change exact.dividesEvenly (roundAway (divisor * 10 ^ places))
    (roundAway (value * 10 ^ places * 10 ^ places) / 10 ^ places) = true ↔ _
  rw [decimal, roundAway_intCast, ← decimal, ← scaled,
    dividesEvenly_exact_iff (mul_ne_zero nonzero (scale_ne_zero places)),
    multiple_mul_iff (scale_ne_zero places)]

private theorem isMultiple_of_no_places (none : places = 0) (nonzero : divisor ≠ 0) :
    exact.isMultiple places divisor value = true ↔ Multiple divisor value := by
  subst none
  exact dividesEvenly_exact_iff nonzero

/-- A value with at most twice the places of the divisor is not changed by the rounding. -/
theorem isMultiple_of_decimal {written : ℤ} (nonzero : divisor ≠ 0)
    (decimal : divisor * 10 ^ places = digits) (few : value * 10 ^ (2 * places) = written) :
    exact.isMultiple places divisor value = true ↔ Multiple divisor value := by
  obtain none | positive := Nat.eq_zero_or_pos places
  · exact isMultiple_of_no_places none nonzero
  · rw [isMultiple_of_places positive nonzero decimal, roundTo_of_decimal few]

theorem Multiple.decimal (multiple : Multiple divisor value)
    (decimal : divisor * 10 ^ places = digits) :
    ∃ written : ℤ, value * 10 ^ (2 * places) = written := by
  obtain ⟨factor, rfl⟩ := multiple
  refine ⟨factor * digits * 10 ^ places, ?_⟩
  push_cast
  rw [← decimal, two_mul, pow_add]
  ring

end Steps

/-- What the steps tell of a divisor that has so many decimal places. Without any they tell just the multiples;
with some they tell the values that are multiples once they are rounded to twice as many places. So every
multiple is accepted, a value that is written with at most so many places is accepted only if it is a
multiple, and any other that is accepted is next to one. -/
theorem isMultiple_exact {places : ℕ} {divisor : ℚ} {digits : ℤ} (nonzero : divisor ≠ 0)
    (decimal : divisor * 10 ^ places = digits) (value : ℚ) :
    (places = 0 → (exact.isMultiple places divisor value = true ↔ Multiple divisor value)) ∧
    (0 < places →
      (exact.isMultiple places divisor value = true ↔
        Multiple divisor (roundTo (2 * places) value))) ∧
    (Multiple divisor value → exact.isMultiple places divisor value = true) ∧
    (∀ written : ℤ, value * 10 ^ (2 * places) = written →
      (exact.isMultiple places divisor value = true ↔ Multiple divisor value)) ∧
    (exact.isMultiple places divisor value = true →
      ∃ factor : ℤ, |factor * divisor - value| ≤ 1 / 2 / 10 ^ (2 * places)) := by
  refine ⟨fun none => isMultiple_of_no_places none nonzero,
    fun positive => isMultiple_of_places positive nonzero decimal, ?_,
    fun written few => isMultiple_of_decimal nonzero decimal few, ?_⟩
  · intro multiple
    obtain ⟨written, few⟩ := multiple.decimal decimal
    exact (isMultiple_of_decimal nonzero decimal few).mpr multiple
  · intro accepted
    obtain none | positive := Nat.eq_zero_or_pos places
    · obtain ⟨factor, isProduct⟩ := (isMultiple_of_no_places none nonzero).mp accepted
      refine ⟨factor, ?_⟩
      rw [← isProduct, sub_self, abs_zero]
      positivity
    · obtain ⟨factor, isProduct⟩ := (isMultiple_of_places positive nonzero decimal).mp accepted
      exact ⟨factor, isProduct ▸ abs_roundTo_sub_le _ value⟩

/-- `18.15` is a multiple of `0.01`, and `18.151` is not. -/
theorem isMultiple_exact_hundredths :
    exact.isMultiple 2 (1 / 100) (1815 / 100) = true ∧
      exact.isMultiple 2 (1 / 100) (18151 / 1000) ≠ true := by
  have nonzero : (1 / 100 : ℚ) ≠ 0 := by norm_num
  have decimal : (1 / 100 : ℚ) * 10 ^ 2 = (1 : ℤ) := by norm_num
  constructor
  · obtain ⟨-, -, accepted, -⟩ := isMultiple_exact nonzero decimal (1815 / 100)
    exact accepted ⟨1815, by norm_num⟩
  · obtain ⟨-, -, -, few, -⟩ := isMultiple_exact nonzero decimal (18151 / 1000)
    rw [ne_eq, few 181510 (by norm_num)]
    rintro ⟨factor, isProduct⟩
    have scaled : (18151 : ℤ) = 10 * factor := by
      have : (18151 : ℚ) = 10 * factor := by linarith
      exact_mod_cast this
    omega

/-- `0.1001` is accepted as a multiple of `0.1`: rounded to two places it is `0.10`. The steps over doubles
accept it too. -/
theorem isMultiple_beyond_places :
    exact.isMultiple 1 (1 / 10) (1001 / 10000) = true ∧ ¬ Multiple (1 / 10) (1001 / 10000) ∧
      let tenth : Binary64 := ⟨false, 0x1999999999999A, 1018, by decide, by decide, .inr (by decide)⟩
      let beyond : Binary64 := ⟨false, 0x19A027525460AA, 1018, by decide, by decide, .inr (by decide)⟩
      (Divisor.ofBinary64 tenth).divides beyond = true := by
  refine ⟨by decide +kernel, ?_, by decide +kernel⟩
  rintro ⟨factor, isProduct⟩
  have scaled : (1001 : ℤ) = 1000 * factor := by
    have : (1001 : ℚ) = 1000 * factor := by linarith
    exact_mod_cast this
  omega

end Arithmetic

/-- A divisor without decimal places divides just the doubles that are a multiple of it. -/
theorem Divisor.divides_iff_of_no_places {divisor : Divisor} (none : divisor.places = 0)
    (value : Binary64) :
    divisor.divides value = true ↔ divisor.value.units ≠ 0 ∧ divisor.value.units ∣ value.units := by
  obtain ⟨number, places⟩ := divisor
  subst none
  change number.dividesEvenly value = true ↔ _
  rw [Binary64.dividesEvenly, decide_eq_true_iff, ← Int.natAbs_dvd_natAbs, ← Int.natAbs_ne_zero,
    Binary64.natAbs_units, Binary64.natAbs_units, Nat.dvd_iff_mod_eq_zero]
  simp only [Binary64.magnitude, Nat.shiftLeft_eq]

end JsonSchema
