import Mathlib.Algebra.Group.Nat.Defs
import JsonSchema.Binary64

set_option autoImplicit false

/-! Rounding a quotient of units to a double. At the scale where the quotient has 53 bits the doubles are
whole multiples of a power of two, and the nearest multiple is chosen. A double on a finer scale lies
below the power of two that the quotient reaches, so no double is nearer than the chosen one. -/

namespace JsonSchema

private theorem roundHalfEven_cases (numerator denominator : Nat) :
    (roundHalfEven numerator denominator = numerator / denominator ∧
      (2 * (numerator % denominator) < denominator ∨
        2 * (numerator % denominator) = denominator ∧ numerator / denominator % 2 = 0)) ∨
    (roundHalfEven numerator denominator = numerator / denominator + 1 ∧
      (denominator < 2 * (numerator % denominator) ∨
        2 * (numerator % denominator) = denominator ∧ numerator / denominator % 2 = 1)) := by
  simp only [roundHalfEven]
  split
  next => omega
  next =>
    split
    next => omega
    next => split <;> omega

section Multiples

variable {numerator denominator : Nat}

/-- The error is at most half of the denominator, and in the middle the even neighbour is taken. -/
theorem roundHalfEven_error (numerator : Nat) (positive : 0 < denominator) :
    2 * ((roundHalfEven numerator denominator * denominator : Int) - numerator).natAbs ≤ denominator ∧
      (2 * ((roundHalfEven numerator denominator * denominator : Int) - numerator).natAbs =
          denominator → roundHalfEven numerator denominator % 2 = 0) := by
  have divided := Nat.div_add_mod' numerator denominator
  have small := Nat.mod_lt numerator positive
  have next := Nat.add_one_mul (numerator / denominator) denominator
  rw [← Int.natCast_mul]
  obtain ⟨rounded, down⟩ | ⟨rounded, up⟩ := roundHalfEven_cases numerator denominator
  · rw [rounded]
    omega
  · rw [rounded]
    omega

/-- No multiple of the denominator is nearer. One as near as the rounded one is a neighbour of it,
and the rounded one is then the even of the two. -/
theorem roundHalfEven_nearest (numerator : Nat) (positive : 0 < denominator) (multiple : Int) :
    ((roundHalfEven numerator denominator * denominator : Int) - numerator).natAbs ≤
        (multiple * denominator - numerator).natAbs ∧
      (((roundHalfEven numerator denominator * denominator : Int) - numerator).natAbs =
          (multiple * denominator - numerator).natAbs →
        multiple = roundHalfEven numerator denominator ∨
          (roundHalfEven numerator denominator % 2 = 0 ∧ multiple % 2 = 1)) := by
  obtain ⟨error, even⟩ := roundHalfEven_error numerator positive
  generalize roundHalfEven numerator denominator = rounded at *
  obtain ⟨gap, rfl⟩ : ∃ gap : Int, multiple = rounded + gap := ⟨multiple - rounded, by omega⟩
  have far : (gap * denominator).natAbs = gap.natAbs * denominator := by
    rw [Int.natAbs_mul, Int.natAbs_natCast]
  rw [Int.add_mul]
  generalize (rounded : Int) * denominator = centre at *
  generalize gap * denominator = shift at *
  match steps : gap.natAbs with
  | 0 =>
      rw [steps, Nat.zero_mul] at far
      omega
  | 1 =>
      rw [steps, Nat.one_mul] at far
      omega
  | more + 2 =>
      have wide : 2 * denominator ≤ shift.natAbs := by
        rw [far, steps]
        exact Nat.mul_le_mul_right denominator (Nat.le_add_left 2 more)
      omega

end Multiples

namespace Binary64

def signOf (negative : Bool) : Int := if negative then -1 else 1

@[simp] theorem natAbs_signOf_mul (negative : Bool) (value : Int) :
    (signOf negative * value).natAbs = value.natAbs := by
  cases negative <;> simp [signOf]

@[simp] theorem signOf_mul_signOf_mul (negative : Bool) (value : Int) :
    signOf negative * (signOf negative * value) = value := by
  cases negative <;> simp [signOf]

private theorem signOf_mul_inj (negative : Bool) {left right : Int}
    (same : signOf negative * left = signOf negative * right) : left = right := by
  rw [← signOf_mul_signOf_mul negative left, same, signOf_mul_signOf_mul]

private theorem odd_of_signOf_mul {negative : Bool} {value : Int} (odd : signOf negative * value % 2 = 1) :
    value % 2 = 1 := by
  unfold signOf at odd
  split at odd <;> omega

private theorem units_eq (number : Binary64) :
    number.units = signOf number.negative * (number.significand * 2 ^ number.scale : Nat) := by
  rw [units, magnitude, Nat.shiftLeft_eq, signOf]
  split <;> omega

theorem natAbs_units (number : Binary64) :
    number.units.natAbs = number.significand * 2 ^ number.scale := by
  rw [units_eq, natAbs_signOf_mul, Int.natAbs_natCast]

def roundingScale (numerator denominator : Nat) : Nat := Nat.log2 (numerator / denominator) + 1 - 53

private theorem normalForm?_eq_some {negative : Bool} {significand scale : Nat} {number : Binary64}
    (formed : normalForm? negative significand scale = some number) :
    number.negative = negative ∧ number.significand = significand ∧ number.scale = scale := by
  unfold normalForm? at formed
  split at formed
  next => cases formed; exact ⟨rfl, rfl, rfl⟩
  next => cases formed

private theorem roundUnits?_eq (negative : Bool) (numerator denominator : Nat) :
    roundUnits? negative numerator denominator =
      let scale := roundingScale numerator denominator
      let significand := roundHalfEven numerator (denominator * 2 ^ scale)
      if significand = 0x20000000000000 then normalForm? negative 0x10000000000000 (scale + 1)
      else normalForm? negative significand scale := by
  simp only [← Nat.shiftLeft_eq]
  rfl

variable {negative : Bool} {numerator denominator : Nat} {result : Binary64}

private theorem units_of_roundUnits? (rounds : roundUnits? negative numerator denominator = some result) :
    signOf negative * result.units =
        roundHalfEven numerator (denominator * 2 ^ roundingScale numerator denominator) *
          (2 ^ roundingScale numerator denominator : Nat) ∧
      (roundHalfEven numerator (denominator * 2 ^ roundingScale numerator denominator) % 2 = 0 →
        result.significand % 2 = 0) := by
  rw [roundUnits?_eq] at rounds
  generalize roundingScale numerator denominator = scale at *
  dsimp only at rounds
  rw [units_eq, ← Int.natCast_mul]
  split at rounds
  next carried =>
    obtain ⟨sign, significand, raised⟩ := normalForm?_eq_some rounds
    rw [sign, significand, raised, carried, signOf_mul_signOf_mul, Nat.pow_succ', ← Nat.mul_assoc]
    exact ⟨rfl, fun _ => rfl⟩
  next =>
    obtain ⟨sign, significand, kept⟩ := normalForm?_eq_some rounds
    rw [sign, significand, kept, signOf_mul_signOf_mul]
    exact ⟨rfl, id⟩

/-- A double is a whole multiple of every power of two up to its scale, and an odd multiple only if its
significand is odd. -/
theorem units_eq_mul {number : Binary64} {scale : Nat} (coarse : scale ≤ number.scale) :
    ∃ multiple : Int, number.units = multiple * (2 ^ scale : Nat) ∧
      (multiple % 2 = 1 → number.significand % 2 = 1) := by
  refine ⟨signOf number.negative * (number.significand * 2 ^ (number.scale - scale) : Nat), ?_, ?_⟩
  · rw [units_eq, Int.mul_assoc, ← Int.natCast_mul, Nat.mul_assoc, ← Nat.pow_add,
      Nat.sub_add_cancel coarse]
  · intro odd
    obtain even | odd' := Nat.mod_two_eq_zero_or_one number.significand
    next =>
      have product : number.significand * 2 ^ (number.scale - scale) % 2 = 0 := by
        rw [Nat.mul_mod, even, Nat.zero_mul]
      have := odd_of_signOf_mul odd
      omega
    next => exact odd'

/-- On a finer scale every double is closer to zero than a quotient that needs the scale. -/
theorem units_lt_of_scale_lt {number : Binary64}
    (fine : number.scale < roundingScale numerator denominator) :
    number.units.natAbs < 2 ^ 52 * 2 ^ roundingScale numerator denominator := by
  rw [natAbs_units]
  calc number.significand * 2 ^ number.scale
      < 2 ^ 53 * 2 ^ number.scale :=
        Nat.mul_lt_mul_of_pos_right number.significand_lt (Nat.two_pow_pos _)
    _ = 2 ^ 52 * 2 ^ (number.scale + 1) := by rw [← Nat.pow_add, ← Nat.pow_add]; congr 1; omega
    _ ≤ 2 ^ 52 * 2 ^ roundingScale numerator denominator :=
        Nat.mul_le_mul_left _ (Nat.pow_le_pow_right (by decide) fine)

private theorem le_of_roundingScale (needed : 0 < roundingScale numerator denominator) :
    2 ^ 52 * 2 ^ roundingScale numerator denominator * denominator ≤ numerator := by
  have quotient : numerator / denominator ≠ 0 := by
    intro zero
    simp [roundingScale, zero] at needed
  have power : 2 ^ 52 * 2 ^ roundingScale numerator denominator ≤ numerator / denominator := by
    rw [← Nat.pow_add]
    refine Nat.le_trans (Nat.pow_le_pow_right (by decide) ?_) (Nat.log2_self_le quotient)
    unfold roundingScale at needed ⊢
    omega
  exact Nat.le_trans (Nat.mul_le_mul_right _ power) (Nat.div_mul_le_self numerator denominator)

def distance (number : Binary64) (numerator : Int) (denominator : Nat) : Nat :=
  (number.units * denominator - numerator).natAbs

private theorem distance_eq (number : Binary64) :
    number.distance (signOf negative * numerator) denominator =
      (signOf negative * (number.units * denominator) - numerator).natAbs := by
  rw [distance, ← natAbs_signOf_mul negative, Int.mul_sub, signOf_mul_signOf_mul]

private theorem distance_of_units {number : Binary64} {multiple : Int} {scale : Nat}
    (units : signOf negative * number.units = multiple * (2 ^ scale : Nat)) :
    number.distance (signOf negative * numerator) denominator =
      (multiple * (denominator * 2 ^ scale : Nat) - numerator).natAbs := by
  rw [distance_eq, ← Int.mul_assoc, units, Int.mul_assoc, ← Int.natCast_mul, Nat.mul_comm denominator]

/-- A double on a finer scale lies below the power of two that the quotient reaches, and is farther
from the quotient than this power is. -/
theorem lt_distance_of_scale_lt {number : Binary64} (negative : Bool) (positive : 0 < denominator)
    (fine : number.scale < roundingScale numerator denominator) :
    ((2 ^ 52 : Nat) * (denominator * 2 ^ roundingScale numerator denominator : Nat) -
        numerator : Int).natAbs < number.distance (signOf negative * numerator) denominator := by
  have reached := le_of_roundingScale (Nat.zero_lt_of_lt fine)
  have below := Nat.mul_lt_mul_of_pos_right (units_lt_of_scale_lt fine) positive
  rw [Nat.mul_assoc, Nat.mul_comm (2 ^ _) denominator] at reached below
  have size : (signOf negative * (number.units * denominator)).natAbs =
      number.units.natAbs * denominator := by
    rw [natAbs_signOf_mul, Int.natAbs_mul, Int.natAbs_natCast]
  rw [distance_eq, ← Int.natCast_mul]
  omega

/-- No double is nearer to a quotient than the one it is rounded to. Another as near has an odd
significand, and the rounded one an even one. -/
theorem distance_roundUnits?_le (positive : 0 < denominator)
    (rounds : roundUnits? negative numerator denominator = some result) (other : Binary64) :
    result.distance (signOf negative * numerator) denominator ≤
        other.distance (signOf negative * numerator) denominator ∧
      (result.distance (signOf negative * numerator) denominator =
          other.distance (signOf negative * numerator) denominator →
        other.units = result.units ∨ (result.significand % 2 = 0 ∧ other.significand % 2 = 1)) := by
  obtain ⟨units, even⟩ := units_of_roundUnits? rounds
  have spaced : 0 < denominator * 2 ^ roundingScale numerator denominator :=
    Nat.mul_pos positive (Nat.two_pow_pos _)
  have nearest := roundHalfEven_nearest numerator spaced
  rw [distance_of_units units]
  obtain coarse | fine := Nat.lt_or_ge other.scale (roundingScale numerator denominator) |>.symm
  next =>
    obtain ⟨multiple, isMultiple, odd⟩ := units_eq_mul coarse
    have oriented := congrArg (signOf negative * ·) isMultiple
    simp only [← Int.mul_assoc] at oriented
    rw [distance_of_units oriented]
    refine ⟨(nearest _).1, fun same => ?_⟩
    obtain agree | ⟨atEven, atOdd⟩ := (nearest _).2 same
    · exact Or.inl (signOf_mul_inj negative (by rw [oriented, agree, units]))
    · exact Or.inr ⟨even atEven, odd (odd_of_signOf_mul atOdd)⟩
  next =>
    have farther := Nat.lt_of_le_of_lt (nearest (2 ^ 52 : Nat)).1
      (lt_distance_of_scale_lt negative positive fine)
    exact ⟨Nat.le_of_lt farther, fun same => absurd same (Nat.ne_of_lt farther)⟩

/-- The double that stands for a quotient of units: none is nearer, and of two as near it is the one
with the even significand. -/
structure IsNearest (number : Binary64) (numerator : Int) (denominator : Nat) : Prop where
  nearest : ∀ other : Binary64,
    number.distance numerator denominator ≤ other.distance numerator denominator
  even : ∀ other : Binary64,
    number.distance numerator denominator = other.distance numerator denominator →
      other.units = number.units ∨ number.significand % 2 = 0

private theorem significand_eq_of_scale_le {left right : Binary64} (same : left.units = right.units)
    (le : left.scale ≤ right.scale) : left.significand = right.significand := by
  obtain ⟨extra, raised⟩ := Nat.exists_eq_add_of_le le
  have sizes := congrArg Int.natAbs same
  rw [natAbs_units, natAbs_units, raised, Nat.pow_add, Nat.mul_comm (2 ^ left.scale),
    ← Nat.mul_assoc] at sizes
  have significands := Nat.eq_of_mul_eq_mul_right (Nat.two_pow_pos _) sizes
  cases extra with
  | zero => rwa [Nat.pow_zero, Nat.mul_one] at significands
  | succ extra =>
      -- A raised scale means a full significand, and the other one would be twice as large at least.
      have full : 0x10000000000000 ≤ right.significand :=
        right.normal.resolve_left (by omega)
      have doubled : right.significand * 2 ≤ right.significand * 2 ^ (extra + 1) :=
        Nat.mul_le_mul_left _ (Nat.le_self_pow (Nat.succ_ne_zero extra) 2)
      have bound := left.significand_lt
      omega

private theorem significand_eq_of_units {left right : Binary64} (same : left.units = right.units) :
    left.significand = right.significand := by
  obtain le | ge := Nat.le_total left.scale right.scale
  · exact significand_eq_of_scale_le same le
  · exact (significand_eq_of_scale_le same.symm ge).symm

theorem isNearest_of_eq {number : Binary64} {numerator : Int} (positive : 0 < denominator)
    (exact : number.units * denominator = numerator) : number.IsNearest numerator denominator where
  nearest other := by
    rw [distance, exact, Int.sub_self]
    exact Nat.zero_le _
  even other same := by
    rw [distance, exact, Int.sub_self, distance] at same
    have agree : other.units * denominator = number.units * denominator := by omega
    exact Or.inl (Int.eq_of_mul_eq_mul_right (by omega) agree)

private theorem isNearest_iff (positive : 0 < denominator)
    (rounds : roundUnits? negative numerator denominator = some result) (number : Binary64) :
    number.IsNearest (signOf negative * numerator) denominator ↔ number.units = result.units := by
  have closest := distance_roundUnits?_le positive rounds
  constructor
  · intro nearest
    have tie := Nat.le_antisymm (closest number).1 (nearest.nearest result)
    obtain same | ⟨-, odd⟩ := (closest number).2 tie
    · exact same
    · exact ((nearest.even result tie.symm).resolve_right (by omega)).symm
  · intro same
    have alike : number.distance (signOf negative * numerator) denominator =
        result.distance (signOf negative * numerator) denominator := by
      rw [distance, distance, same]
    rw [← same] at closest
    constructor
    · intro other
      rw [alike]
      exact (closest other).1
    · intro other tie
      rw [alike] at tie
      rw [significand_eq_of_units same]
      exact (closest other).2 tie |>.imp_right And.left

private theorem units_eq_of_dvd (positive : 0 < denominator)
    (rounds : roundUnits? negative numerator denominator = some result)
    (divides : denominator * 2 ^ roundingScale numerator denominator ∣ numerator) :
    result.units * denominator = signOf negative * numerator := by
  obtain ⟨multiple, isMultiple⟩ := divides
  have spaced : 0 < denominator * 2 ^ roundingScale numerator denominator :=
    Nat.mul_pos positive (Nat.two_pow_pos _)
  have error := (roundHalfEven_nearest numerator spaced multiple).1
  have target : (multiple : Int) * (denominator * 2 ^ roundingScale numerator denominator : Nat) =
      numerator := by rw [← Int.natCast_mul, Nat.mul_comm, ← isMultiple]
  rw [target, Int.sub_self, Int.natAbs_zero] at error
  apply signOf_mul_inj negative
  rw [← Int.mul_assoc, (units_of_roundUnits? rounds).1, signOf_mul_signOf_mul, Int.mul_assoc,
    ← Int.natCast_mul, Nat.mul_comm _ denominator]
  omega

private theorem roundHalfEven_bounds (numerator : Nat) (positive : 0 < denominator) :
    roundHalfEven numerator (denominator * 2 ^ roundingScale numerator denominator) ≤ 2 ^ 53 ∧
      (roundingScale numerator denominator = 0 ∨
        2 ^ 52 ≤ roundHalfEven numerator (denominator * 2 ^ roundingScale numerator denominator)) := by
  have below : numerator / denominator < 2 ^ 53 * 2 ^ roundingScale numerator denominator := by
    rw [← Nat.pow_add]
    refine Nat.lt_of_lt_of_le Nat.lt_log2_self (Nat.pow_le_pow_right (by decide) ?_)
    unfold roundingScale
    omega
  have upper : numerator / (denominator * 2 ^ roundingScale numerator denominator) < 2 ^ 53 := by
    rw [← Nat.div_div_eq_div_mul]
    exact Nat.div_lt_of_lt_mul (by rwa [Nat.mul_comm])
  have lower : roundingScale numerator denominator = 0 ∨
      2 ^ 52 ≤ numerator / (denominator * 2 ^ roundingScale numerator denominator) := by
    obtain none | needed := Nat.eq_zero_or_pos (roundingScale numerator denominator)
    · exact Or.inl none
    · refine Or.inr ((Nat.le_div_iff_mul_le (Nat.mul_pos positive (Nat.two_pow_pos _))).mpr ?_)
      rw [Nat.mul_comm denominator, ← Nat.mul_assoc]
      exact le_of_roundingScale needed
  obtain ⟨rounded, -⟩ | ⟨rounded, -⟩ := roundHalfEven_cases numerator
    (denominator * 2 ^ roundingScale numerator denominator)
  all_goals
    rw [rounded]
    omega

private theorem roundUnits?_isSome (negative : Bool) (positive : 0 < denominator)
    (finite : roundingScale numerator denominator < 2045) :
    ∃ result, roundUnits? negative numerator denominator = some result := by
  obtain ⟨upper, lower⟩ := roundHalfEven_bounds numerator positive
  rw [roundUnits?_eq]
  dsimp only
  split
  next => exact ⟨_, dif_pos ⟨by decide, finite, Or.inr (Nat.le_refl _)⟩⟩
  next unlike => exact ⟨_, dif_pos ⟨by omega, Nat.le_of_lt finite, lower⟩⟩

section Integers

variable {value : Int} {rounded : Binary64}

private theorem unitsPerOne_eq : unitsPerOne = 2 ^ 1074 := by decide +kernel

theorem unitsPerOne_pos : 0 < unitsPerOne := by decide +kernel

private theorem roundingScale_le {magnitude bits : Nat} (bound : magnitude < 2 ^ bits) (wide : 53 ≤ bits) :
    roundingScale (magnitude * unitsPerOne) 1 ≤ bits + 1074 - 53 := by
  have small : magnitude * unitsPerOne < 2 ^ (bits + 1074) := by
    rw [pow_add, ← unitsPerOne_eq]
    exact Nat.mul_lt_mul_of_pos_right bound unitsPerOne_pos
  unfold roundingScale
  rw [Nat.div_one]
  obtain zero | nonzero := Nat.eq_zero_or_pos (magnitude * unitsPerOne)
  · rw [zero]
    exact Nat.zero_le _
  · have := (Nat.log2_lt (Nat.ne_of_gt nonzero)).mpr small
    omega

private theorem signOf_mul_natAbs (value : Int) :
    signOf (decide (value < 0)) * (value.natAbs * unitsPerOne : Nat) = value * unitsPerOne := by
  rw [Int.natCast_mul, ← Int.mul_assoc]
  congr 1
  unfold signOf
  split
  next below =>
    have := of_decide_eq_true below
    omega
  next above =>
    have := of_decide_eq_false (Bool.eq_false_iff.mpr above)
    omega

theorem ofInt?_isSome (value : Int) (inRange : value.natAbs < 2 ^ 65) :
    ∃ rounded, ofInt? value = some rounded :=
  roundUnits?_isSome _ Nat.one_pos
    (Nat.lt_of_le_of_lt (roundingScale_le inRange (by decide)) (by decide))

theorem isNearest_ofInt?_iff (rounds : ofInt? value = some rounded) (number : Binary64) :
    number.IsNearest (value * unitsPerOne) 1 ↔ number.units = rounded.units := by
  rw [← signOf_mul_natAbs]
  exact isNearest_iff Nat.one_pos rounds number

private theorem dvd_unitsPerOne {scale : Nat} (extra : Nat) (le : scale ≤ 1074 + extra) :
    2 ^ scale ∣ unitsPerOne * 2 ^ extra := by
  have power := Nat.pow_dvd_pow 2 le
  rwa [pow_add, ← unitsPerOne_eq] at power

/-- Integers of up to 53 bits, and the power of two behind them, are doubles. -/
theorem units_ofInt? (rounds : ofInt? value = some rounded) (small : value.natAbs ≤ 2 ^ 53) :
    rounded.units = value * unitsPerOne := by
  have divides : 2 ^ roundingScale (value.natAbs * unitsPerOne) 1 ∣ value.natAbs * unitsPerOne := by
    obtain less | equal := Nat.lt_or_eq_of_le small
    next =>
      have one := dvd_unitsPerOne 0 (roundingScale_le less (by decide))
      rw [Nat.pow_zero, Nat.mul_one] at one
      exact Nat.dvd_mul_left_of_dvd one value.natAbs
    next =>
      have less : value.natAbs < 2 ^ 54 := by omega
      have two := dvd_unitsPerOne 1 (roundingScale_le less (by decide))
      exact Nat.dvd_trans two ⟨2 ^ 52, by rw [equal]; omega⟩
  have units := units_eq_of_dvd Nat.one_pos rounds (by rwa [Nat.one_mul])
  rw [signOf_mul_natAbs] at units
  omega

end Integers

end Binary64

end JsonSchema
