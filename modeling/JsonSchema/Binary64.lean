set_option autoImplicit false

/-! Finite binary64 numbers, exactly. Every finite double is a whole number of units of `2 ^ (-1074)`,
so a number is a sign and a magnitude counted in units. Order, remainder and rounding are questions
about natural numbers; no machine floating point takes part. Infinities and NaN are not values here:
an operation whose result is not finite answers `none`. -/

namespace JsonSchema

/-- Sign and magnitude `significand * 2 ^ scale`, in units of `2 ^ (-1074)`, in the one normal form
that each double has: the significand has 53 bits unless the scale is zero. Zero keeps its sign. -/
@[ext] structure Binary64 where
  negative : Bool
  significand : Nat
  scale : Nat
  significand_lt : significand < 0x20000000000000
  scale_le : scale ≤ 2045
  normal : scale = 0 ∨ 0x10000000000000 ≤ significand
deriving DecidableEq

/-- The quotient rounded to the nearest natural number, a half to the even neighbour. -/
def roundHalfEven (numerator denominator : Nat) : Nat :=
  let quotient := numerator / denominator
  let twice := 2 * (numerator % denominator)
  if twice < denominator then quotient
  else if denominator < twice then quotient + 1
  else if quotient % 2 = 0 then quotient else quotient + 1

def roundHalfUp (numerator denominator : Nat) : Nat :=
  (2 * numerator + denominator) / (2 * denominator)

def powerOfTen (exponent : Nat) : Nat := Nat.pow 10 exponent

namespace Binary64

def unitsPerOne : Nat := 1 <<< 1074

def zero : Binary64 := ⟨false, 0, 0, by decide, by decide, Or.inl rfl⟩

def magnitude (number : Binary64) : Nat := number.significand <<< number.scale

def units (number : Binary64) : Int :=
  if number.negative then -(number.magnitude : Int) else number.magnitude

def normalForm? (negative : Bool) (significand scale : Nat) : Option Binary64 :=
  if form : significand < 0x20000000000000 ∧ scale ≤ 2045 ∧
      (scale = 0 ∨ 0x10000000000000 ≤ significand) then
    some ⟨negative, significand, scale, form.1, form.2.1, form.2.2⟩
  else none

/-- The double nearest to `numerator / denominator` units, a tie to the even significand; `none`
from where rounding leaves the finite range. -/
def roundUnits? (negative : Bool) (numerator denominator : Nat) : Option Binary64 :=
  let scale := Nat.log2 (numerator / denominator) + 1 - 53
  let significand := roundHalfEven numerator (denominator <<< scale)
  if significand = 0x20000000000000 then normalForm? negative 0x10000000000000 (scale + 1)
  else normalForm? negative significand scale

def ofInt? (value : Int) : Option Binary64 :=
  roundUnits? (decide (value < 0)) (value.natAbs * unitsPerOne) 1

/-- The double nearest to `digits * 10 ^ exponent`. Outside the exponents that a double can show
the answer is fixed without computing the power. -/
def ofDecimal? (negative : Bool) (digits : Nat) (exponent : Int) : Option Binary64 :=
  let place : Int := (Nat.toDigits 10 digits).length + exponent
  if digits = 0 ∨ place < -330 then normalForm? negative 0 0
  else if 310 < place then none
  else if 0 ≤ exponent then roundUnits? negative (digits * powerOfTen exponent.toNat * unitsPerOne) 1
  else roundUnits? negative (digits * unitsPerOne) (powerOfTen (-exponent).toNat)

/-- The two zeros are one number. -/
def same (left right : Binary64) : Bool := decide (left.units = right.units)

def less (left right : Binary64) : Bool := decide (left.units < right.units)

def isIntegral (number : Binary64) : Bool := decide (number.magnitude % unitsPerOne = 0)

def truncate (number : Binary64) : Int :=
  let whole : Nat := number.magnitude / unitsPerOne
  if number.negative then -(whole : Int) else whole

def mul? (left right : Binary64) : Option Binary64 :=
  roundUnits? (left.negative != right.negative) (left.magnitude * right.magnitude) unitsPerOne

def div? (left right : Binary64) : Option Binary64 :=
  if right.magnitude = 0 then none
  else roundUnits? (left.negative != right.negative) (left.magnitude * unitsPerOne) right.magnitude

def round? (number : Binary64) : Option Binary64 :=
  roundUnits? number.negative (roundHalfUp number.magnitude unitsPerOne * unitsPerOne) 1

def dividesEvenly (divisor number : Binary64) : Bool :=
  decide (divisor.magnitude ≠ 0 ∧ number.magnitude % divisor.magnitude = 0)

end Binary64

end JsonSchema
