import JsonSchema.Binary64

set_option autoImplicit false

/-! The shortest decimal of a double: the fewest digits that read back as the same double, of those
the nearest to it, and of two equally near the even one. The search tries one digit, then two, up to
seventeen; on each decimal grid only the two neighbours of the number can do. -/

namespace JsonSchema

structure Decimal where
  digits : Nat
  exponent : Int
deriving DecidableEq

namespace Decimal

def trim : Nat → Decimal → Decimal
  | 0, decimal => decimal
  | budget + 1, decimal =>
      if decimal.digits ≠ 0 ∧ decimal.digits % 10 = 0 then
        trim budget ⟨decimal.digits / 10, decimal.exponent + 1⟩
      else decimal

def places (decimal : Decimal) : Nat := (-decimal.exponent).toNat

end Decimal

namespace Binary64

/-- A quarter of a unit is the grain in which the ends of the rounding interval are whole. -/
structure RoundingInterval where
  low : Nat
  centre : Nat
  high : Nat
  closed : Bool

/-- The numbers that round to a double, between `low` and `high` quarter units. Below a power of two
the spacing halves; the ends belong to it when the significand is even. -/
def roundingInterval (number : Binary64) : RoundingInterval :=
  let gap := 1 <<< number.scale
  let centre := 4 * number.magnitude
  let below := if number.significand = 0x10000000000000 ∧ number.scale ≠ 0 then gap else 2 * gap
  ⟨centre - below, centre, centre + 2 * gap, number.significand % 2 = 0⟩

def RoundingInterval.stretch (interval : RoundingInterval) (factor : Nat) : RoundingInterval :=
  ⟨interval.low * factor, interval.centre * factor, interval.high * factor, interval.closed⟩

def RoundingInterval.holds (interval : RoundingInterval) (point : Nat) : Bool :=
  if interval.closed then decide (interval.low ≤ point ∧ point ≤ interval.high)
  else decide (interval.low < point ∧ point < interval.high)

/-- The multiple of `step` that stands for the interval's centre, if one of its two neighbours lies
inside. -/
def RoundingInterval.onGrid? (interval : RoundingInterval) (step : Nat) : Option Nat :=
  let floor := interval.centre / step
  let below := interval.centre - floor * step
  let above := (floor + 1) * step - interval.centre
  let floorFits := interval.holds (floor * step) && decide (floor ≠ 0)
  let ceilingFits := interval.holds ((floor + 1) * step)
  if floorFits && ceilingFits then
    if below < above then some floor
    else if above < below then some (floor + 1)
    else if floor % 2 = 0 then some floor else some (floor + 1)
  else if floorFits then some floor
  else if ceilingFits then some (floor + 1)
  else none

/-- The decimal that stands for a number on the grid of the multiples of `10 ^ exponent`. -/
def decimalAt? (number : Binary64) (exponent : Int) : Option Decimal :=
  let grain := 4 * unitsPerOne
  let found :=
    if 0 ≤ exponent then number.roundingInterval.onGrid? (powerOfTen exponent.toNat * grain)
    else (number.roundingInterval.stretch (powerOfTen (-exponent).toNat)).onGrid? grain
  found.map fun digits => ⟨digits, exponent⟩

/-- Digits before the point of a number that is not zero, counted on from zero downwards for
numbers below a tenth. -/
def leadingPlace (number : Binary64) : Int :=
  ((Nat.toDigits 10 (number.magnitude * powerOfTen 400 / unitsPerOne)).length : Int) - 400

def shortest (number : Binary64) : Decimal :=
  if number.significand = 0 then ⟨0, 0⟩
  else
    let place := number.leadingPlace
    let found := (List.range 17).findSome? fun count => number.decimalAt? (place - (count + 1 : Nat))
    (found.getD ⟨0, 0⟩).trim 20

end Binary64

end JsonSchema
