import JsonSchema.Binary64.Decimal

set_option autoImplicit false

/-! Divisibility for the `multipleOf` keyword. A divisor with decimal places is first scaled to a whole
number. The steps are stated over any arithmetic; checking takes them over doubles, where each step
rounds. -/

namespace JsonSchema

structure Arithmetic (Value : Type) where
  powerOfTen : Nat → Value
  mul : Value → Value → Value
  div : Value → Value → Value
  round : Value → Value
  dividesEvenly : (divisor value : Value) → Bool

namespace Arithmetic

/-- Whether a divisor with so many decimal places divides a value. The value is scaled twice before
it is rounded, so that it keeps as many places again as the divisor has. -/
def isMultiple {Value : Type} (arithmetic : Arithmetic Value) (places : Nat)
    (divisor value : Value) : Bool :=
  if 0 < places then
    let scale := arithmetic.powerOfTen places
    let scaled := arithmetic.mul (arithmetic.mul value scale) scale
    arithmetic.dividesEvenly (arithmetic.round (arithmetic.mul divisor scale))
      (arithmetic.div (arithmetic.round scaled) scale)
  else arithmetic.dividesEvenly divisor value

/-- Doubles, with `none` for what is no finite number; that is never a multiple. -/
def binary64 : Arithmetic (Option Binary64) where
  powerOfTen := fun exponent => Binary64.ofDecimal? false 1 exponent
  mul := fun left right => do (← left).mul? (← right)
  div := fun left right => do (← left).div? (← right)
  round := fun value => do (← value).round?
  dividesEvenly := fun divisor value =>
    match divisor, value with
    | some divisor, some value => divisor.dividesEvenly value
    | _, _ => false

end Arithmetic

structure Divisor where
  value : Binary64
  places : Nat

namespace Divisor

def ofBinary64 (value : Binary64) : Divisor := ⟨value, value.shortest.places⟩

def divides (divisor : Divisor) (value : Binary64) : Bool :=
  Arithmetic.binary64.isMultiple divisor.places (some divisor.value) (some value)

end Divisor

end JsonSchema
