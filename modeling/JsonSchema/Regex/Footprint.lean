set_option autoImplicit false

/-! Counting the room that an automaton takes. A state takes 32 bytes, and states with several links or
choices take more. -/

namespace JsonSchema.Regex

structure Footprint where
  states : Nat
  extra : Nat

namespace Footprint

def limit : Nat := 0xA00000

def bytes (footprint : Footprint) : Nat := 32 * footprint.states + footprint.extra

def add (footprint : Footprint) (states extra : Nat) : Footprint :=
  ⟨footprint.states + states, footprint.extra + extra⟩

def isWithinLimit (footprint : Footprint) : Bool := decide (footprint.bytes ≤ limit)

def times (step : Footprint → Footprint) : Nat → Footprint → Footprint
  | 0, footprint => footprint
  | count + 1, footprint =>
      if footprint.isWithinLimit then times step count (step footprint) else footprint

end Footprint

end JsonSchema.Regex
