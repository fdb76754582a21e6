import JsonSchema.Unicode.CharSet

set_option autoImplicit false

/-! Sets of characters written down as the lengths of runs: so many code points outside the set,
then so many inside, and so on, with blanks between the numbers. -/

namespace JsonSchema.Unicode

/-- The numbers of a text with blanks between; `digits` is the value of those read so far. -/
def readNumbers (digits : Option Nat) : List Char → List Nat
  | [] => digits.toList
  | char :: rest =>
      if char.isDigit then readNumbers (some (digits.getD 0 * 10 + (char.toNat - 48))) rest
      else digits.toList ++ readNumbers none rest

/-- Ranges from the lengths of runs, the first of which begins at `start` and lies outside. -/
def rangesOfLengths (start : Nat) : List Nat → List CharRange
  | outside :: inside :: rest =>
      let first := start + outside
      ⟨first, first + (inside - 1), Nat.le_add_right first (inside - 1)⟩ ::
        rangesOfLengths (first + inside) rest
  | _ => []

def CharSet.ofRunLengths (written : String) : CharSet :=
  ⟨rangesOfLengths 0 (readNumbers none written.toList)⟩

/-- Characters that share a value of a property: the names of the value, in small letters without
separators, and the lengths of runs. -/
structure NamedRuns where
  names : List String
  lengths : String

def NamedRuns.set (runs : NamedRuns) : CharSet := .ofRunLengths runs.lengths

def setNamed? (values : List NamedRuns) (name : String) : Option CharSet :=
  (values.find? fun value => value.names.contains name).map NamedRuns.set

end JsonSchema.Unicode
