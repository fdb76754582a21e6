import JsonSchema.Text.Digits
import JsonSchema.Unicode.CharSet
import JsonSchema.Unicode.FoldingOrbits

set_option autoImplicit false

/-! Simple case folding: one character for one. Two characters are the same letter when a set of
the table holds both. -/

namespace JsonSchema.Unicode

private def readOrbits (written : String) : List (List Nat) :=
  let rec go (orbits : List (List Nat)) (orbit : List Nat) (point : Nat) :
      List Char → List (List Nat)
    | [] => (point :: orbit) :: orbits
    | char :: rest =>
        if char.isWhitespace then go orbits (if point = 0 then orbit else point :: orbit) 0 rest
        else if char = ',' then go ((point :: orbit) :: orbits) [] 0 rest
        else go orbits orbit (point * 16 + (Text.hexValue? char).getD 0) rest
  go [] [] 0 written.toList

def foldingEntries : List (Nat × List Nat) :=
  let entries := (readOrbits foldingOrbits).flatMap fun orbit =>
    orbit.map fun point => (point, orbit)
  entries.mergeSort fun left right => left.1 ≤ right.1

def caseOrbit (char : Char) : CharSet :=
  match foldingEntries.find? fun (point, _) => point == char.toNat with
  | some (_, orbit) => .ofPoints orbit
  | none => .single char.toNat

def CharSet.folded (set : CharSet) : CharSet :=
  let added := foldingEntries.filter fun (point, orbit) =>
    !set.holds point && orbit.any fun other => set.holds other
  set.union ⟨added.map fun (point, _) => .single point⟩

end JsonSchema.Unicode
