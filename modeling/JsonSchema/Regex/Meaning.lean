import JsonSchema.Regex.CharClass
import JsonSchema.Regex.Pattern

set_option autoImplicit false

/-! From a written expression to its pattern. Flags hold from where they are set to the end of their
group, across its alternatives. With Unicode switched off an expression that could match part of a
character is refused, so that every pattern here speaks of whole characters. -/

namespace JsonSchema.Regex

open JsonSchema.Unicode

/-- Lines are told apart only where the flag asks for it. -/
def Assertion.look (modes : Modes) : Assertion → Look
  | .textStart => .textStart
  | .textEnd => .textEnd
  | .lineStart => if modes.multiLine then .lineStart modes.carriageReturn else .textStart
  | .lineEnd => if modes.multiLine then .lineEnd modes.carriageReturn else .textEnd
  | .wordBoundary => .word .boundary modes.unicode
  | .noWordBoundary => .word .noBoundary modes.unicode
  | .wordStart => .word .start modes.unicode
  | .wordEnd => .word .finish modes.unicode
  | .wordStartHalf => .word .startHalf modes.unicode
  | .wordEndHalf => .word .finishHalf modes.unicode

def dotSet (modes : Modes) : CharSet :=
  if modes.dotMatchesNewLine then .all
  else if modes.carriageReturn then (CharSet.ofPoints [0xA, 0xD]).complement
  else (CharSet.single 0xA).complement

def Literal.set (literal : Literal) (modes : Modes) : CharSet :=
  if modes.caseInsensitive then
    if modes.unicode then caseOrbit literal.char
    else asciiFolded (.single literal.char.toNat)
  else .single literal.char.toNat

mutual

/-- The pattern of an expression, and the modes that hold after it in the same group. -/
def Expr.pattern? (modes : Modes) : Expr → Option (Pattern × Modes)
  | .empty => some (.empty, modes)
  | .flags changes => some (.empty, modes.change changes)
  | .literal written =>
      if written.isByte && !written.isWhole modes then none
      else some (.ofSet (written.set modes), modes)
  | .dot => if modes.unicode then some (.ofSet (dotSet modes), modes) else none
  | .assertion test => some (.look (test.look modes), modes)
  | .charClass set => (set.set? modes).map fun set => (.ofSet set, modes)
  | .repetition body least most reluctant => do
      let (body, after) ← body.pattern? modes
      some (.ofRepetition body least most (reluctant != after.swapGreed), after)
  | .group number changes body => do
      let (body, _) ← body.pattern? (modes.change changes)
      some (number.elim body fun number => .captured number body, modes)
  | .alternation branches => do
      let (branches, after) ← Expr.patterns? modes branches
      some (.ofBranches branches, after)
  | .concat parts => do
      let (parts, after) ← Expr.patterns? modes parts
      some (.ofParts parts, after)

def Expr.patterns? (modes : Modes) : List Expr → Option (List Pattern × Modes)
  | [] => some ([], modes)
  | part :: parts => do
      let (part, modes) ← part.pattern? modes
      let (parts, modes) ← Expr.patterns? modes parts
      some (part :: parts, modes)

end

end JsonSchema.Regex
