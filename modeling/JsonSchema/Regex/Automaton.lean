import JsonSchema.Regex.LiteralTrie
import JsonSchema.Regex.Pattern
import JsonSchema.Regex.SharedStates

set_option autoImplicit false

/-! How much room the automata of a pattern take, of which one reads UTF-8 forwards and one backwards.
Nothing of them is kept but the count. A pattern is refused when either takes more than the limit. -/

namespace JsonSchema.Regex

open JsonSchema.Unicode

def utf8OfText (text : List Char) : List Nat := text.flatMap fun char => utf8 char.toNat

namespace Pattern

def literals? : List Pattern → Option (List (List Char))
  | [] => some []
  | .literal text :: rest => (literals? rest).map (text :: ·)
  | _ => none

mutual

/-- The footprint after the states of a pattern have been added. What can match nothing needs more
states for its unbounded repetition, so that a round without progress ends it. -/
def addTo (backwards : Bool) : Pattern → Footprint → Footprint
  | .empty, footprint => footprint.add 1 0
  | .literal text, footprint => footprint.add (utf8OfText text).length 0
  | .oneOf set, footprint => footprint.addSet backwards set
  | .look _, footprint => footprint.add 1 0
  | .repeated body least most _, footprint =>
      match most with
      | none =>
          if least = 0 then
            if body.leastWidth.any (0 < ·) then body.addTo backwards (footprint.add 1 8)
            else (body.addTo backwards footprint).add 3 16
          else (Footprint.times (body.addTo backwards) least footprint).add 1 8
      | some most =>
          if least = 0 ∧ most = 1 then (body.addTo backwards (footprint.add 1 8)).add 1 0
          else
            let exactly :=
              if least = 0 then footprint.add 1 0
              else Footprint.times (body.addTo backwards) least footprint
            if least = most then exactly
            else
              Footprint.times (fun footprint => body.addTo backwards (footprint.add 1 8))
                (most - least) (exactly.add 1 0)
  | .captured _ body, footprint =>
      if backwards then body.addTo backwards footprint
      else (body.addTo backwards (footprint.add 1 0)).add 1 0
  | .seq parts, footprint => addParts backwards parts footprint
  | .either branches, footprint =>
      match literals? branches with
      | some texts =>
          let words := texts.map fun text =>
            if backwards then (utf8OfText text).reverse else utf8OfText text
          (LiteralTrie.ofWords words).addTo (footprint.add 1 0)
      | none =>
          addBranches backwards 0 branches (footprint.add 0 (4 * branches.length))

def addParts (backwards : Bool) : List Pattern → Footprint → Footprint
  | [], footprint => footprint
  | part :: parts, footprint =>
      if backwards then part.addTo backwards (addParts backwards parts footprint)
      else addParts backwards parts (part.addTo backwards footprint)

/-- The branches of a choice; the choice and its end are made after the second branch. -/
def addBranches (backwards : Bool) (index : Nat) : List Pattern → Footprint → Footprint
  | [], footprint => footprint
  | branch :: branches, footprint =>
      let added := branch.addTo backwards footprint
      addBranches backwards (index + 1) branches (if index = 1 then added.add 2 0 else added)

end

mutual

/-- Whether every match begins at the start of the text, as far as the parts show it. -/
def isAnchoredAtStart : Pattern → Bool
  | .look test => test == .textStart
  | .repeated body least _ _ => decide (0 < least) && body.isAnchoredAtStart
  | .captured _ body => body.isAnchoredAtStart
  | .seq parts => partsAnchoredAtStart parts
  | .either branches => branchesAnchoredAtStart branches
  | _ => false

def partsAnchoredAtStart : List Pattern → Bool
  | [] => false
  | part :: parts => part.isAnchoredAtStart || (part.isWidthless && partsAnchoredAtStart parts)

def branchesAnchoredAtStart : List Pattern → Bool
  | [] => true
  | branch :: branches => branch.isAnchoredAtStart && branchesAnchoredAtStart branches

end

mutual

/-- Whether every match ends at the end of the text, as far as the parts show it. -/
def isAnchoredAtEnd : Pattern → Bool
  | .look test => test == .textEnd
  | .repeated body least _ _ => decide (0 < least) && body.isAnchoredAtEnd
  | .captured _ body => body.isAnchoredAtEnd
  | .seq parts => partsAnchoredAtEnd parts
  | .either branches => branchesAnchoredAtEnd branches
  | _ => false

def partsAnchoredAtEnd : List Pattern → Bool
  | [] => false
  | part :: parts =>
      partsAnchoredAtEnd parts || (part.isAnchoredAtEnd && areWidthless parts)

def branchesAnchoredAtEnd : List Pattern → Bool
  | [] => true
  | branch :: branches => branch.isAnchoredAtEnd && branchesAnchoredAtEnd branches

end

/-- The whole automaton: before a pattern that may begin anywhere stands a loop over all bytes, and
forwards the whole match is a capture. -/
def footprint (backwards : Bool) (pattern : Pattern) : Footprint :=
  let anchored := if backwards then pattern.isAnchoredAtEnd else pattern.isAnchoredAtStart
  let start : Footprint := if anchored then ⟨1, 0⟩ else ⟨3, 16⟩
  ((Pattern.captured 0 pattern).addTo backwards start).add 1 0

mutual

/-- An upper bound on the bytes of a footprint that needs no counting of shared states. -/
def roughBytes : Pattern → Nat
  | .empty | .look _ => 32
  | .literal text => 100 + 400 * text.length
  | .oneOf set => 100 + 4096 * set.ranges.length
  | .repeated body least most _ =>
      200 + (body.roughBytes + 40) * max (least + 1) (most.getD 0)
  | .captured _ body => body.roughBytes + 64
  | .seq parts | .either parts => 100 + allRoughBytes parts

def allRoughBytes : List Pattern → Nat
  | [] => 0
  | part :: parts => part.roughBytes + 4 + allRoughBytes parts

end

def hasRoom (pattern : Pattern) : Bool :=
  decide (pattern.roughBytes + 300 ≤ Footprint.limit) ||
    ((pattern.footprint false).isWithinLimit && (pattern.footprint true).isWithinLimit)

end Pattern

end JsonSchema.Regex
