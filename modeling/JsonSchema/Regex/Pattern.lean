import JsonSchema.Unicode.CharSet

set_option autoImplicit false

/-! What a regular expression asks of a text, with flags, names and written forms resolved. The
functions that build patterns keep them simple: a sequence holds no sequence, no empty part and no
two literals side by side, a choice holds no choice, and a choice between characters is a set. Which
of several matches is preferred, and what a group captures, has no bearing on whether there is a
match; both are kept because they tell equal parts from different ones. -/

namespace JsonSchema.Regex

open JsonSchema.Unicode

inductive WordTest where
  | boundary
  | noBoundary
  | start
  | finish
  | startHalf
  | finishHalf
deriving DecidableEq

/-- Tests on the two characters around a position. Words are those of Unicode or those of ASCII. -/
inductive Look where
  | textStart
  | textEnd
  | lineStart (carriageReturn : Bool)
  | lineEnd (carriageReturn : Bool)
  | word (test : WordTest) (unicode : Bool)
deriving DecidableEq

inductive Pattern where
  | empty
  | literal (text : List Char)
  | oneOf (set : CharSet)
  | look (look : Look)
  | repeated (body : Pattern) (least : Nat) (most : Option Nat) (reluctant : Bool)
  | captured (number : Nat) (body : Pattern)
  | seq (parts : List Pattern)
  | either (branches : List Pattern)

namespace Pattern

mutual

def same : Pattern → Pattern → Bool
  | .empty, .empty => true
  | .literal one, .literal other => one == other
  | .oneOf one, .oneOf other => one == other
  | .look one, .look other => one == other
  | .repeated one least most reluctant, .repeated other least' most' reluctant' =>
      one.same other && least == least' && most == most' && reluctant == reluctant'
  | .captured number one, .captured number' other => number == number' && one.same other
  | .seq one, .seq other => allSame one other
  | .either one, .either other => allSame one other
  | _, _ => false

def allSame : List Pattern → List Pattern → Bool
  | [], [] => true
  | one :: rest, other :: rest' => one.same other && allSame rest rest'
  | _, _ => false

end

mutual

private theorem same_iff_eq : (one other : Pattern) → (one.same other = true ↔ one = other)
  | .empty, other => by cases other <;> simp [same]
  | .literal _, other => by cases other <;> simp [same]
  | .oneOf _, other => by cases other <;> simp [same]
  | .look _, other => by cases other <;> simp [same]
  | .repeated body _ _ _, other => by
      cases other <;> simp [same, same_iff_eq body, and_assoc]
  | .captured _ body, other => by cases other <;> simp [same, same_iff_eq body]
  | .seq parts, other => by cases other <;> simp [same, allSame_iff_eq parts]
  | .either branches, other => by cases other <;> simp [same, allSame_iff_eq branches]

theorem allSame_iff_eq :
    (ones others : List Pattern) → (allSame ones others = true ↔ ones = others)
  | [], others => by cases others <;> simp [allSame]
  | one :: rest, others => by
      cases others <;> simp [allSame, same_iff_eq one, allSame_iff_eq rest]

end

instance : DecidableEq Pattern := fun one other =>
  decidable_of_iff (one.same other = true) (same_iff_eq one other)

mutual

def isWidthless : Pattern → Bool
  | .empty | .look _ => true
  | .literal _ | .oneOf _ => false
  | .repeated body _ most _ => most.isSome && body.isWidthless
  | .captured _ body => body.isWidthless
  | .seq parts | .either parts => areWidthless parts

def areWidthless : List Pattern → Bool
  | [] => true
  | part :: parts => part.isWidthless && areWidthless parts

end

mutual

/-- A lower bound on the characters of a match; none where some part can match nothing at all. -/
def leastWidth : Pattern → Option Nat
  | .empty | .look _ => some 0
  | .literal text => some text.length
  | .oneOf set => if set.ranges.isEmpty then none else some 1
  | .repeated body least _ _ => body.leastWidth.map (· * least)
  | .captured _ body => body.leastWidth
  | .seq parts => totalLeastWidth parts
  | .either branches => commonLeastWidth branches

def totalLeastWidth : List Pattern → Option Nat
  | [] => some 0
  | part :: parts => do
      let width ← part.leastWidth
      let rest ← totalLeastWidth parts
      some (width + rest)

def commonLeastWidth : List Pattern → Option Nat
  | [] => none
  | [branch] => branch.leastWidth
  | branch :: branches => do
      let width ← branch.leastWidth
      let rest ← commonLeastWidth branches
      some (min width rest)

end

mutual

def nodes : Pattern → Nat
  | .empty | .literal _ | .oneOf _ | .look _ => 1
  | .repeated body _ _ _ | .captured _ body => body.nodes + 1
  | .seq parts | .either parts => allNodes parts + 1

def allNodes : List Pattern → Nat
  | [] => 0
  | part :: parts => part.nodes + allNodes parts

end

def never : Pattern := .oneOf .empty

def ofSet (set : CharSet) : Pattern :=
  match set.onlyMember? with
  | some char => .literal [char]
  | none => .oneOf set

/-- Repeats a pattern. What matches between characters need not be repeated, and a repetition that
happens never or once is none. -/
def ofRepetition (body : Pattern) (least : Nat) (most : Option Nat) (reluctant : Bool) : Pattern :=
  let (least, most) :=
    if body.isWidthless then (min least 1, some (min (most.getD 1) 1)) else (least, most)
  if least = 0 ∧ most = some 0 then .empty
  else if least = 1 ∧ most = some 1 then body
  else .repeated body least most reluctant

def parts : Pattern → List Pattern
  | .empty => []
  | .seq parts => parts
  | part => [part]

def joinLiterals : List Pattern → List Pattern
  | [] => []
  | .literal text :: rest =>
      match joinLiterals rest with
      | .literal more :: others => .literal (text ++ more) :: others
      | others => .literal text :: others
  | part :: rest => part :: joinLiterals rest

def ofParts (patterns : List Pattern) : Pattern :=
  match joinLiterals (patterns.flatMap parts) with
  | [] => .empty
  | [part] => part
  | parts => .seq parts

def branches : Pattern → List Pattern
  | .either branches => branches
  | branch => [branch]

def charsOf? : List Pattern → Option (List Char)
  | [] => some []
  | .literal [char] :: rest => (charsOf? rest).map (char :: ·)
  | _ => none

def setsOf? : List Pattern → Option (List CharSet)
  | [] => some []
  | .oneOf set :: rest => (setsOf? rest).map (set :: ·)
  | _ => none

def sharedParts : List Pattern → List Pattern → List Pattern
  | one :: rest, other :: rest' => if one = other then one :: sharedParts rest rest' else []
  | _, _ => []

def commonParts (branches : List Pattern) : List Pattern :=
  let sequences := branches.map fun branch => match branch with
    | .seq parts => parts
    | _ => []
  match sequences with
  | [] => []
  | first :: others => others.foldl sharedParts first

def ofBranchesWithin (budget : Nat) (patterns : List Pattern) : Pattern :=
  match patterns.flatMap branches with
  | [] => never
  | [branch] => branch
  | choices =>
      match charsOf? choices, setsOf? choices with
      | some chars, _ => ofSet (.ofPoints (chars.map Char.toNat))
      | none, some sets => ofSet (.unionAll sets)
      | none, none =>
          match budget, commonParts choices with
          | 0, _ | _, [] => .either choices
          | budget + 1, shared =>
              let rests := choices.map fun branch => ofParts (branch.parts.drop shared.length)
              ofParts (shared ++ [ofBranchesWithin budget rests])

/-- Each time that branches lose what they begin with, at least one part is gone. -/
def ofBranches (patterns : List Pattern) : Pattern :=
  ofBranchesWithin (allNodes patterns) patterns

end Pattern

end JsonSchema.Regex
