import JsonSchema.Regex.CharClass
import JsonSchema.Regex.Pattern

set_option autoImplicit false

/-! Searching a text for a pattern. A set of positions is a natural number whose bit `i` stands for
the position before character `i`. A pattern moves a whole set of positions at once: from every
position in the set to every position where a match that began there can end. A search starts from
all positions, so that its cost does not depend on how many ways there are to match. -/

namespace JsonSchema.Regex

def WordTest.accepts (test : WordTest) (before after : Bool) : Bool :=
  match test with
  | .boundary => before != after
  | .noBoundary => before == after
  | .start => !before && after
  | .finish => before && !after
  | .startHalf => !before
  | .finishHalf => !after

/-- What an assertion asks of the characters before and after a position, of which the text's ends
have none. A line feed after a carriage return ends the same line. -/
def Look.accepts (look : Look) (before after : Option Char) : Bool :=
  match look with
  | .textStart => before.isNone
  | .textEnd => after.isNone
  | .lineStart false => before.all (· == '\n')
  | .lineStart true =>
      before.all (· == '\n') || (before == some '\r' && after != some '\n')
  | .lineEnd false => after.all (· == '\n')
  | .lineEnd true =>
      after.all (· == '\r') || (after == some '\n' && before != some '\r')
  | .word test unicode =>
      let word := Shorthand.set .word unicode
      test.accepts (before.any word.contains) (after.any word.contains)

/-- A pattern laid over one text: the tests are replaced by the sets of positions that pass them. -/
inductive Moves where
  | stay
  | step (passing : Nat)
  | keep (positions : Nat)
  | seq (first second : Moves)
  | either (left right : Moves)
  | repeated (body : Moves) (least : Nat) (most : Nat)

namespace Moves

def positionsOf (tests : List Bool) : Nat :=
  tests.foldr (fun passes positions => 2 * positions + passes.toNat) 0

def exactly (move : Nat → Nat) : Nat → Nat → Nat
  | 0, positions => positions
  | count + 1, positions =>
      let moved := move positions
      if moved = positions then positions else exactly move count moved

/-- Applies a move at most so many times and gathers what is reached, until nothing new is. -/
def upTo (move : Nat → Nat) : Nat → Nat → Nat := exactly fun positions => positions ||| move positions

def apply : Moves → Nat → Nat
  | .stay, positions => positions
  | .step passing, positions => (positions &&& passing) <<< 1
  | .keep kept, positions => positions &&& kept
  | .seq first second, positions => second.apply (first.apply positions)
  | .either left right, positions => left.apply positions ||| right.apply positions
  | .repeated body least more, positions =>
      upTo body.apply more (exactly body.apply least positions)

end Moves

def writtenOver (text : List Char) : List Char → Moves
  | [] => .stay
  | char :: rest =>
      .seq (.step (Moves.positionsOf (text.map (· == char)))) (writtenOver text rest)

/-- The neighbours of each position of a text, from the first to the one after its end. -/
def neighbours (text : List Char) : List (Option Char × Option Char) :=
  (none :: text.map some).zip (text.map some ++ [none])

mutual

/-- An unbounded repetition needs no more rounds than there are characters: each round that changes
anything reaches a new position. -/
def Pattern.over (text : List Char) : Pattern → Moves
  | .empty => .stay
  | .literal written => writtenOver text written
  | .oneOf set => .step (Moves.positionsOf (text.map set.contains))
  | .look test =>
      .keep (Moves.positionsOf ((neighbours text).map fun (before, after) =>
        test.accepts before after))
  | .repeated body least most _ =>
      .repeated (body.over text) least
        (match most with
        | none => text.length + 1
        | some most => most - least)
  | .captured _ body => body.over text
  | .seq parts => Pattern.partsOver text parts
  | .either branches => Pattern.branchesOver text branches

def Pattern.partsOver (text : List Char) : List Pattern → Moves
  | [] => .stay
  | part :: parts => .seq (part.over text) (Pattern.partsOver text parts)

def Pattern.branchesOver (text : List Char) : List Pattern → Moves
  | [] => .step 0
  | branch :: branches => .either (branch.over text) (Pattern.branchesOver text branches)

end

def Pattern.occursIn (pattern : Pattern) (text : List Char) : Bool :=
  (pattern.over text).apply (1 <<< (text.length + 1) - 1) != 0

end JsonSchema.Regex
