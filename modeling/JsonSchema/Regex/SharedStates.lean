import Std.Data.HashMap
import JsonSchema.Regex.ByteRanges
import JsonSchema.Regex.Footprint

set_option autoImplicit false

/-! The states for sets of characters beyond ASCII. An automaton that reads UTF-8 byte by byte needs
a chain of states for each sequence of byte ranges, and chains share states. Which states are found
again depends on their numbers, since a state is looked for in one place only. -/

namespace JsonSchema.Regex

open JsonSchema.Unicode

/-- States that may be shared, each described by numbers. A description has one place in a table,
and the last state that was made for a place is the one found there. -/
structure SharedStates where
  footprint : Footprint
  table : Std.HashMap Nat (List Nat × Nat)

namespace SharedStates

def place (places : UInt64) (description : List Nat) : Nat :=
  let mixed := description.foldl
    (fun mixed number => (mixed ^^^ number.toUInt64) * (1099511628211 : UInt64))
    (14695981039346656037 : UInt64)
  (mixed % places).toNat

def make (place : Nat) (description : List Nat) (extra : Nat) (shared : SharedStates) :
    Nat × SharedStates :=
  let state := shared.footprint.states
  (state, ⟨shared.footprint.add 1 extra, shared.table.insert place (description, state)⟩)

def find (places : UInt64) (description : List Nat) (extra : Nat) (shared : SharedStates) :
    Nat × SharedStates :=
  let place := place places description
  match shared.table[place]? with
  | some (known, state) =>
      if known = description then (state, shared) else make place description extra shared
  | none => make place description extra shared

/-- States forwards are shared by their links: two bytes and a target each, which are given here
backwards. -/
def findLinks (links : List Nat) (shared : SharedStates) : Nat × SharedStates :=
  shared.find 10000 links.reverse (8 * (links.length / 3))

end SharedStates

/-- A state that still gains links: those it has, backwards, and the bytes of the last one, whose
target is not known yet. -/
structure OpenState where
  links : List Nat
  last : Option (Nat × Nat)

namespace OpenState

def linksTo (opened : OpenState) (target : Nat) : List Nat :=
  match opened.last with
  | some (first, last) => target :: last :: first :: opened.links
  | none => opened.links

/-- The links of the first of a chain of states, when no more are gained: each of the others becomes
the target of the one before it, and the last leads to `target`. -/
def settle (target : Nat) : List OpenState → SharedStates → List Nat × SharedStates
  | [], shared => ([], shared)
  | [opened], shared => (opened.linksTo target, shared)
  | opened :: deeper, shared =>
      let (links, shared) := settle target deeper shared
      let (state, shared) := shared.findLinks links
      (opened.linksTo state, shared)

/-- Adds a sequence of byte ranges to a chain of states. What it has in common with the sequence
before it is left as it is. -/
def extend (target : Nat) : List (Nat × Nat) → List OpenState → SharedStates →
    List OpenState × SharedStates
  | range :: ranges, opened :: deeper, shared =>
      if opened.last = some range then
        let (deeper, shared) := extend target ranges deeper shared
        (opened :: deeper, shared)
      else
        let (links, shared) := settle target (opened :: deeper) shared
        (⟨links, some range⟩ :: ranges.map fun range => ⟨[], some range⟩, shared)
  | ranges, [], shared => (ranges.map fun range => ⟨[], some range⟩, shared)
  | [], opened, shared => (opened, shared)

end OpenState

namespace Footprint

/-- A set read forwards: a state for its end, and states that share all that follows them. -/
def addForwards (set : CharSet) (footprint : Footprint) : Footprint :=
  let target := footprint.states
  let (chain, shared) := (byteRanges set).foldl
    (fun (chain, shared) ranges => OpenState.extend target ranges chain shared)
    (([⟨[], none⟩], ⟨footprint.add 1 0, ∅⟩) : List OpenState × SharedStates)
  let (links, shared) := OpenState.settle target chain shared
  (shared.findLinks links).2.footprint

/-- A set read backwards: a choice between its sequences, in which single ranges are shared by what
follows them. -/
def addBackwards (set : CharSet) (footprint : Footprint) : Footprint :=
  let target := footprint.states + 1
  let shared := (byteRanges set).foldl
    (fun shared ranges =>
      let (_, shared) := ranges.foldl
        (fun (state, shared) (first, last) => shared.find 1000 [state, first, last] 0)
        (target, shared)
      ({ shared with footprint := shared.footprint.add 0 4 } : SharedStates))
    (⟨footprint.add 2 0, ∅⟩ : SharedStates)
  shared.footprint

def addSet (backwards : Bool) (set : CharSet) (footprint : Footprint) : Footprint :=
  if set.ranges.isEmpty then footprint.add 1 0
  else if set.isAscii then footprint.add 2 (8 * set.ranges.length)
  else if backwards then footprint.addBackwards set
  else footprint.addForwards set

end Footprint

end JsonSchema.Regex
