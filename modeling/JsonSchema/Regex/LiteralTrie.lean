import JsonSchema.Regex.Footprint

set_option autoImplicit false

/-! Words that share their beginnings. A word that ends closes the branches of its node, so that
longer words that come later stand behind it and are not joined with those before. -/

namespace JsonSchema.Regex

/-- A node with its branches by byte: those closed by the ends of words, group by group, and those
that are open. -/
inductive LiteralTrie where
  | node (closed : List (List (Nat × LiteralTrie))) (current : List (Nat × LiteralTrie))

namespace LiteralTrie

def leaf : LiteralTrie := .node [] []

/-- Applies a change to the branch of a byte, which is made if it is missing. -/
def changeBranch (byte : Nat) (change : LiteralTrie → LiteralTrie) :
    List (Nat × LiteralTrie) → List (Nat × LiteralTrie)
  | [] => [(byte, change leaf)]
  | (other, child) :: rest =>
      if other = byte then (byte, change child) :: rest
      else (other, child) :: changeBranch byte change rest

def insert : List Nat → LiteralTrie → LiteralTrie
  | [], .node closed current =>
      if current.isEmpty && !closed.isEmpty then .node closed current
      else .node (closed ++ [current]) []
  | byte :: rest, .node closed current =>
      .node closed (changeBranch byte (insert rest) current)

def ofWords (words : List (List Nat)) : LiteralTrie :=
  words.foldl (fun trie word => trie.insert word) leaf

def isLeaf : LiteralTrie → Bool
  | .node closed current => current.isEmpty && closed.all List.isEmpty

/-- A group is one state, with a link for each branch when there are several. An empty group is
none. -/
def addGroup (branches : List (Nat × LiteralTrie)) (footprint : Footprint) : Footprint :=
  match branches.length with
  | 0 => footprint
  | 1 => footprint.add 1 0
  | count => footprint.add 1 (8 * count)

mutual

def addTo : LiteralTrie → Footprint → Footprint
  | .node closed current, footprint =>
      let groups := (closed ++ [current]).filter fun group => !group.isEmpty
      let choices := groups.length + closed.length
      addGroups closed (addBranches current (addGroup current (footprint.add 1 (4 * choices))))

def addGroups : List (List (Nat × LiteralTrie)) → Footprint → Footprint
  | [], footprint => footprint
  | group :: groups, footprint =>
      addGroups groups (addBranches group (addGroup group footprint))

/-- A branch that ends in a leaf leads to the end without a node of its own. -/
def addBranches : List (Nat × LiteralTrie) → Footprint → Footprint
  | [], footprint => footprint
  | (_, child) :: rest, footprint =>
      addBranches rest (if child.isLeaf then footprint else child.addTo footprint)

end

end LiteralTrie

end JsonSchema.Regex
