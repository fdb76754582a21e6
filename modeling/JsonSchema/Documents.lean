import JsonSchema.Pointer
import JsonSchema.Json.Printer

set_option autoImplicit false

/-! The documents that references can name: the main schema and the named external ones. A reference
is looked up in the document it stands in; what it finds may lie in another document and may be a
reference again. -/

namespace JsonSchema

inductive ResolveError where
  | malformed (reference : String)
  | missing (reference : String)
deriving DecidableEq

def ResolveError.message : ResolveError → String
  | .malformed reference => "malformed $ref " ++ Text.quoted reference
  | .missing reference => "$ref " ++ Text.quoted reference ++ " cannot be resolved"

inductive Scope where
  | main
  | external (name : String)
deriving DecidableEq

structure Documents where
  main : Json
  externals : List (String × Json)
  missingAllowed : Bool

/- The first object that has an identifier: a value before its parts, parts in their order. -/
mutual

def Json.findById? (id : String) : Json → Option Json
  | .object members =>
      if (members.lookup "id").bind Json.string? = some id then some (.object members)
      else Json.findInMembers? id members
  | .array elements => Json.findInElements? id elements
  | _ => none

def Json.findInElements? (id : String) : List Json → Option Json
  | [] => none
  | element :: rest => element.findById? id <|> Json.findInElements? id rest

def Json.findInMembers? (id : String) : List (String × Json) → Option Json
  | [] => none
  | (_, value) :: rest => value.findById? id <|> Json.findInMembers? id rest

end

namespace Documents

/-- The document of a scope; a scope that names no document has nothing in it. -/
def root (documents : Documents) : Scope → Json
  | .main => documents.main
  | .external name => (documents.externals.lookup name).getD .null

def external? (documents : Documents) (name : String) : Option (Json × Scope) :=
  (documents.externals.lookup name).map fun schema => (schema, .external name)

/-- The external document that a pointer can mean when it finds nothing: its text without the
number signs, then without the slashes, that lead it. -/
def externalName (reference : String) : String :=
  String.ofList ((reference.toList.dropWhile (· == '#')).dropWhile (· == '/'))

/-- Looks a reference up once. A pointer is tried in its own document, then as the name of an external
one; any other text is tried as a member of its own document, as an external name, and as an
identifier inside its own document. -/
def lookup (documents : Documents) (scope : Scope) (reference : String) :
    Except ResolveError (Option (Json × Scope)) :=
  let root := documents.root scope
  match reference.toList with
  | [] => .error (.malformed reference)
  | '#' :: _ =>
      match Pointer.resolve root reference with
      | .ok target => .ok (some (target, scope))
      | .error (.malformed _) => .error (.malformed reference)
      | .error (.absent _) => .ok (documents.external? (externalName reference))
  | _ =>
      match root.field? reference with
      | some target => .ok (some (target, scope))
      | none =>
          match documents.external? reference with
          | some target => .ok (some target)
          | none => .ok ((root.findById? reference).map fun target => (target, scope))

/-- How many values the documents hold, which bounds how many references they hold. -/
def weight (documents : Documents) : Nat :=
  documents.main.weight + Json.membersWeight documents.externals

/-- Follows references from a node to one that is none. `seen` holds those followed; a reference seen
before, or a chain longer than the documents hold values, goes in a circle and leaves the node
without any demand, as does a missing reference where these are allowed. -/
def follow (documents : Documents) : Nat → List (Scope × String) → Json → Scope →
    Except ResolveError (Option (Json × Scope))
  | budget, seen, node, scope =>
      match node.field? "$ref" with
      | none => .ok (some (node, scope))
      | some (.string reference) =>
          if (scope, reference) ∈ seen then .ok none
          else
            match documents.lookup scope reference with
            | .error error => .error error
            | .ok none =>
                if documents.missingAllowed then .ok none else .error (.missing reference)
            | .ok (some (target, targetScope)) =>
                match budget with
                | 0 => .ok none
                | budget + 1 =>
                    documents.follow budget ((scope, reference) :: seen) target targetScope
      | some other => .error (.malformed other.render)

/-- The node that a node stands for, with its scope; `none` when it makes no demand. -/
def resolve (documents : Documents) (node : Json) (scope : Scope) :
    Except ResolveError (Option (Json × Scope)) :=
  documents.follow (documents.weight + 1) [] node scope

/-- A node that is no reference stands for itself. -/
theorem resolve_eq_self {documents : Documents} {node : Json}
    (noReference : node.field? "$ref" = none) (scope : Scope) :
    documents.resolve node scope = .ok (some (node, scope)) := by
  unfold resolve follow
  rw [noReference]

end Documents

end JsonSchema
