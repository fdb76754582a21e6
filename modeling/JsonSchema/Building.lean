import JsonSchema.Checking
import JsonSchema.Documents

set_option autoImplicit false

/-! Building values from the defaults of a schema. A value that is there is kept and completed; an
absent one becomes the default, if there is one, and is then completed. Building reads the schema
itself, not its rules. There are schemas for which it would go on for ever; the budget bounds how
deeply nodes are entered. -/

namespace JsonSchema

/-- What the building of one node gives. `undeclared` names the keys that a branch of `allOf` would
drop: that is decided only when all branches have been built. -/
structure Built where
  value : Option Json
  undeclared : List String

namespace Built

def plain (value : Option Json) : Built := ⟨value, []⟩

end Built

structure Builder where
  documents : Documents
  additionalAllowed : Bool

/-- Where building stands: the depth in the value, the references being expanded with the depth each
was entered at, and whether the node is a branch of `allOf`. -/
structure Site where
  depth : Nat
  expanding : List (Scope × String × Nat)
  inBranch : Bool

namespace Site

def start : Site := ⟨0, [], false⟩

def inside (site : Site) : Site := ⟨site.depth + 1, site.expanding, false⟩

def branch (site : Site) : Site := { site with inBranch := true }

/-- Expanding a reference again only to seed another default, or without going deeper in the value,
would not end. -/
def reenters (site : Site) (scope : Scope) (reference : String) (value : Option Json) : Bool :=
  site.expanding.any fun (activeScope, active, depth) =>
    activeScope = scope && active = reference && (value.isNone || depth = site.depth)

def expand (site : Site) (scope : Scope) (reference : String) : Site :=
  { site with expanding := (scope, reference, site.depth) :: site.expanding }

end Site

namespace Builder

def dropsUndeclared (builder : Builder) (schema : Json) : Bool :=
  match schema.field? "additionalProperties" with
  | some (.bool false) => true
  | some (.bool true) | some (.object _) => false
  | _ => !builder.additionalAllowed

section Node

/-! The functions of this section build one node; `build` stands for building the nodes inside it, and
`Computing` says what else such a run may come to than a value. -/

variable {Computing : Type → Type} [Monad Computing] (builder : Builder)
  (build : Json → Scope → Site → Option Json → Computing Built)

def rebuild (schema : Json) (scope : Scope) (site : Site) (value : Json) : Computing Json := do
  return ((← build schema scope site (some value)).value).getD .null

def completeMembers (scope : Scope) (site : Site) :
    List (String × Json) → List (String × Json) → Computing (List (String × Json))
  | [], members => pure members
  | (key, property) :: rest, members => do
      let completed ← match members.lookup key with
        | some value => do
            pure (Entries.insert members key (← rebuild build property scope site value))
        | none => do
            match (← build property scope site none).value with
            | some value => pure (Entries.insert members key value)
            | none => pure members
      completeMembers scope site rest completed

def buildObject (schema : Json) (scope : Scope) (site : Site) (properties : List (String × Json))
    (members : List (String × Json)) : Computing Built := do
  let completed ← completeMembers build scope site.inside properties members
  let declares (key : String) : Bool := Entries.hasKey properties key
  if !builder.dropsUndeclared schema then return .plain (some (.object completed))
  else if site.inBranch then
    return ⟨some (.object completed), (Entries.names completed).filter fun key => !declares key⟩
  else return .plain (some (.object (completed.filter fun member => declares member.1)))

/-- Completes an array by a list of item schemas. An element that is built beyond the end is put in
its place, behind nulls for those not built. -/
def completeTuple (scope : Scope) (site : Site) :
    Nat → List Json → List Json → Computing (List Json)
  | _, [], elements => pure elements
  | index, item :: rest, elements => do
      let completed ← match elements[index]? with
        | some value => do pure (elements.set index (← rebuild build item scope site value))
        | none => do
            match (← build item scope site none).value with
            | some value =>
                pure (elements ++ List.replicate (index - elements.length) .null ++ [value])
            | none => pure elements
      completeTuple scope site (index + 1) rest completed

def buildArray (schema : Json) (scope : Scope) (site : Site) (items : Json) (elements : List Json) :
    Computing (List Json) :=
  match items with
  | .array tuple => do
      let completed ← completeTuple build scope site 0 tuple elements
      match schema.field? "additionalItems" with
      | some (.object inner) => do
          let more ← (completed.drop tuple.length).mapM
            (rebuild build (.object inner) scope site)
          return completed.take tuple.length ++ more
      | _ => return completed
  | each => elements.mapM (rebuild build each scope site)

/-- Builds the branches of `allOf` one after the other on the same value, and gathers the keys that
they do not declare. -/
def buildBranches (scope : Scope) (site : Site) :
    List Json → Option Json → Computing (Option Json × List String)
  | [], value => pure (value, [])
  | branch :: rest, value => do
      let built ← build branch scope site value
      let (value, undeclared) ← buildBranches scope site rest built.value
      return (value, built.undeclared ++ undeclared)

/-- A key that more than one branch does not declare is dropped. -/
def dropUndeclared (undeclared : List String) (value : Option Json) : Option Json :=
  match value with
  | some (.object members) =>
      some (.object (members.filter fun member => undeclared.count member.1 ≤ 1))
  | other => other

def arrayOrObject? : Option Json → Option Json
  | some (.object members) => some (.object members)
  | some (.array elements) => some (.array elements)
  | _ => none

/-- Builds a node that is no reference. `allOf` counts only for a value that the node does not
complete itself. -/
def buildTarget (schema : Json) (scope : Scope) (site : Site) (value : Option Json) :
    Computing Built := do
  let value := value <|> schema.field? "default"
  let properties := (schema.field? "properties").bind Json.members?
  let items := arrayOrObject? (schema.field? "items")
  match value, properties, items with
  | some (.object members), some properties, _ =>
      builder.buildObject build schema scope site properties members
  | some (.array elements), _, some items =>
      return .plain (some (.array (← buildArray build schema scope site.inside items elements)))
  | _, _, _ =>
      match schema.field? "allOf" with
      | some (.array branches) =>
          let (value, undeclared) ← buildBranches build scope site.branch branches value
          return .plain (dropUndeclared undeclared value)
      | _ => return .plain value

/-- A node that makes no demand, or whose reference cannot be resolved, leaves the value as it is. -/
def buildResolved (schema : Json) (scope : Scope) (site : Site) (value : Option Json) :
    Computing Built :=
  if schema.isObject then
    match builder.documents.resolve schema scope with
    | .ok (some (target, targetScope)) => builder.buildTarget build target targetScope site value
    | .ok none | .error _ => return .plain value
  else return .plain value

def buildNode (schema : Json) (scope : Scope) (site : Site) (value : Option Json) :
    Computing Built :=
  match (schema.field? "$ref").bind Json.string? with
  | some reference =>
      if site.reenters scope reference value then return .plain value
      else builder.buildResolved build schema scope (site.expand scope reference) value
  | none => builder.buildResolved build schema scope site value

end Node

def build (builder : Builder) : Nat → Json → Scope → Site → Option Json → Except Exhausted Built
  | 0, _, _, _, _ => .error ⟨⟩
  | budget + 1, schema, scope, site, value =>
      builder.buildNode (builder.build budget) schema scope site value

/-- How deeply a run may enter nodes before it is given up as one that does not end. It grows with the
schema, each of whose defaults can open the way to more of them, and with the depth of the value. -/
def budget (builder : Builder) (value : Option Json) : Nat :=
  Nat.pow (builder.documents.weight + 2) 4 * ((value.map Json.depth).getD 0 + 2)

def run (builder : Builder) (value : Option Json) : Except Exhausted (Option Json) := do
  let built ← builder.build (builder.budget value) builder.documents.main .main .start value
  return built.value

def runInPlace (builder : Builder) (value : Json) : Except Exhausted Json :=
  rebuild (builder.build (builder.budget (some value))) builder.documents.main .main .start value

end Builder

end JsonSchema
