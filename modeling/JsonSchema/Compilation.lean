import JsonSchema.Documents
import JsonSchema.Rule

set_option autoImplicit false

/-! Compiling schema nodes into rules. Each pair of a scope and a reference gets one slot in a shared
table, taken before its target is compiled, so that a reference met inside its own target finds the
slot. The budget bounds how deeply nodes are entered; every step spends one of it. -/

namespace JsonSchema

inductive SetupError where
  | invalidSchema
  | resolve (error : ResolveError)
  | invalidPattern (keyword : Keyword) (pattern : String)
deriving DecidableEq

def SetupError.message : SetupError → String
  | .invalidSchema => "invalid schema: expected a JSON object"
  | .resolve error => error.message
  | .invalidPattern keyword pattern =>
      "invalid regular expression " ++ Text.quoted pattern ++ " in " ++ keyword.name

inductive CompileStop where
  | setup (error : SetupError)
  | exhausted
deriving DecidableEq

/-- A reference in a scope, with the rule of its target once that is compiled. -/
structure Slot where
  scope : Scope
  reference : String
  body : Option Rule

abbrev Compiling := StateT (Array Slot) (Except CompileStop)

structure Compiler where
  documents : Documents
  registry : FormatRegistry
  formats : List (String × Format)

namespace Compiler

/-- The names of types that a value must have one of. An unknown name, or `any`, accepts every value
and leaves no check. -/
def typeNames? (value : Json) : Option (List TypeName) := do
  let written := match value with
    | .array elements => elements
    | other => [other]
  let names ← written.mapM fun name => name.string?.bind TypeName.ofName?
  if names.isEmpty || names.contains .any then none else some names

/-- A count is a number that is whole and not negative; beyond `2 ^ 64 - 1` they are all alike. -/
def count? (value : Json) : Option Nat :=
  match value.nat? with
  | some count => some count
  | none =>
      value.binary64?.bind fun number =>
        if number.isIntegral && decide (0 ≤ number.units) then
          some (min number.truncate.toNat 0xFFFFFFFFFFFFFFFF)
        else none

/-- An exclusive bound is a flag; the bound is that of the keyword it belongs to. -/
def exclusiveBound? (members : List (String × Json)) (flag : Json) (bound : Keyword) :
    Option Binary64 :=
  match flag with
  | .bool true => (members.lookup bound.name).bind Json.binary64?
  | _ => none

def strings (value : Json) : Option (List String) :=
  value.elements?.map fun elements => elements.filterMap Json.string?

def readPattern (keyword : Keyword) (source : String) : Compiling Regex :=
  match Regex.ofString? source with
  | some regex => pure regex
  | none => throw (.setup (.invalidPattern keyword source))

/-- The keywords of a node in their order, of those about members only the first. -/
def leadingKeywords (membersDone : Bool) : List Keyword → List Keyword
  | [] => []
  | keyword :: rest =>
      if keyword.isAboutMembers then
        if membersDone then leadingKeywords true rest
        else keyword :: leadingKeywords true rest
      else keyword :: leadingKeywords membersDone rest

def keywordsOf (members : List (String × Json)) : List Keyword :=
  leadingKeywords false (members.filterMap fun member => Keyword.ofName? member.1)

section Node

/-! The functions of this section compile one node; `compile` stands for compiling the nodes inside
it. -/

variable (compiler : Compiler) (compile : Json → Scope → Compiling Rule)

def compileDeclared (declared : List (String × Json)) (scope : Scope) :
    Compiling (List (String × Rule)) :=
  declared.mapM fun (name, schema) => do return (name, ← compile schema scope)

def compileBranches (scope : Scope) (value : Json) : Compiling (Option (List Rule)) :=
  match value with
  | .array branches => do return some (← branches.mapM fun branch => compile branch scope)
  | _ => pure none

def compileItems (members : List (String × Json)) (scope : Scope) (items : Json) :
    Compiling (Option Check) :=
  match items with
  | .object _ => do return some (.items (← compile items scope))
  | .array tuple => do
      let declared ← tuple.mapM fun item => compile item scope
      let additional ← match members.lookup "additionalItems" with
        | some (.object inner) => do pure (some (← compile (.object inner) scope))
        | _ => pure none
      return some (.tuple declared additional)
  | _ => pure none

def compilePatterns (patterns : List (String × Json)) (scope : Scope) :
    Compiling (List (Regex × Rule)) :=
  patterns.mapM fun (source, schema) => do
    let regex ← readPattern .patternProperties source
    return (regex, ← compile schema scope)

def compileAdditional (additional : Option Json) (scope : Scope) : Compiling Additional :=
  match additional with
  | some (.bool false) => pure .forbidden
  | some (.object inner) => do return .rule (← compile (.object inner) scope)
  | _ => pure .allowed

/-- Whether members that are neither declared nor match a pattern meet a demand. -/
def limitsAdditional : Option Json → Bool
  | some (.bool false) => true
  | some (.object _) => true
  | _ => false

/-- The one check of the three keywords about members. With nothing to say about undeclared members
it goes by the declared ones, otherwise by the members of the value. -/
def compileMembers (members : List (String × Json)) (scope : Scope) : Compiling (Option Check) := do
  let declared := ((members.lookup "properties").bind Json.members?).getD []
  let patterns := ((members.lookup "patternProperties").bind Json.members?).getD []
  let additional := members.lookup "additionalProperties"
  if patterns.isEmpty && !limitsAdditional additional then
    if declared.isEmpty then return none
    else return some (.properties (← compileDeclared compile declared scope))
  else
    let declared ← compileDeclared compile declared scope
    let patterns ← compilePatterns compile patterns scope
    return some (.members declared patterns (← compileAdditional compile additional scope))

def compileDependencies (scope : Scope) :
    List (String × Json) → Compiling (List (String × Dependency))
  | [] => pure []
  | (name, dependency) :: rest => do
      let compiled ← match dependency with
        | .object inner => do pure [(name, Dependency.rule (← compile (.object inner) scope))]
        | .array names => pure [(name, Dependency.names (names.filterMap Json.string?))]
        | _ => pure []
      return compiled ++ (← compileDependencies scope rest)

/-- The check of a keyword; a value of the wrong form leaves none. -/
def compileKeyword (members : List (String × Json)) (scope : Scope) (keyword : Keyword)
    (value : Json) : Compiling (Option Check) :=
  match keyword with
  | .type => pure ((typeNames? value).map .types)
  | .enum => pure (value.elements?.map .enum)
  | .minimum => pure (value.binary64?.map .minimum)
  | .exclusiveMinimum => pure ((exclusiveBound? members value .minimum).map .exclusiveMinimum)
  | .maximum => pure (value.binary64?.map .maximum)
  | .exclusiveMaximum => pure ((exclusiveBound? members value .maximum).map .exclusiveMaximum)
  | .multipleOf =>
      pure (value.binary64?.map fun divisor => .multipleOf (Divisor.ofBinary64 divisor))
  | .minLength => pure ((count? value).map .minLength)
  | .maxLength => pure ((count? value).map .maxLength)
  | .pattern =>
      match value with
      | .string source => do return some (.pattern (← readPattern .pattern source))
      | _ => pure none
  | .format =>
      match value with
      | .string name =>
          if Entries.hasKey compiler.formats name then pure none
          else pure ((compiler.registry.get? name).map fun format =>
            .format (.ofFormat format members))
      | _ => pure none
  | .minItems => pure ((count? value).map .minItems)
  | .maxItems => pure ((count? value).map .maxItems)
  | .additionalItems =>
      match value, members.lookup "items" with
      | .bool false, some (.array items) => pure (some (.additionalItems items.length))
      | _, _ => pure none
  | .uniqueItems =>
      match value with
      | .bool true => pure (some .uniqueItems)
      | _ => pure none
  | .items => compileItems compile members scope value
  | .maxProperties => pure ((count? value).map .maxProperties)
  | .minProperties => pure ((count? value).map .minProperties)
  | .required => pure ((strings value).map .required)
  | .properties | .patternProperties | .additionalProperties =>
      compileMembers compile members scope
  | .dependencies =>
      match value with
      | .object entries => do
          return some (.dependencies (← compileDependencies compile scope entries))
      | _ => pure none
  | .allOf => do return (← compileBranches compile scope value).map .allOf
  | .anyOf => do return (← compileBranches compile scope value).map .anyOf
  | .oneOf => do return (← compileBranches compile scope value).map .oneOf
  | .not =>
      match value with
      | .object inner => do return some (.not (← compile (.object inner) scope))
      | _ => pure none

def compileKeywords (members : List (String × Json)) (scope : Scope) :
    List Keyword → Compiling (List (Keyword × Check))
  | [] => pure []
  | keyword :: rest => do
      let emitted ← match members.lookup keyword.name with
        | some value => compiler.compileKeyword compile members scope keyword value
        | none => pure none
      let more ← compileKeywords members scope rest
      return (emitted.map fun check => (keyword, check)).toList ++ more

/-- The formats given beside the registry, which take the place of its own. -/
def ownFormats (members : List (String × Json)) : List FormatCheck :=
  match (members.lookup "format").bind Json.string? with
  | some name =>
      (compiler.formats.lookup name).toList.map fun format => FormatCheck.ofFormat format members
  | none => []

def compileReference (schema reference : Json) (scope : Scope) : Compiling Rule :=
  match reference with
  | .string name => do
      match (← get).findIdx? fun slot => slot.scope = scope ∧ slot.reference = name with
      | some slot => return .slot slot
      | none =>
          let slot := (← get).size
          modify fun slots => slots.push ⟨scope, name, none⟩
          let body ← match compiler.documents.resolve schema scope with
            | .error error => throw (.setup (.resolve error))
            | .ok none => pure Rule.free
            | .ok (some (target, targetScope)) => compile target targetScope
          modify fun slots => slots.modify slot fun entry => { entry with body := some body }
          return .slot slot
  | other => throw (.setup (.resolve (.malformed other.render)))

/-- What is no object demands nothing; a reference overrides what stands beside it. -/
def compileNode (schema : Json) (scope : Scope) : Compiling Rule :=
  match schema with
  | .object members =>
      match members.lookup "$ref" with
      | some reference => compiler.compileReference compile schema reference scope
      | none => do
          let emitted ← compiler.compileKeywords compile members scope (keywordsOf members)
          return .ofChecks emitted (compiler.ownFormats members) (.ofMembers members)
  | _ => pure .free

end Node

def compile (compiler : Compiler) : Nat → Json → Scope → Compiling Rule
  | 0, _, _ => throw .exhausted
  | budget + 1, schema, scope => compiler.compileNode (compiler.compile budget) schema scope

/-- Between one new slot and the next only nodes of one document are entered, each inside the one
before, and there are no more slots than nodes. -/
def budget (compiler : Compiler) : Nat :=
  (compiler.documents.weight + 1) * (compiler.documents.weight + 1)

def run (compiler : Compiler) : Except CompileStop (Rule × Array Rule) := do
  let (entry, slots) ← (compiler.compile compiler.budget compiler.documents.main .main).run #[]
  return (entry, slots.map fun slot => slot.body.getD .free)

end Compiler

end JsonSchema
