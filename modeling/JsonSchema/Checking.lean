import JsonSchema.Equality
import JsonSchema.Rule

set_option autoImplicit false

/-! Checking a value against rules. A check that fails writes an error to the log; unless the checker
is greedy the first one ends the run. Inside `anyOf`, `oneOf` and `not` a branch is only tried: its
errors end nothing and are taken back. A slot that is entered again at the same depth of the value
adds no demand. -/

namespace JsonSchema

structure Exhausted where
deriving DecidableEq

/-- Where checking stands: the way from the root to the value, innermost token first, the slots being
checked with the depth at which each was entered, and the errors so far. -/
structure Progress where
  tokens : List String
  active : List (Nat × Nat)
  errors : Array ValidationError

def Progress.start : Progress := ⟨[], [], #[]⟩

inductive Halt where
  | failFast
  | exhausted
deriving DecidableEq

abbrev Checking := EStateM Halt Progress

structure Checker where
  table : Array Rule
  greedy : Bool

/-- The place of an error. A property that is missing is named behind the place of the object, with
a point between unless that place is empty. -/
def errorPath (tokens : List String) (property : Option String) : String :=
  let place := String.intercalate "." tokens.reverse
  match property with
  | none => place
  | some name => if place.isEmpty then name else place ++ "." ++ name

namespace Check

def keyword : Check → Keyword
  | .types _ => .type
  | .enum _ => .enum
  | .minimum _ => .minimum
  | .exclusiveMinimum _ => .exclusiveMinimum
  | .maximum _ => .maximum
  | .exclusiveMaximum _ => .exclusiveMaximum
  | .multipleOf _ => .multipleOf
  | .minLength _ => .minLength
  | .maxLength _ => .maxLength
  | .pattern _ => .pattern
  | .format _ => .format
  | .minItems _ => .minItems
  | .maxItems _ => .maxItems
  | .additionalItems _ => .additionalItems
  | .uniqueItems => .uniqueItems
  | .items _ | .tuple _ _ => .items
  | .maxProperties _ => .maxProperties
  | .minProperties _ => .minProperties
  | .required _ => .required
  | .properties _ => .properties
  | .members _ _ _ => .additionalProperties
  | .dependencies _ => .dependencies
  | .allOf _ => .allOf
  | .anyOf _ => .anyOf
  | .oneOf _ => .oneOf
  | .not _ => .not

def charCount (value : Json) : Nat := (value.string?.map String.length).getD 0

def elementCount (value : Json) : Nat := (value.elements?.map List.length).getD 0

def memberCount (value : Json) : Nat := (value.members?.map List.length).getD 0

/-- Whether a check that has no rules inside, and is about no single property, fails for a value. -/
def fails (check : Check) (value : Json) : Bool :=
  match check with
  | .types names => !names.any (·.accepts value)
  | .enum values => !values.any (·.same value)
  | .minimum bound => value.binary64?.any (·.less bound)
  | .exclusiveMinimum bound => value.binary64?.any (·.same bound)
  | .maximum bound => value.binary64?.any bound.less
  | .exclusiveMaximum bound => value.binary64?.any (·.same bound)
  | .multipleOf divisor => value.binary64?.any fun number => !divisor.divides number
  | .minLength bound => charCount value < bound
  | .maxLength bound => bound < charCount value
  | .pattern regex => value.string?.any fun text => !regex.matchesIn text
  | .format named => !named.accepts value
  | .minItems bound => elementCount value < bound
  | .maxItems bound => bound < elementCount value
  | .additionalItems declared => declared < elementCount value
  | .uniqueItems => value.elements?.any fun elements => (Json.unique elements).length != elements.length
  | .maxProperties bound => bound < memberCount value
  | .minProperties bound => memberCount value < bound
  | _ => false

end Check

namespace Checking

def below (token : String) (body : Checking Unit) : Checking Unit := do
  modify fun progress => { progress with tokens := token :: progress.tokens }
  body
  modify fun progress => { progress with tokens := progress.tokens.drop 1 }

def succeeds (body : Checking Unit) : Checking Bool := do
  let before := (← get).errors.size
  body
  return (← get).errors.size == before

/-- Whether one of several computations logs no error; those after the first such are not run. -/
def firstSucceeds : List (Checking Unit) → Checking Bool
  | [] => pure false
  | body :: rest => do
      if ← succeeds body then return true
      firstSucceeds rest

def countSucceeding : List (Checking Unit) → Checking Nat
  | [] => pure 0
  | body :: rest => do
      let success ← succeeds body
      let more ← countSucceeding rest
      return success.toNat + more

/-- Runs a computation and takes its errors back. -/
def withoutErrors {Answer : Type} (body : Checking Answer) : Checking Answer := do
  let before := (← get).errors.size
  let answer ← body
  modify fun progress => { progress with errors := progress.errors.shrink before }
  return answer

end Checking

namespace Checker

open Checking

def report (checker : Checker) (messages : Messages) (keyword : Keyword)
    (property : Option String) (tried : Bool) : Checking Unit := do
  modify fun progress =>
    let error : ValidationError :=
      ⟨errorPath progress.tokens property, keyword, messages.find? keyword property⟩
    { progress with errors := progress.errors.push error }
  if checker.greedy || tried then return ()
  throw .failFast

section Node

/-! The functions of this section check one rule; `visit` stands for checking the rules inside it.
`tried` tells that the rule is only tried. -/

variable (checker : Checker) (visit : Rule → Json → Bool → Checking Unit)

def checkElements (each : Rule) (tried : Bool) (first : Nat) (elements : List Json) :
    Checking Unit :=
  (elements.zipIdx first).forM fun (element, index) =>
    below (toString index) (visit each element tried)

def checkTuple (declared : List Rule) (tried : Bool) (elements : List Json) : Checking Unit :=
  (declared.zip elements).zipIdx.forM fun ((rule, element), index) =>
    below (toString index) (visit rule element tried)

def checkDeclared (declared : List (String × Rule)) (tried : Bool)
    (members : List (String × Json)) : Checking Unit :=
  declared.forM fun (name, rule) =>
    match members.lookup name with
    | some value => below name (visit rule value tried)
    | none => pure ()

/-- The rules that a member has to keep: the declared one, then those of the patterns that match. -/
def rulesFor (declared : List (String × Rule)) (patterns : List (Regex × Rule)) (name : String) :
    List Rule :=
  (declared.lookup name).toList ++
    (patterns.filter fun (regex, _) => regex.matchesIn name).map (·.2)

def checkMembers (messages : Messages) (declared : List (String × Rule))
    (patterns : List (Regex × Rule)) (additional : Additional) (tried : Bool)
    (members : List (String × Json)) : Checking Unit :=
  members.forM fun (name, value) =>
    match rulesFor declared patterns name with
    | [] =>
        match additional with
        | .allowed => pure ()
        | .forbidden => checker.report messages .additionalProperties none tried
        | .rule rule => below name (visit rule value tried)
    | rules => rules.forM fun rule => below name (visit rule value tried)

def requireAll (messages : Messages) (keyword : Keyword) (names : List String) (tried : Bool)
    (members : List (String × Json)) : Checking Unit :=
  names.forM fun name =>
    if Entries.hasKey members name then pure ()
    else checker.report messages keyword (some name) tried

def checkDependencies (messages : Messages) (entries : List (String × Dependency)) (tried : Bool)
    (members : List (String × Json)) : Checking Unit :=
  entries.forM fun (name, dependency) =>
    if Entries.hasKey members name then
      match dependency with
      | .rule rule => visit rule (.object members) tried
      | .names names => checker.requireAll messages .dependencies names tried members
    else pure ()

def check (messages : Messages) (value : Json) (tried : Bool) (check : Check) : Checking Unit :=
  let tries (branches : List Rule) := branches.map fun branch => visit branch value true
  match check with
  | .items each => checkElements visit each tried 0 (value.elements?.getD [])
  | .tuple declared additional => do
      let elements := value.elements?.getD []
      checkTuple visit declared tried elements
      match additional with
      | some rule => checkElements visit rule tried declared.length (elements.drop declared.length)
      | none => pure ()
  | .required names =>
      match value with
      | .object members => checker.requireAll messages .required names tried members
      | _ => pure ()
  | .properties declared =>
      checkDeclared visit declared tried (value.members?.getD [])
  | .members declared patterns additional =>
      checker.checkMembers visit messages declared patterns additional tried
        (value.members?.getD [])
  | .dependencies entries =>
      match value with
      | .object members => checker.checkDependencies visit messages entries tried members
      | _ => pure ()
  | .allOf branches => branches.forM fun branch => visit branch value tried
  | .anyOf branches => do
      let found ← withoutErrors (firstSucceeds (tries branches))
      if found then pure () else checker.report messages .anyOf none tried
  | .oneOf branches => do
      let count ← withoutErrors (countSucceeding (tries branches))
      if count = 1 then pure () else checker.report messages .oneOf none tried
  | .not rule => do
      let found ← withoutErrors (succeeds (visit rule value true))
      if found then checker.report messages .not none tried else pure ()
  | simple =>
      if simple.fails value then checker.report messages simple.keyword none tried else pure ()

def checkNode (general : List Check) (guarded : List (Kind × List Check))
    (formats : List FormatCheck) (messages : Messages) (value : Json) (tried : Bool) :
    Checking Unit := do
  general.forM (checker.check visit messages value tried)
  guarded.forM fun (kind, checks) =>
    if kind.accepts value then checks.forM (checker.check visit messages value tried) else pure ()
  formats.forM fun format =>
    if format.accepts value then pure () else checker.report messages .format none tried

def checkSlot (slot : Nat) (value : Json) (tried : Bool) : Checking Unit := do
  let progress ← get
  let entry := (slot, progress.tokens.length)
  if entry ∈ progress.active then return ()
  match checker.table[slot]? with
  | none => return ()
  | some rule =>
      set { progress with active := entry :: progress.active }
      visit rule value tried
      modify fun progress => { progress with active := progress.active.drop 1 }

def visitRule (rule : Rule) (value : Json) (tried : Bool) : Checking Unit :=
  match rule with
  | .free => pure ()
  | .slot slot => checker.checkSlot visit slot value tried
  | .checks general guarded formats messages =>
      checker.checkNode visit general guarded formats messages value tried

end Node

def visit (checker : Checker) : Nat → Rule → Json → Bool → Checking Unit
  | 0, _, _, _ => throw .exhausted
  | budget + 1, rule, value, tried => checker.visitRule (checker.visit budget) rule value tried

/-- The greatest height of a rule and of those in the table. -/
def height (checker : Checker) (entry : Rule) : Nat :=
  checker.table.foldl (fun height rule => max height rule.height) entry.height

/-- At each depth of the value every slot is entered at most once, and between two slots rules only
nest. -/
def budget (checker : Checker) (entry : Rule) (value : Json) : Nat :=
  (value.depth + 1) * (checker.table.size + 1) * (checker.height entry + 1)

/-- The errors of a value in the order in which they are found. -/
def errors (checker : Checker) (entry : Rule) (value : Json) :
    Except Exhausted (List ValidationError) :=
  match checker.visit (checker.budget entry value) entry value false .start with
  | .ok _ progress => .ok progress.errors.toList
  | .error .failFast progress => .ok progress.errors.toList
  | .error .exhausted _ => .error ⟨⟩

end Checker

end JsonSchema
