import JsonSchema.Format
import JsonSchema.Multiple
import JsonSchema.Report

set_option autoImplicit false

/-! Compiled schemas. A rule is what one schema node demands of a value; references are numbers of
slots in a table of rules, so that rules may go in circles. A rule holds nothing of the schema that
checking does not ask for. -/

namespace JsonSchema

structure FormatCheck where
  format : Format
  schema : Json

namespace FormatCheck

/-- Patterns never look at the node. -/
def ofFormat (format : Format) (members : List (String × Json)) : FormatCheck :=
  match format with
  | .pattern _ => ⟨format, .null⟩
  | .predicate _ => ⟨format, .object members⟩

def accepts (check : FormatCheck) (value : Json) : Bool := check.format.accepts value check.schema

end FormatCheck

mutual

/-- What a schema node demands: nothing, what a slot demands, or checks. General checks come first,
then those of each kind for values of that kind, then the formats that are not of the registry. -/
inductive Rule where
  | free
  | slot (slot : Nat)
  | checks (general : List Check) (guarded : List (Kind × List Check))
      (formats : List FormatCheck) (messages : Messages)

inductive Check where
  | types (names : List TypeName)
  | enum (values : List Json)
  | minimum (bound : Binary64)
  | exclusiveMinimum (bound : Binary64)
  | maximum (bound : Binary64)
  | exclusiveMaximum (bound : Binary64)
  | multipleOf (divisor : Divisor)
  | minLength (bound : Nat)
  | maxLength (bound : Nat)
  | pattern (regex : Regex)
  | format (check : FormatCheck)
  | minItems (bound : Nat)
  | maxItems (bound : Nat)
  | additionalItems (declared : Nat)
  | uniqueItems
  | items (each : Rule)
  | tuple (declared : List Rule) (additional : Option Rule)
  | maxProperties (bound : Nat)
  | minProperties (bound : Nat)
  | required (names : List String)
  | properties (declared : List (String × Rule))
  | members (declared : List (String × Rule)) (patterns : List (Regex × Rule))
      (additional : Additional)
  | dependencies (entries : List (String × Dependency))
  | allOf (branches : List Rule)
  | anyOf (branches : List Rule)
  | oneOf (branches : List Rule)
  | not (rule : Rule)

/-- What is demanded of members that are neither declared nor match a pattern. -/
inductive Additional where
  | allowed
  | forbidden
  | rule (rule : Rule)

/-- What the presence of a member demands: other members, or a rule for the whole object. -/
inductive Dependency where
  | names (names : List String)
  | rule (rule : Rule)

end

mutual

/-- How deeply rules nest, slots not followed. -/
def Rule.height : Rule → Nat
  | .free => 0
  | .slot _ => 0
  | .checks general guarded _ _ => max (Check.heights general) (Check.guardedHeight guarded) + 1

def Check.height : Check → Nat
  | .items each => each.height
  | .tuple declared additional => max (Rule.heights declared) (Rule.optionalHeight additional)
  | .properties declared => Rule.declaredHeight declared
  | .members declared patterns additional =>
      max (Rule.declaredHeight declared) (max (Rule.patternsHeight patterns) additional.height)
  | .dependencies entries => Dependency.heights entries
  | .allOf branches => Rule.heights branches
  | .anyOf branches => Rule.heights branches
  | .oneOf branches => Rule.heights branches
  | .not rule => rule.height
  | _ => 0

def Additional.height : Additional → Nat
  | .rule rule => rule.height
  | _ => 0

def Dependency.height : Dependency → Nat
  | .rule rule => rule.height
  | .names _ => 0

def Check.heights : List Check → Nat
  | [] => 0
  | check :: checks => max check.height (Check.heights checks)

def Check.guardedHeight : List (Kind × List Check) → Nat
  | [] => 0
  | (_, checks) :: rest => max (Check.heights checks) (Check.guardedHeight rest)

def Rule.heights : List Rule → Nat
  | [] => 0
  | rule :: rules => max rule.height (Rule.heights rules)

def Rule.optionalHeight : Option Rule → Nat
  | none => 0
  | some rule => rule.height

def Rule.declaredHeight : List (String × Rule) → Nat
  | [] => 0
  | (_, rule) :: rest => max rule.height (Rule.declaredHeight rest)

def Rule.patternsHeight : List (Regex × Rule) → Nat
  | [] => 0
  | (_, rule) :: rest => max rule.height (Rule.patternsHeight rest)

def Dependency.heights : List (String × Dependency) → Nat
  | [] => 0
  | (_, dependency) :: rest => max dependency.height (Dependency.heights rest)

end

/-- Puts a check behind those of its kind; the first check of a kind opens a group at the end. -/
def Check.addGuarded (kind : Kind) (check : Check) :
    List (Kind × List Check) → List (Kind × List Check)
  | [] => [(kind, [check])]
  | (other, checks) :: rest =>
      if other = kind then (other, checks ++ [check]) :: rest
      else (other, checks) :: Check.addGuarded kind check rest

/-- The checks of one node by kind, from the list of them in the order of their keywords. -/
def Check.grouped (emitted : List (Keyword × Check)) : List Check × List (Kind × List Check) :=
  emitted.foldl
    (fun (general, guarded) (keyword, check) =>
      match keyword.kind? with
      | none => (general ++ [check], guarded)
      | some kind => (general, Check.addGuarded kind check guarded))
    ([], [])

def Rule.ofChecks (emitted : List (Keyword × Check)) (formats : List FormatCheck)
    (messages : Messages) : Rule :=
  let (general, guarded) := Check.grouped emitted
  .checks general guarded formats messages

end JsonSchema
