import JsonSchema.Building
import JsonSchema.Checking
import JsonSchema.Compilation

set_option autoImplicit false

/-! Validators: schemas compiled once, to check values and to build them. -/

namespace JsonSchema

structure Options where
  greedy : Bool
  missingRefAllowed : Bool
  schemas : List (String × Json)
  formats : List (String × Format)
  registry : FormatRegistry

namespace Options

def default : Options := ⟨false, false, [], [], .standard⟩

/-- Names a schema for references; of two schemas with one name the later counts. -/
def withSchema (options : Options) (name : String) (schema : Json) : Options :=
  { options with schemas := Entries.insert options.schemas name schema }

/-- Names a format that takes the place of any of the registry with the same name. -/
def withFormat (options : Options) (name : String) (format : Format) : Options :=
  { options with formats := Entries.insert options.formats name format }

end Options

structure Validator where
  documents : Documents
  entry : Rule
  checker : Checker

namespace Validator

def compile (schema : Json) (options : Options) : Except CompileStop Validator :=
  if schema.isObject then do
    let documents : Documents := ⟨schema, options.schemas, options.missingRefAllowed⟩
    let (entry, table) ← Compiler.run ⟨documents, options.registry, options.formats⟩
    return ⟨documents, entry, ⟨table, options.greedy⟩⟩
  else throw (.setup .invalidSchema)

theorem compile_eq_ok {schema : Json} {options : Options} {validator : Validator}
    (compiled : compile schema options = .ok validator) :
    schema.isObject = true ∧
      Compiler.run ⟨⟨schema, options.schemas, options.missingRefAllowed⟩, options.registry,
          options.formats⟩ = .ok (validator.entry, validator.checker.table) ∧
      validator.documents = ⟨schema, options.schemas, options.missingRefAllowed⟩ ∧
      validator.checker.greedy = options.greedy := by
  unfold compile at compiled
  split at compiled
  next isObject =>
    dsimp only at compiled
    cases ran : Compiler.run ⟨⟨schema, options.schemas, options.missingRefAllowed⟩,
        options.registry, options.formats⟩ with
    | error stop =>
        rw [ran] at compiled
        cases compiled
    | ok result =>
        obtain ⟨entry, table⟩ := result
        rw [ran] at compiled
        cases compiled
        exact ⟨isObject, rfl, rfl, rfl⟩
  next => cases compiled

theorem exists_of_isOk (schema : Json) (options : Options)
    (compiles : (compile schema options).isOk = true) :
    ∃ validator, compile schema options = .ok validator ∧
      validator.documents = ⟨schema, options.schemas, options.missingRefAllowed⟩ := by
  cases compiled : compile schema options with
  | error stop =>
      rw [compiled] at compiles
      cases compiles
  | ok validator => exact ⟨validator, rfl, (compile_eq_ok compiled).2.2.1⟩

/-- The errors of a value; none means that it is valid. -/
def validate (validator : Validator) (value : Json) : Except Exhausted (List ValidationError) :=
  validator.checker.errors validator.entry value

def isValid (validator : Validator) (value : Json) : Except Exhausted Bool := do
  return (← validator.validate value).isEmpty

/-- Completes a value by the defaults of the schema. Without `additionalAllowed` members that are not
declared are dropped, unless the schema itself allows them. -/
def build (validator : Validator) (value : Option Json) (additionalAllowed : Bool) :
    Except Exhausted (Option Json) :=
  Builder.run ⟨validator.documents, additionalAllowed⟩ value

def buildInPlace (validator : Validator) (value : Json) (additionalAllowed : Bool) :
    Except Exhausted Json :=
  Builder.runInPlace ⟨validator.documents, additionalAllowed⟩ value

end Validator

end JsonSchema
