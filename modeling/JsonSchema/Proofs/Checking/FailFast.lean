import JsonSchema.Validator
import JsonSchema.Proofs.Checking.Budget

set_option autoImplicit false

/-! A check that stops at the first error against one that goes on. Compiling does not look at the mode,
so both run the same rules, and both are drawn from what these find: one list of errors, cut after
its first error or not at all. -/

namespace JsonSchema

namespace Validator

def inMode (validator : Validator) (greedy : Bool) : Validator :=
  { validator with checker := { validator.checker with greedy := greedy } }

private theorem compile_inMode {schema : Json} {options : Options} {validator : Validator}
    (compiled : compile schema options = .ok validator) (greedy : Bool) :
    compile schema { options with greedy := greedy } = .ok (validator.inMode greedy) := by
  obtain ⟨isObject, ran, documents, _⟩ := compile_eq_ok compiled
  unfold compile
  dsimp only
  rw [if_pos isObject, ran, inMode, documents]
  rfl

private theorem validate_inMode (validator : Validator) (value : Json) :
    ∃ found : List ValidationError, ∀ greedy : Bool,
      (validator.inMode greedy).validate value = .ok (if greedy then found else found.take 1) := by
  obtain ⟨found, known⟩ := validator.checker.findings_known validator.entry value
  refine ⟨found, fun greedy => ?_⟩
  exact (validator.inMode greedy).checker.errors_of_findings known

theorem isValid_of_validate {validator : Validator} {value : Json} {errors : List ValidationError}
    (validated : validator.validate value = .ok errors) :
    validator.isValid value = .ok errors.isEmpty := by
  rw [isValid, validated]
  rfl

/-- A validator that stops at the first error reports the first error that the greedy validator of the
same schema reports, and nothing when that reports nothing. Both agree on validity, and the first
reports exactly one error exactly for the values that are not valid. -/
theorem failFast_eq_head_of_greedy {schema : Json} {options : Options} {validator : Validator}
    (compiled : compile schema options = .ok validator) :
    ∃ quick thorough : Validator,
      compile schema { options with greedy := false } = .ok quick ∧
      compile schema { options with greedy := true } = .ok thorough ∧
      ∀ value : Json, ∃ (errors : List ValidationError) (valid : Bool),
        thorough.validate value = .ok errors ∧
        quick.validate value = .ok errors.head?.toList ∧
        thorough.isValid value = .ok valid ∧
        quick.isValid value = .ok valid ∧
        (valid = false ↔ ∃ error, quick.validate value = .ok [error]) := by
  refine ⟨validator.inMode false, validator.inMode true, compile_inMode compiled false,
    compile_inMode compiled true, ?_⟩
  intro value
  obtain ⟨found, inModes⟩ := validator.validate_inMode value
  have thorough : (validator.inMode true).validate value = .ok found := inModes true
  have quick : (validator.inMode false).validate value = .ok found.head?.toList := by
    rw [inModes false]
    cases found <;> rfl
  have verdict : found.head?.toList.isEmpty = found.isEmpty := by
    cases found <;> rfl
  refine ⟨found, found.isEmpty, thorough, quick, isValid_of_validate thorough, ?_, ?_⟩
  · rw [isValid_of_validate quick, verdict]
  · rw [quick]
    cases found with
    | nil => simp
    | cons first rest => simp

def chainSchema : Json :=
  .object
    [("type", .string "object"),
      ("required", .array [.string "name"]),
      ("properties", .object
        [("next", .object
          [("anyOf", .array
            [.object [("type", .string "null")], .object [("$ref", .string "#")]])])])]

theorem failFast_eq_head_of_greedy_chain :
    ∃ validator : Validator, compile chainSchema .default = .ok validator ∧
      ∃ quick thorough : Validator,
        compile chainSchema { Options.default with greedy := false } = .ok quick ∧
        compile chainSchema { Options.default with greedy := true } = .ok thorough ∧
        ∀ value : Json, ∃ errors : List ValidationError,
          thorough.validate value = .ok errors ∧
          quick.validate value = .ok errors.head?.toList := by
  have compiles : (compile chainSchema .default).isOk = true := by decide +kernel
  cases compiled : compile chainSchema .default with
  | error stop =>
      rw [compiled] at compiles
      cases compiles
  | ok validator =>
      obtain ⟨quick, thorough, asQuick, asThorough, agree⟩ := failFast_eq_head_of_greedy compiled
      refine ⟨validator, rfl, quick, thorough, asQuick, asThorough, fun value => ?_⟩
      obtain ⟨errors, _, found, first, _⟩ := agree value
      exact ⟨errors, found, first⟩

end Validator

end JsonSchema
