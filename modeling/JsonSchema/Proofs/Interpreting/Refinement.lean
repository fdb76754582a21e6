import JsonSchema.Proofs.Checking.Budget
import JsonSchema.Proofs.Compiling.Nodes

set_option autoImplicit false

/-! Compiled schemas mean what schemas mean. The compiler exchanges nodes for rules that represent them,
such rules find what the interpreter finds, and the checker reports what its rules find. -/

namespace JsonSchema

namespace Validator

/-- A validator reports what the interpreter finds in a value, all of it or the first of it, whenever the
interpreter comes to an end on the value. -/
theorem validate_eq_of_finds {schema : Json} {options : Options} {validator : Validator}
    (compiled : compile schema options = .ok validator) {value : Json}
    {errors : List ValidationError}
    (finds : (Interpreter.ofOptions schema options).Finds value errors) :
    validator.validate value = .ok (if options.greedy then errors else errors.take 1) := by
  obtain ⟨_, ran, _, mode⟩ := compile_eq_ok compiled
  obtain ⟨slots, sameTable, filled, depth, represents⟩ := Compiler.represents_of_run ran
  obtain ⟨fuel, interpreted⟩ := finds
  obtain ⟨found, known, reported⟩ :=
    validator.checker.errors_eq_findings validator.entry value
  rw [sameTable] at known
  have same : errors = found := by
    refine Interpreter.agree_of_represents filled represents ?_ errors found interpreted known
    intro index isOpen
    cases isOpen
  rw [validate, reported, mode, same]

def familySchema : Json :=
  .object
    [("required", .array [.string "name"]),
      ("properties", .object
        [("parent", .object
          [("anyOf", .array
            [.object [("type", .string "null")], .object [("$ref", .string "#")]])])])]

theorem validate_eq_of_finds_family :
    ∃ validator : Validator, compile familySchema .default = .ok validator ∧
      validator.validate (.object [("parent", .object [])]) = .ok [⟨"name", .required, none⟩] := by
  have compiles : (compile familySchema .default).isOk = true := by decide +kernel
  cases compiled : compile familySchema .default with
  | error stop =>
      rw [compiled] at compiles
      cases compiles
  | ok validator =>
      have finds : (Interpreter.ofOptions familySchema .default).Finds
          (.object [("parent", .object [])])
          [⟨"name", .required, none⟩, ⟨"parent", .anyOf, none⟩] := ⟨5, rfl⟩
      exact ⟨validator, rfl, validate_eq_of_finds compiled finds⟩

end Validator

end JsonSchema
