import JsonSchema.Proofs.Building.Keeping
import JsonSchema.Proofs.Compiling.Nodes
import JsonSchema.Proofs.Interpreting.Asking

set_option autoImplicit false

/-! Building keeps what the validator accepts. A node that a run applies somewhere accepts what a valid value
has there: the builder goes to no node and no part of a value to which the validator does not go. So
an undeclared member of a node that closes its objects matches a pattern of the node, and such members are
all that building a valid value can drop; the main statement is `Validator.build_retains`. -/

namespace JsonSchema

namespace Builder

variable {builder : Builder} {visit node : Visit} {budget : Nat} {location : List Step}
  {interpreter : Interpreter} {slots : Array Slot} {schema value part : Json} {scope : Scope}

theorem Task.part_eq_at? (task : Task) (value : Json) :
    task.part (some value) = value.at? task.place.toList := by
  unfold part
  cases task.place with
  | none => rfl
  | some step => exact (Option.bind_fun_some _).symm

theorem IsTask.isObject {task : Task} (isTask : IsTask schema task) : schema.isObject = true := by
  obtain ⟨_, rfl⟩ := isTask.ofObject
  rfl

theorem IsTask.accepts {task : Task} (isTask : IsTask schema task)
    (distinct : schema.keysDistinct = true) (noReference : schema.field? "$ref" = none)
    (accepts : interpreter.Accepts slots ⟨schema, scope⟩ value)
    (isPart : task.part (some value) = some part) :
    interpreter.Accepts slots ⟨task.schema, scope⟩ part := by
  cases schema with
  | object members =>
      cases isTask with
      | @member properties property declared isProperty =>
          obtain ⟨written, found, isObject⟩ := Option.bind_eq_some_iff.mp declared
          have ofWritten := (Json.Part.of_field found).keysDistinct distinct
          have isFirst := Entries.lookup_of_mem (Json.nodup_names isObject ofWritten) isProperty
          obtain ⟨inside, rfl, atName⟩ := Json.member_of_part? isPart
          obtain rfl := Json.members?_eq_some_iff.mp isObject
          exact accepts.inner noReference (Interpreter.property_demanded atName found isFirst)
      | position found isItem =>
          obtain ⟨elements, rfl, atIndex⟩ := Json.element_of_part? isPart
          exact accepts.inner noReference (Interpreter.position_demanded atIndex found isItem)
      | additional found written beyond =>
          obtain ⟨elements, rfl, atIndex⟩ := Json.element_of_part? isPart
          exact accepts.inner noReference
            (Interpreter.additional_demanded atIndex found written beyond)
      | each found =>
          obtain ⟨elements, rfl, atIndex⟩ := Json.element_of_part? isPart
          exact accepts.inner noReference (Interpreter.each_demanded atIndex found)
      | branch found isBranch =>
          obtain rfl := Option.some.inj isPart
          exact accepts.same noReference (Interpreter.branch_demanded found isBranch _)
  | _ => cases isTask.isObject

theorem Applies.accepts (filled : interpreter.Filled slots)
    (sameDocuments : interpreter.documents = builder.documents)
    (distinct : builder.documents.keysDistinct = true)
    (applies : builder.Applies budget visit location node)
    (comes : builder.documents.ComesTo visit.schema visit.scope)
    (accepts : interpreter.Accepts slots ⟨visit.schema, visit.scope⟩ value)
    (isPart : value.at? location = some part) :
    interpreter.Accepts slots ⟨node.schema, node.scope⟩ part := by
  induction applies generalizing value with
  | here enters =>
      obtain rfl := Option.some.inj isPart
      exact accepts.resolve filled (sameDocuments ▸ enters.resolved)
  | @inside _ visit node _ location task before after current undeclared enters tasks ran applies ih =>
      have isTask := Visit.mem_of_split tasks
      rw [Json.at?_append, ← task.part_eq_at?] at isPart
      obtain ⟨inner, isInner, below⟩ := Option.bind_eq_some_iff.mp isPart
      have atNode : interpreter.Accepts slots ⟨node.schema, node.scope⟩ value :=
        accepts.resolve filled (sameDocuments ▸ enters.resolved)
      have ofNode := Documents.keysDistinct_of_holds distinct (enters.comesTo comes).holds
      have atTask := (Visit.isTask_of_mem isTask).accepts ofNode enters.noReference atNode isInner
      exact ih (enters.task_comesTo comes isTask) atTask below

theorem Applies.noReference (applies : builder.Applies budget visit location node) :
    node.schema.field? "$ref" = none := by
  induction applies with
  | here enters => exact enters.noReference
  | inside _ _ _ _ ih => exact ih

end Builder

/-- A node with `properties` closes objects, does not declare a name, and lets them have it because the name
matches a pattern. -/
structure Json.AllowsByPattern (schema : Json) (name : String) : Prop where
  closed : schema.field? "additionalProperties" = some (.bool false)
  undeclared : ∃ properties, (schema.field? "properties").bind Json.members? = some properties ∧
    name ∉ Entries.names properties
  isMatch : schema.matchesPattern name = true

/-- A node that accepts an object, and excludes the name of one of its members, allows it by a pattern. -/
theorem Interpreter.Accepts.allowsByPattern {interpreter : Interpreter} {slots : Array Slot}
    {documents : Documents} {schema part : Json} {scope : Scope} {inside : List (String × Json)}
    {name : String} (accepts : interpreter.Accepts slots ⟨schema, scope⟩ (.object inside))
    (noReference : schema.field? "$ref" = none) (found : inside.lookup name = some part)
    (excludes : Builder.excludes ⟨documents, true⟩ name schema = true) :
    schema.AllowsByPattern name := by
  obtain ⟨properties, declared, drops, undeclared⟩ := Builder.excludes_iff.mp excludes
  have closed := Builder.dropsUndeclared_of_allowed drops
  refine ⟨closed, ⟨properties, declared, undeclared⟩, ?_⟩
  cases schema with
  | object members =>
      change (members.lookup "properties").bind Json.members? = some properties at declared
      refine accepts.matchesPattern noReference found closed ?_
      rw [declared]
      exact Entries.lookup_eq_none_iff.mpr undeclared
  | _ => cases closed

/-- Building keeps what the validator accepts. Where members that are not declared are allowed, a run that
ends gives back a valid value with all its keys, at any depth, except for members that a node drops which
closes its objects and allows the member only by a pattern. The run may take any budget. -/
theorem Validator.build_retains {schema : Json} {options : Options} {validator : Validator}
    {value : Json} {budget : Nat} {built : Built} (compiled : compile schema options = .ok validator)
    (distinct : validator.documents.keysDistinct = true) (ofValue : value.keysDistinct = true)
    (valid : validator.isValid value = .ok true)
    (ends : Builder.build ⟨validator.documents, true⟩ budget validator.documents.main .main .start
      (some value) = .ok built) :
    let builder : Builder := ⟨validator.documents, true⟩
    let start : Visit := ⟨validator.documents.main, .main, .start, some value⟩
    ∃ final, built.value = some final ∧
      ∀ location part, value.at? location = some part → (final.at? location).isSome = true ∨
        ∃ before name after node, location = before ++ .member name :: after ∧
          builder.Drops budget start before name ∧ builder.Applies budget start before node ∧
          node.schema.AllowsByPattern name := by
  intro builder start
  have proper : builder.Proper start := ⟨.main, Json.distinctIn_some ofValue⟩
  obtain ⟨_, ran, sameDocuments, _⟩ := compile_eq_ok compiled
  obtain ⟨slots, sameTable, filled, depth, represents⟩ := Compiler.represents_of_run ran
  obtain ⟨final, isFinal, kept⟩ := Builder.build_keeps distinct proper built value ends rfl
  refine ⟨final, isFinal, ?_⟩
  intro location part found
  rcases kept.at? found with ⟨later, there⟩ | ⟨before, name, after, rfl, drops⟩
  · left
    rw [there]
    rfl
  · right
    obtain ⟨node, properties, applies, _, excludes⟩ := drops.applies
    rw [Json.at?_append] at found
    obtain ⟨whole, isWhole, below⟩ := Option.bind_eq_some_iff.mp found
    obtain ⟨member, isMember, _⟩ := Option.bind_eq_some_iff.mp below
    obtain ⟨inside, rfl, atName⟩ := Json.member_of_part? isMember
    have ofEntry := accepts_of_isValid valid
    rw [sameTable] at ofEntry
    have atMain : (Interpreter.ofOptions schema options).Accepts slots
        ⟨validator.documents.main, .main⟩ value := by
      rw [sameDocuments]
      exact ⟨depth, validator.entry, represents, ofEntry⟩
    have sameAsBuilder : (Interpreter.ofOptions schema options).documents = builder.documents :=
      sameDocuments.symm
    have accepts := applies.accepts filled sameAsBuilder distinct .main atMain isWhole
    exact ⟨before, name, after, node, rfl, drops, applies,
      accepts.allowsByPattern applies.noReference atName excludes⟩

def infoSchema : Json :=
  let info := .object [("properties", .object [("title", .object [])]),
    ("patternProperties", .object [("^x-", .object [])]), ("additionalProperties", .bool false)]
  .object [("properties", .object [("info", info), ("tags", .object [("items", .object [])])])]

/-- Building drops an extension, with which the value is valid. -/
theorem Validator.build_drops_extension :
    ∃ validator, Validator.compile infoSchema .default = .ok validator ∧
      let given : Json := .object [("info", .object [("x-note", .string "b")])]
      let final : Json := .object [("info", .object [])]
      validator.isValid given = .ok true ∧ validator.build (some given) true = .ok (some final) ∧
        given.at? [.member "info", .member "x-note"] = some (.string "b") ∧
        final.at? [.member "info", .member "x-note"] = none := by
  let given : Json := .object [("info", .object [("x-note", .string "b")])]
  let final : Json := .object [("info", .object [])]
  have ran : ((Validator.compile infoSchema .default).toOption.map fun validator =>
      (validator.isValid given, validator.build (some given) true)) =
        some (.ok true, .ok (some final)) := rfl
  cases compiled : Validator.compile infoSchema .default with
  | error stop =>
      rw [compiled] at ran
      cases ran
  | ok validator =>
      rw [compiled] at ran
      obtain ⟨valid, built⟩ := Prod.mk.inj (Option.some.inj ran)
      exact ⟨validator, rfl, valid, built, rfl, rfl⟩

theorem Validator.build_retains_info :
    ∃ validator, Validator.compile infoSchema .default = .ok validator ∧
      let builder : Builder := ⟨validator.documents, true⟩
      let given : Json := .object [("info", .object [("title", .string "a"), ("x-note", .string "b")]),
        ("tags", .array [.string "c"])]
      let final : Json := .object [("info", .object [("title", .string "a")]),
        ("tags", .array [.string "c"])]
      let start : Visit := ⟨validator.documents.main, .main, .start, some given⟩
      validator.isValid given = .ok true ∧ validator.build (some given) true = .ok (some final) ∧
        ∀ location part, given.at? location = some part → (final.at? location).isSome = true ∨
          ∃ before name after node, location = before ++ .member name :: after ∧
            builder.Drops (builder.budget (some given)) start before name ∧
            builder.Applies (builder.budget (some given)) start before node ∧
            node.schema.AllowsByPattern name := by
  let given : Json := .object [("info", .object [("title", .string "a"), ("x-note", .string "b")]),
    ("tags", .array [.string "c"])]
  let final : Json := .object [("info", .object [("title", .string "a")]),
    ("tags", .array [.string "c"])]
  have ran : ((Validator.compile infoSchema .default).toOption.map fun validator =>
      (validator.isValid given, validator.build (some given) true)) =
        some (.ok true, .ok (some final)) := rfl
  cases compiled : Validator.compile infoSchema .default with
  | error stop =>
      rw [compiled] at ran
      cases ran
  | ok validator =>
      rw [compiled] at ran
      obtain ⟨valid, built⟩ := Prod.mk.inj (Option.some.inj ran)
      obtain ⟨_, _, documents, _⟩ := Validator.compile_eq_ok compiled
      have distinct : validator.documents.keysDistinct = true := by
        rw [documents]
        decide +kernel
      obtain ⟨result, ends, isFinal⟩ := ends_of_bind built
      obtain ⟨last, isLast, retained⟩ :=
        Validator.build_retains compiled distinct (by decide +kernel) valid ends
      obtain rfl : last = final := Option.some.inj (isLast.symm.trans (Except.ok.inj isFinal))
      exact ⟨validator, rfl, valid, built, retained⟩

end JsonSchema
