import JsonSchema.Proofs.Checking.Budget
import JsonSchema.Proofs.Checking.FailFast
import JsonSchema.Proofs.Interpreting.OpenSlots
import JsonSchema.Proofs.Reordering.Compiling
import JsonSchema.Proofs.Reordering.Findings

set_option autoImplicit false

/-! The order of keys does not decide a verdict. Two schemas that differ in nothing but the order of keys
are compiled to tables with the same references, numbered differently; at each place of a value the
slots of the same references are open, and the same errors are found in some order. The main statement
is `Validator.errors_of_reordered`. -/

namespace JsonSchema

namespace Interpreter

/-! ### The rules of nodes that correspond -/

structure Compiled (interpreter changed : Interpreter) (slots others : Array Slot) : Prop where
  same : interpreter.Reordered changed
  free : interpreter.OrderFree
  filled : interpreter.Filled slots
  otherFilled : changed.Filled others
  distinct : (Compiler.keys slots).Nodup
  otherDistinct : (Compiler.keys others).Nodup

def Twin (interpreter changed : Interpreter) (slots others : Array Slot) (rule other : Rule) : Prop :=
  ∃ node otherNode, SchemaNode.Reordered node otherNode ∧
    (∃ depth, interpreter.Represents slots depth node rule) ∧
    ∃ depth, changed.Represents others depth otherNode other

inductive Twins (interpreter changed : Interpreter) (slots others : Array Slot) :
    (rule other : Rule) → Prop where
  | free : Twins interpreter changed slots others .free .free
  | slot {index otherIndex : Nat} {slot other : Slot} (atIndex : slots[index]? = some slot)
      (atOther : others[otherIndex]? = some other) (same : slot.key = other.key) :
      Twins interpreter changed slots others (.slot index) (.slot otherIndex)
  | checks {general otherGeneral : List Check} {guarded otherGuarded : List (Kind × List Check)}
      {formats otherFormats : List FormatCheck} {messages otherMessages : Messages}
      (demands : ∀ value other, value.Reordered other →
        Demand.AllReordered (interpreter.Twin changed slots others)
          (Rule.demands general guarded formats messages value)
          (Rule.demands otherGeneral otherGuarded otherFormats otherMessages other)) :
      Twins interpreter changed slots others (.checks general guarded formats messages)
        (.checks otherGeneral otherGuarded otherFormats otherMessages)

variable {interpreter changed : Interpreter} {slots others : Array Slot}

theorem Compiled.twins (compiled : Compiled interpreter changed slots others) {rule other : Rule}
    (twin : interpreter.Twin changed slots others rule other) :
    Twins interpreter changed slots others rule other := by
  obtain ⟨⟨schema, scope⟩, ⟨otherSchema, _⟩, ⟨schemas, rfl⟩, ⟨depth, represents⟩,
    otherDepth, otherRepresents⟩ := twin
  cases depth with
  | zero => exact represents.elim
  | succ depth =>
  cases otherDepth with
  | zero => exact otherRepresents.elim
  | succ otherDepth =>
  rw [Represents] at represents otherRepresents
  cases schemas with
  | @object members otherMembers isDistinct names each =>
      have reordered : Entries.Reordered Json.Reordered members otherMembers :=
        ⟨isDistinct, names, each⟩
      dsimp only at represents otherRepresents
      cases atReference : members.lookup "$ref" with
      | some reference =>
          rw [atReference] at represents
          obtain ⟨index, slot, atIndex, rfl, rfl, rfl⟩ := represents
          rw [reordered.lookup_string atReference] at otherRepresents
          obtain ⟨otherIndex, other, atOther, sameScope, sameReference, rfl⟩ := otherRepresents
          exact .slot atIndex atOther (Prod.ext sameScope.symm (Json.string.inj sameReference))
      | none =>
          rw [atReference] at represents
          rw [Optional.eq_none (reordered.lookup "$ref") atReference] at otherRepresents
          obtain ⟨general, guarded, formats, messages, rfl, alike⟩ := represents
          obtain ⟨otherGeneral, otherGuarded, otherFormats, otherMessages, rfl, otherAlike⟩ :=
            otherRepresents
          refine .checks fun value other values => ?_
          have demands := reordered_demands compiled.same compiled.free reordered scope values
          apply (Demand.allReordered_exchange demands (alike value) (otherAlike other)).imp
          intro demand otherDemand reordered
          apply reordered.imp
          rintro rule other ⟨node, otherNode, nodes, stands, otherStands⟩
          exact ⟨node, otherNode, nodes, ⟨depth, stands⟩, otherDepth, otherStands⟩
  | _ =>
      dsimp only at represents otherRepresents
      subst represents otherRepresents
      exact .free

private theorem twin_free : interpreter.Twin changed slots others .free .free := by
  have nodes : SchemaNode.Reordered ⟨.null, .main⟩ ⟨.null, .main⟩ := ⟨.null, rfl⟩
  exact ⟨_, _, nodes, ⟨1, rfl⟩, 1, rfl⟩

theorem Compiled.bodies_twin (compiled : Compiled interpreter changed slots others)
    {index otherIndex : Nat} {slot other : Slot} (atIndex : slots[index]? = some slot)
    (atOther : others[otherIndex]? = some other) (same : slot.key = other.key) :
    ∃ body otherBody, (bodies slots)[index]? = some body ∧
      (bodies others)[otherIndex]? = some otherBody ∧
      interpreter.Twin changed slots others body otherBody := by
  obtain ⟨body, isFilled, fits⟩ := compiled.filled index slot atIndex
  obtain ⟨otherBody, isOtherFilled, otherFits⟩ := compiled.otherFilled otherIndex other atOther
  refine ⟨body, otherBody, getElem?_bodies atIndex isFilled,
    getElem?_bodies atOther isOtherFilled, ?_⟩
  obtain ⟨sameScope, sameReference⟩ := Prod.mk.inj same
  have nodes : slot.node.schema.Reordered other.node.schema := by
    rw [Slot.node, Slot.node, sameReference]
    exact Json.Reordered.refl_of_keysDistinct _ rfl
  have answers := compiled.same.documents.resolve compiled.free.identified nodes slot.scope
  unfold Fits at fits otherFits
  rw [← sameScope] at otherFits
  revert fits otherFits
  refine Documents.Alike.elim answers ?_ ?_
  · exact fun _ _ fits => fits.elim
  · intro targets otherTargets same fits otherFits
    cases same with
    | none =>
        subst fits otherFits
        exact twin_free
    | some same => exact ⟨_, _, ⟨same.1, same.2⟩, fits, otherFits⟩

/-- Rules of nodes that correspond find the same errors in some order, the same references being open. -/
theorem Compiled.findings_permute (compiled : Compiled interpreter changed slots others)
    {budget otherBudget : Nat} {tokens : List String} {here there : List Nat} {rule other : Rule}
    {value reordered : Json} (twin : interpreter.Twin changed slots others rule other)
    (openAlike : OpenAlike slots others here there) (values : value.Reordered reordered) :
    (Findings.ofRule (bodies slots) budget tokens here rule value).Permute
      (Findings.ofRule (bodies others) otherBudget tokens there other reordered) := by
  induction budget generalizing otherBudget tokens here there rule other value reordered with
  | zero =>
      intro found otherFound known
      cases known
  | succ budget ih =>
      cases otherBudget with
      | zero =>
          intro found otherFound _ known
          cases known
      | succ otherBudget =>
      cases compiled.twins twin with
      | free => exact Findings.permute_refl []
      | slot atIndex atOther same =>
          obtain ⟨body, otherBody, atBody, atOtherBody, bodies⟩ :=
            compiled.bodies_twin atIndex atOther same
          refine openAlike.findings_slot (Findings.permute_refl []) atIndex atOther same atBody
            atOtherBody ?_
          exact ih bodies (openAlike.enter compiled.distinct compiled.otherDistinct atIndex atOther
            same) values
      | checks demands =>
          rw [Findings.ofRule, Findings.ofRule]
          refine Demand.findingsOf_permute ?_ ?_ (demands value reordered values)
          · exact fun left right twin => ih twin openAlike values
          · exact fun token part other left right parts twin => ih twin (.nil slots others) parts

end Interpreter

/-! ### Whole validators -/

structure Options.Reordered (left right : Options) : Prop where
  greedy : left.greedy = right.greedy
  missingRefAllowed : left.missingRefAllowed = right.missingRefAllowed
  schemas : List.Forall₂ (SameEntry Json.Reordered) left.schemas right.schemas
  formats : left.formats = right.formats
  registry : left.registry = right.registry

namespace Validator

variable {schema other : Json} {options others : Options}

private theorem reordered_ofOptions (schemas : schema.Reordered other) (same : options.Reordered others) :
    (Interpreter.ofOptions schema options).Reordered (Interpreter.ofOptions other others) where
  documents := ⟨schemas, same.schemas, same.missingRefAllowed⟩
  registry := same.registry
  formats := same.formats

/-- The entries of two compiled schemas find the same errors in some order. -/
theorem findings_of_reordered {validator changed : Validator}
    (same : (Interpreter.ofOptions schema options).Reordered (Interpreter.ofOptions other others))
    (free : (Interpreter.ofOptions schema options).OrderFree)
    (compiled : compile schema options = .ok validator)
    (otherCompiled : compile other others = .ok changed) {value reordered : Json}
    (values : value.Reordered reordered) (budget otherBudget : Nat) :
    (Findings.ofRule validator.checker.table budget [] [] validator.entry value).Permute
      (Findings.ofRule changed.checker.table otherBudget [] [] changed.entry reordered) := by
  obtain ⟨_, ran, _, _⟩ := compile_eq_ok compiled
  obtain ⟨_, otherRan, _, _⟩ := compile_eq_ok otherCompiled
  obtain ⟨slots, table, compiledSlots⟩ := Compiler.compiled_of_run ran
  obtain ⟨otherSlots, otherTable, otherCompiledSlots⟩ := Compiler.compiled_of_run otherRan
  obtain ⟨filled, represents⟩ := Compiler.represents_of_compile compiledSlots
  obtain ⟨otherFilled, otherRepresents⟩ := Compiler.represents_of_compile otherCompiledSlots
  have both : (Interpreter.ofOptions schema options).Compiled (Interpreter.ofOptions other others)
      slots otherSlots :=
    ⟨same, free, filled, otherFilled, Compiler.nodup_keys_of_compile compiledSlots List.nodup_nil,
      Compiler.nodup_keys_of_compile otherCompiledSlots List.nodup_nil⟩
  rw [table, otherTable]
  refine both.findings_permute ?_ (.nil slots otherSlots) values
  have roots : SchemaNode.Reordered ⟨schema, .main⟩ ⟨other, .main⟩ := ⟨same.documents.main, rfl⟩
  exact ⟨_, _, roots, ⟨_, represents⟩, _, otherRepresents⟩

private theorem isEmpty_limited (greedy : Bool) (found : List ValidationError) :
    (if greedy then found else found.take 1).isEmpty = found.isEmpty := by
  cases greedy <;> cases found <;> rfl

/-- The order of keys decides neither whether a schema is compiled nor which errors are found: with the
keys of the schemas and of the value in another order a greedy validator reports the same errors in
some order, and any validator agrees on what is valid. In no document are two objects to have the same
identifier, and no format is to look at the order of keys. -/
theorem errors_of_reordered (schemas : schema.Reordered other) (same : options.Reordered others)
    (identifiers : schema.identifiers.Nodup)
    (externals : ∀ entry ∈ options.schemas, entry.2.identifiers.Nodup)
    (formats : ∀ entry ∈ options.formats ++ options.registry.formats, entry.2.IgnoresOrder) :
    (compile schema options).isOk = (compile other others).isOk ∧
      ∀ validator changed, compile schema options = .ok validator →
        compile other others = .ok changed → ∀ value reordered, value.Reordered reordered →
          ∃ errors otherErrors, validator.validate value = .ok errors ∧
            changed.validate reordered = .ok otherErrors ∧
            (options.greedy = true → errors.Perm otherErrors) ∧
            ∃ valid, validator.isValid value = .ok valid ∧ changed.isValid reordered = .ok valid := by
  have interpreters := reordered_ofOptions schemas same
  obtain ⟨inFormats, inRegistry⟩ := List.forall_mem_append.mp formats
  have free : (Interpreter.ofOptions schema options).OrderFree :=
    ⟨⟨identifiers, externals⟩, inRegistry, inFormats⟩
  refine ⟨?_, ?_⟩
  · rw [isOk_eq_run, isOk_eq_run, schemas.isObject_eq]
    congr 1
    exact Compiler.run_isOk_eq interpreters.documents free.identified
  · intro validator changed compiled otherCompiled value reordered values
    obtain ⟨_, _, _, mode⟩ := compile_eq_ok compiled
    obtain ⟨_, _, _, otherMode⟩ := compile_eq_ok otherCompiled
    obtain ⟨found, known, reported⟩ :=
      validator.checker.errors_eq_findings validator.entry value
    obtain ⟨otherFound, otherKnown, otherReported⟩ :=
      changed.checker.errors_eq_findings changed.entry reordered
    have perm : found.Perm otherFound := findings_of_reordered interpreters free compiled otherCompiled
      values _ _ found otherFound known otherKnown
    refine ⟨_, _, reported, otherReported, ?_, found.isEmpty, ?_, ?_⟩
    · intro greedy
      have otherGreedy : others.greedy = true := same.greedy ▸ greedy
      rw [mode, otherMode, greedy, otherGreedy]
      exact perm
    · rw [isValid_of_validate reported, isEmpty_limited]
    · rw [isValid_of_validate otherReported, isEmpty_limited, perm.isEmpty_eq]

def personSchema : Json :=
  .object
    [("properties", .object
        [("parent", .object [("$ref", .string "#")]),
          ("name", .object [("type", .string "string")])]),
      ("required", .array [.string "name", .string "age"])]

def personSchemaAgain : Json :=
  .object
    [("required", .array [.string "name", .string "age"]),
      ("properties", .object
        [("name", .object [("type", .string "string")]),
          ("parent", .object [("$ref", .string "#")])])]

private theorem reordered_personSchema : personSchema.Reordered personSchemaAgain := by
  refine .of_shuffled (by decide) (.perm_right ?_ (.swap _ _ _))
  refine .of_forall₂ (.cons ⟨rfl, ?_⟩ (.cons ⟨rfl, .refl_of_keysDistinct _ (by decide)⟩ .nil))
  refine .of_shuffled (by decide) (.perm_right ?_ (.swap _ _ _))
  exact .of_forall₂ (.cons ⟨rfl, .refl_of_keysDistinct _ (by decide)⟩
    (.cons ⟨rfl, .refl_of_keysDistinct _ (by decide)⟩ .nil))

theorem errors_of_reordered_person :
    ∃ validator changed errors otherErrors,
      compile personSchema { Options.default with greedy := true } = .ok validator ∧
      compile personSchemaAgain { Options.default with greedy := true } = .ok changed ∧
      validator.validate (.object [("parent", .object []), ("name", .null)]) = .ok errors ∧
      changed.validate (.object [("name", .null), ("parent", .object [])]) = .ok otherErrors ∧
      errors.Perm otherErrors := by
  have values : (Json.object [("parent", .object []), ("name", .null)]).Reordered
      (.object [("name", .null), ("parent", .object [])]) := by
    refine .of_shuffled (by decide) (.perm_right ?_ (.swap _ _ _))
    exact .of_forall₂ (.cons ⟨rfl, .refl_of_keysDistinct _ (by decide)⟩ (.cons ⟨rfl, .null⟩ .nil))
  have same : Options.Reordered { Options.default with greedy := true }
      { Options.default with greedy := true } := ⟨rfl, rfl, .nil, rfl, rfl⟩
  obtain ⟨sameOk, runs⟩ := errors_of_reordered reordered_personSchema same (by decide)
    (fun _ none => nomatch none) FormatRegistry.ignoresOrder_standard
  have isOk : (compile personSchema { Options.default with greedy := true }).isOk = true := by
    decide +kernel
  cases compiled : compile personSchema { Options.default with greedy := true } with
  | error stop =>
      rw [compiled] at isOk
      cases isOk
  | ok validator =>
      cases otherCompiled : compile personSchemaAgain { Options.default with greedy := true } with
      | error stop =>
          rw [compiled, otherCompiled] at sameOk
          cases sameOk
      | ok changed =>
          obtain ⟨errors, otherErrors, found, otherFound, perm, _⟩ :=
            runs validator changed compiled otherCompiled _ _ values
          exact ⟨validator, changed, errors, otherErrors, rfl, rfl, found, otherFound, perm rfl⟩

end Validator

end JsonSchema
