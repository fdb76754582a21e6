import JsonSchema.Proofs.Building.Repeating
import JsonSchema.Proofs.Compiling.Flaws
import JsonSchema.Proofs.Compiling.Replaying

set_option autoImplicit false

/-! Missing references that are allowed. A chain that ends well ends in the same way whether they are or not,
so a schema that is compiled without them is compiled to the same rules with them, and is built by the
same nodes. What can still go wrong is that a chain ends at what is no reference, or that a pattern cannot
be read. The main statement is `Validator.allowing_missing_conservative`. -/

namespace JsonSchema

/-! ### What nodes stand for -/

namespace Documents

variable {documents : Documents} {node : Json} {scope : Scope}

private theorem resolve_allowing_eq_some_iff (allowed : Bool) {target : Json × Scope} :
    (documents.allowing allowed).resolve node scope = .ok (some target) ↔
      documents.resolve node scope = .ok (some target) := by
  rw [resolve_eq_some_iff, resolve_eq_some_iff]
  rfl

private theorem resolve_allowing_of_ok {target : Option (Json × Scope)}
    (resolved : documents.resolve node scope = .ok target) :
    (documents.allowing true).resolve node scope = .ok target := by
  cases target with
  | some target => exact (resolve_allowing_eq_some_iff true).mpr resolved
  | none =>
      rcases resolve_eq_none_iff.mp resolved with circles | ⟨_, dangling⟩
      · exact resolve_eq_none_iff.mpr (.inl circles)
      · exact resolve_eq_none_iff.mpr (.inr ⟨rfl, dangling⟩)

end Documents

/-! ### What is built -/

namespace Builder

def allowing (builder : Builder) (allowed : Bool) : Builder :=
  { builder with documents := builder.documents.allowing allowed }

variable (builder : Builder)

private theorem buildResolved_allowing (build : Json → Scope → Site → Option Json → Except Exhausted Built)
    (allowed : Bool) (schema : Json) (scope : Scope) (site : Site) (value : Option Json) :
    (builder.allowing allowed).buildResolved build schema scope site value =
      builder.buildResolved build schema scope site value := by
  have same {target : Json × Scope} :
      (builder.allowing allowed).documents.resolve schema scope = .ok (some target) ↔
        builder.documents.resolve schema scope = .ok (some target) :=
    Documents.resolve_allowing_eq_some_iff allowed
  by_cases stands : schema.isObject = true ∧
      ∃ target, builder.documents.resolve schema scope = .ok (some target)
  · obtain ⟨isObject, ⟨target, targetScope⟩, resolved⟩ := stands
    rw [buildResolved_target isObject resolved, buildResolved_target isObject (same.mpr resolved)]
    rfl
  · have noTarget (isObject : schema.isObject = true) (target : Json) (targetScope : Scope) :
        builder.documents.resolve schema scope ≠ .ok (some (target, targetScope)) :=
      fun resolved => stands ⟨isObject, _, resolved⟩
    rw [buildResolved_other noTarget,
      buildResolved_other fun isObject _ _ resolved => noTarget isObject _ _ (same.mp resolved)]

private theorem build_allowing (allowed : Bool) (budget : Nat) :
    (builder.allowing allowed).build budget = builder.build budget := by
  induction budget with
  | zero => rfl
  | succ budget ih =>
      funext schema scope site value
      rw [build, build, ih]
      unfold buildNode
      simp only [buildResolved_allowing]

private theorem run_allowing (allowed : Bool) (value : Option Json) :
    (builder.allowing allowed).run value = builder.run value := by
  rw [run, build_allowing]
  rfl

private theorem runInPlace_allowing (allowed : Bool) (value : Json) :
    (builder.allowing allowed).runInPlace value = builder.runInPlace value := by
  rw [runInPlace, build_allowing]
  rfl

end Builder

/-! ### What is compiled -/

namespace Compiler

def allowing (compiler : Compiler) (allowed : Bool) : Compiler :=
  { compiler with documents := compiler.documents.allowing allowed }

variable {compiler : Compiler}

section Node

variable {compile : Json → Scope → Compiling Rule} {members : List (String × Json)} {scope : Scope}

private theorem compileKeywords_allowing (allowed : Bool) (keywords : List Keyword) :
    (compiler.allowing allowed).compileKeywords compile members scope keywords =
      compiler.compileKeywords compile members scope keywords := by
  induction keywords with
  | nil => rfl
  | cons keyword rest ih =>
      rw [compileKeywords, compileKeywords, ih]
      rfl

/-- Only references make a difference. -/
theorem compileNode_allowing (allowed : Bool) (noReference : members.lookup "$ref" = none) :
    (compiler.allowing allowed).compileNode compile (.object members) scope =
      compiler.compileNode compile (.object members) scope := by
  unfold compileNode
  dsimp only
  rw [noReference]
  simp only [compileKeywords_allowing]
  rfl

end Node

theorem Trace.imp {compile other : Json → Scope → Compiling Rule} {trace : List (SchemaNode × Rule)}
    {earlier later : Array Slot} (walked : Trace compile trace earlier later)
    (each : ∀ (node : SchemaNode) (earlier later : Array Slot) (rule : Rule),
      compile node.schema node.scope earlier = .ok (rule, later) →
        other node.schema node.scope earlier = .ok (rule, later)) : Trace other trace earlier later := by
  induction walked with
  | nil => exact .nil
  | cons ran _ ih => exact .cons (each _ _ _ _ ran) ih

/-- A run that comes to a rule does the same when missing references are allowed. -/
theorem compile_allowing {budget : Nat} {schema : Json} {scope : Scope} {earlier later : Array Slot}
    {rule : Rule} (ran : compiler.compile budget schema scope earlier = .ok (rule, later)) :
    (compiler.allowing true).compile budget schema scope earlier = .ok (rule, later) := by
  induction budget generalizing schema scope earlier rule later with
  | zero => cases ran
  | succ budget ih =>
      cases schema with
      | object members =>
          cases named : members.lookup "$ref" with
          | none =>
              obtain ⟨trace, walked, _, again⟩ := replays_compileNode named _ _ _ _ ran
              rw [compile, compileNode_allowing true named]
              exact again _ _ _ (walked.imp fun _ _ _ _ ranInside => ih ranInside)
          | some reference =>
              rw [compile, compileNode_reference named] at ran ⊢
              cases reference with
              | string name =>
                  cases found : earlier.findIdx? fun slot =>
                      slot.scope = scope ∧ slot.reference = name with
                  | some index =>
                      rw [compileReference_found found] at ran ⊢
                      exact ran
                  | none =>
                      rw [compileReference_new found] at ran ⊢
                      cases resolved : compiler.documents.resolve (.object members) scope with
                      | error error =>
                          rw [resolved] at ran
                          cases ran
                      | ok target =>
                          have same : (compiler.allowing true).documents.resolve (.object members) scope =
                            .ok target := Documents.resolve_allowing_of_ok resolved
                          rw [resolved] at ran
                          rw [same]
                          cases target with
                          | none => exact ran
                          | some target =>
                              obtain ⟨target, targetScope⟩ := target
                              dsimp only at ran ⊢
                              split at ran
                              next => cases ran
                              next body inside ranInside =>
                                rw [ih ranInside]
                                exact ran
              | _ => cases ran
      | _ => exact ran

private theorem run_allowing {entry : Rule} {table : Array Rule} (ran : compiler.run = .ok (entry, table)) :
    (compiler.allowing true).run = .ok (entry, table) := by
  obtain ⟨⟨rule, slots⟩, ranMain, isResult⟩ := ends_of_bind ran
  exact (bind_of_ends (compile_allowing ranMain)).trans isResult

end Compiler

/-! ### Validators -/

namespace Validator

private theorem compile_of_run {schema : Json} {options : Options} {entry : Rule} {table : Array Rule}
    (isObject : schema.isObject = true)
    (ran : Compiler.run ⟨⟨schema, options.schemas, options.missingRefAllowed⟩, options.registry,
      options.formats⟩ = .ok (entry, table)) :
    compile schema options = .ok ⟨⟨schema, options.schemas, options.missingRefAllowed⟩, entry,
      ⟨table, options.greedy⟩⟩ := by
  rw [compile, if_pos isObject]
  exact bind_of_ends ran

private theorem compile_error {schema : Json} {options : Options} {stop : CompileStop}
    (failed : compile schema options = .error stop) :
    (schema.isObject = false ∧ stop = .setup .invalidSchema) ∨
      (schema.isObject = true ∧ Compiler.run ⟨⟨schema, options.schemas, options.missingRefAllowed⟩,
        options.registry, options.formats⟩ = .error stop) := by
  cases isObject : schema.isObject with
  | false =>
      rw [compile, isObject, if_neg Bool.false_ne_true] at failed
      exact .inl ⟨rfl, (Except.error.inj failed).symm⟩
  | true =>
      refine .inr ⟨rfl, ?_⟩
      rw [compile, if_pos isObject] at failed
      dsimp only at failed
      cases ran : Compiler.run ⟨⟨schema, options.schemas, options.missingRefAllowed⟩,
          options.registry, options.formats⟩ with
      | ok result =>
          rw [ran] at failed
          cases failed
      | error own =>
          rw [ran] at failed
          exact congrArg _ (Except.error.inj failed)

/-- A schema that is compiled without missing references is compiled to the same rules with them. -/
theorem compile_allowing {schema : Json} {options : Options} {strict : Validator}
    (compiled : compile schema { options with missingRefAllowed := false } = .ok strict) :
    compile schema { options with missingRefAllowed := true } =
      .ok ⟨strict.documents.allowing true, strict.entry, strict.checker⟩ := by
  obtain ⟨isObject, ran, isDocuments, isGreedy⟩ := compile_eq_ok compiled
  obtain ⟨documents, entry, table, greedy⟩ := strict
  dsimp only at ran isDocuments isGreedy
  subst isDocuments isGreedy
  exact compile_of_run isObject (Compiler.run_allowing ran)

private theorem flaw_of_compile {schema : Json} {options : Options} {stop : CompileStop}
    (allowed : options.missingRefAllowed = true) (failed : compile schema options = .error stop) :
    let compiler : Compiler := ⟨⟨schema, options.schemas, options.missingRefAllowed⟩,
      options.registry, options.formats⟩
    (schema.isObject = false ∧ stop = .setup .invalidSchema) ∨
      (schema.isObject = true ∧ ∃ error, stop = .setup error ∧
        ∃ position, compiler.Visits position ∧ compiler.Flaw position.node error) := by
  rcases compile_error failed with noObject | ⟨isObject, failedRun⟩
  · exact .inl noObject
  · exact .inr ⟨isObject, Compiler.flaw_of_run allowed failedRun⟩

/-- Compiling fails at a malformed chain of references or at a pattern that cannot be read. -/
def FailsAtFlaw (compiled : Except CompileStop Validator) : Prop :=
  (∃ text, compiled = .error (.setup (.resolve (.malformed text)))) ∨
    ∃ keyword source, compiled = .error (.setup (.invalidPattern keyword source))

/-- Allowing missing references is conservative. A schema that is compiled without is compiled with them,
to a validator that finds the same errors in every value and builds the same from every value, with
whatever limit on the nesting. With them allowed nothing is missing; compiling fails at a malformed chain of
references or at a pattern that cannot be read, exactly if it comes to a node that has one, or needs
such a node at all. -/
theorem allowing_missing_conservative (schema : Json) (options : Options) :
    let compiled (allowed : Bool) := compile schema { options with missingRefAllowed := allowed }
    let compiler : Compiler := ⟨⟨schema, options.schemas, true⟩, options.registry, options.formats⟩
    (∀ strict, compiled false = .ok strict → ∃ lenient, compiled true = .ok lenient ∧
      (∀ value, lenient.validate value = strict.validate value) ∧
      (∀ value additionalAllowed,
        lenient.build value additionalAllowed = strict.build value additionalAllowed) ∧
      (∀ value additionalAllowed,
        lenient.buildInPlace value additionalAllowed = strict.buildInPlace value additionalAllowed) ∧
      ∀ additionalAllowed budget, Builder.build ⟨lenient.documents, additionalAllowed⟩ budget =
        Builder.build ⟨strict.documents, additionalAllowed⟩ budget) ∧
    (∀ reference, compiled true ≠ .error (.setup (.resolve (.missing reference)))) ∧
    (FailsAtFlaw (compiled true) ↔ schema.isObject = true ∧
      ∃ position, compiler.Visits position ∧ compiler.IsFlawed position.node) ∧
    (FailsAtFlaw (compiled true) ↔ schema.isObject = true ∧
      ∃ node, compiler.NeedsAtAll node ∧ compiler.IsFlawed node) := by
  intro compiled compiler
  have atFailure {stop : CompileStop} (failed : compiled true = .error stop) := flaw_of_compile rfl failed
  have visited (failing : FailsAtFlaw (compiled true)) : schema.isObject = true ∧
      ∃ position, compiler.Visits position ∧ compiler.IsFlawed position.node := by
    obtain ⟨error, failed, isOther⟩ : ∃ error, compiled true = .error (.setup error) ∧
        error ≠ .invalidSchema := by
      rcases failing with ⟨text, failed⟩ | ⟨keyword, source, failed⟩
      · exact ⟨_, failed, nofun⟩
      · exact ⟨_, failed, nofun⟩
    rcases atFailure failed with ⟨_, same⟩ | ⟨isObject, own, _, position, visits, flaw⟩
    · exact absurd (CompileStop.setup.inj same) isOther
    · exact ⟨isObject, position, visits, flaw.isFlawed⟩
  have failing (isObject : schema.isObject = true) {node : SchemaNode}
      (needed : compiler.NeedsAtAll node) (flawed : compiler.IsFlawed node) :
      FailsAtFlaw (compiled true) := by
    cases outcome : compiled true with
    | ok validator =>
        have isOk : (compiled true).isOk = true := by rw [outcome]; rfl
        have flawless := ((compile_isOk_iff schema _).mp isOk).2 node needed
        exact absurd (Compiler.faulty_of_isFlawed flawed) flawless
    | error stop =>
        rcases atFailure outcome with ⟨noObject, _⟩ | ⟨_, error, rfl, position, visits, flaw⟩
        · rw [isObject] at noObject
          cases noObject
        · cases flaw with
          | chain => exact .inl ⟨_, rfl⟩
          | pattern => exact .inr ⟨_, _, rfl⟩
  refine ⟨?_, ?_, ⟨visited, ?_⟩, ?_, ?_⟩
  · intro strict compiledStrict
    refine ⟨_, compile_allowing compiledStrict, fun _ => rfl, ?_, ?_, ?_⟩
    · exact fun value additionalAllowed =>
        Builder.run_allowing ⟨strict.documents, additionalAllowed⟩ true value
    · exact fun value additionalAllowed =>
        Builder.runInPlace_allowing ⟨strict.documents, additionalAllowed⟩ true value
    · exact fun additionalAllowed =>
        Builder.build_allowing ⟨strict.documents, additionalAllowed⟩ true
  · intro reference failed
    rcases atFailure failed with ⟨_, impossible⟩ | ⟨_, error, same, _, _, flaw⟩
    · cases impossible
    · cases same
      cases flaw
  · rintro ⟨isObject, position, visits, flawed⟩
    exact failing isObject visits.needsAtAll flawed
  · intro fail
    obtain ⟨isObject, position, visits, flawed⟩ := visited fail
    exact ⟨isObject, position.node, visits.needsAtAll, flawed⟩
  · rintro ⟨isObject, node, needed, flawed⟩
    exact failing isObject needed flawed

def stationSchema : Json :=
  .object
    [("properties", .object
      [("name", .object [("$ref", .string "name")]), ("next", .object [("$ref", .string "#")])])]

def withNames : Options :=
  Options.default.withSchema "name" (.object [("default", .string "halt"), ("pattern", .string "^[a-z]+$")])

theorem allowing_missing_conservative_station :
    ∃ strict lenient, compile stationSchema { withNames with missingRefAllowed := false } = .ok strict ∧
      compile stationSchema { withNames with missingRefAllowed := true } = .ok lenient ∧
      ∀ value, lenient.validate value = strict.validate value ∧
        lenient.build (some value) false = strict.build (some value) false := by
  obtain ⟨strict, compiledStrict, -⟩ :=
    exists_of_isOk stationSchema { withNames with missingRefAllowed := false } (by decide +kernel)
  obtain ⟨conservative, -⟩ := allowing_missing_conservative stationSchema withNames
  obtain ⟨lenient, compiledLenient, sameErrors, sameBuilt, -⟩ := conservative strict compiledStrict
  refine ⟨strict, lenient, compiledStrict, compiledLenient, fun value => ?_⟩
  exact ⟨sameErrors value, sameBuilt (some value) false⟩

end Validator

end JsonSchema
