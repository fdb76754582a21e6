import JsonSchema.Proofs.Checking.Budget
import JsonSchema.Proofs.Compiling.Runs
import JsonSchema.Proofs.Interpreting.Asking
import JsonSchema.Proofs.Interpreting.OpenSlots
import JsonSchema.Proofs.Isolation.References

set_option autoImplicit false

/-! External schemas are compiled and checked alike beside any main schema. The two tables differ, but the
rules that a node of an external schema is given in them make the same demands, and go on to slots of the
same references. The main statement is `Validator.externals_isolated`. -/

namespace JsonSchema

namespace Interpreter

/-- Rules that represent the same node of an external document, in tables beside two main documents. -/
def Shared (interpreter changed : Interpreter) (slots others : Array Slot) (rule other : Rule) : Prop :=
  ∃ node : SchemaNode, node.scope.IsExternal ∧
    (∃ depth, interpreter.Represents slots depth node rule) ∧
    ∃ depth, changed.Represents others depth node other

def withMain (interpreter : Interpreter) (other : Json) : Interpreter :=
  { interpreter with documents := interpreter.documents.withMain other }

inductive SharedForm (interpreter changed : Interpreter) (slots others : Array Slot) :
    (rule other : Rule) → Prop where
  | free : SharedForm interpreter changed slots others .free .free
  | slot {index otherIndex : Nat} {slot other : Slot} (atIndex : slots[index]? = some slot)
      (atOther : others[otherIndex]? = some other) (same : slot.key = other.key)
      (isExternal : slot.scope.IsExternal) :
      SharedForm interpreter changed slots others (.slot index) (.slot otherIndex)
  | checks {general otherGeneral : List Check} {guarded otherGuarded : List (Kind × List Check)}
      {formats otherFormats : List FormatCheck} {messages otherMessages : Messages}
      (demands : ∀ value, Demand.AllAlike (interpreter.Shared changed slots others)
        (Rule.demands general guarded formats messages value)
        (Rule.demands otherGeneral otherGuarded otherFormats otherMessages value)) :
      SharedForm interpreter changed slots others (.checks general guarded formats messages)
        (.checks otherGeneral otherGuarded otherFormats otherMessages)

variable {interpreter : Interpreter} {main : Json} {slots others : Array Slot}

theorem Shared.form {rule other : Rule}
    (shared : interpreter.Shared (interpreter.withMain main) slots others rule other) :
    SharedForm interpreter (interpreter.withMain main) slots others rule other := by
  obtain ⟨⟨schema, scope⟩, isExternal, ⟨depth, represents⟩, otherDepth, otherRepresents⟩ := shared
  cases depth with
  | zero => exact represents.elim
  | succ depth =>
  cases otherDepth with
  | zero => exact otherRepresents.elim
  | succ otherDepth =>
  rw [Represents] at represents otherRepresents
  cases schema with
  | object members =>
      dsimp only at represents otherRepresents
      cases atReference : members.lookup "$ref" with
      | some reference =>
          rw [atReference] at represents otherRepresents
          obtain ⟨index, slot, atIndex, rfl, rfl, rfl⟩ := represents
          obtain ⟨otherIndex, other, atOther, sameScope, sameReference, rfl⟩ := otherRepresents
          refine .slot atIndex atOther ?_ isExternal
          exact Prod.ext sameScope.symm (Json.string.inj sameReference)
      | none =>
          rw [atReference] at represents otherRepresents
          obtain ⟨general, guarded, formats, messages, rfl, alike⟩ := represents
          obtain ⟨otherGeneral, otherGuarded, otherFormats, otherMessages, rfl, otherAlike⟩ :=
            otherRepresents
          refine .checks fun value => ?_
          -- Both rules make the demands of the node, which do not depend on the main document.
          apply (Demand.allAlike_join (fun _ => interpreter.demands_within) (alike value)
            (otherAlike value)).imp
          intro demand otherDemand joined
          apply joined.imp
          rintro rule other ⟨inside, isInside, stands, otherStands⟩
          refine ⟨inside, ?_, ⟨depth, stands⟩, otherDepth, otherStands⟩
          rw [(Compiler.holdsInside_of_nodesInside isInside).1]
          exact isExternal
  | _ =>
      dsimp only at represents otherRepresents
      subst represents otherRepresents
      exact .free

private theorem shared_free {changed : Interpreter} : interpreter.Shared changed slots others .free .free :=
  ⟨⟨.null, .external ""⟩, ⟨_, rfl⟩, ⟨1, rfl⟩, 1, rfl⟩

/-- Tables beside two main documents: every slot is filled, and no reference has two. -/
structure CompiledBeside (interpreter changed : Interpreter) (slots others : Array Slot) : Prop where
  filled : interpreter.Filled slots
  otherFilled : changed.Filled others
  distinct : (Compiler.keys slots).Nodup
  otherDistinct : (Compiler.keys others).Nodup

/-- The slots of one reference of an external document hold rules for the same node. -/
theorem CompiledBeside.bodies_shared
    (compiled : CompiledBeside interpreter (interpreter.withMain main) slots others)
    {index otherIndex : Nat} {slot other : Slot} (atIndex : slots[index]? = some slot)
    (atOther : others[otherIndex]? = some other) (same : slot.key = other.key)
    (isExternal : slot.scope.IsExternal) :
    ∃ body otherBody, (bodies slots)[index]? = some body ∧
      (bodies others)[otherIndex]? = some otherBody ∧
      interpreter.Shared (interpreter.withMain main) slots others body otherBody := by
  obtain ⟨body, isFilled, fits⟩ := compiled.filled index slot atIndex
  obtain ⟨otherBody, isOtherFilled, otherFits⟩ := compiled.otherFilled otherIndex other atOther
  refine ⟨body, otherBody, getElem?_bodies atIndex isFilled,
    getElem?_bodies atOther isOtherFilled, ?_⟩
  obtain ⟨sameScope, sameReference⟩ := Prod.mk.inj same
  have answers : (interpreter.withMain main).documents.resolve other.node.schema other.scope =
      interpreter.documents.resolve slot.node.schema slot.scope := by
    rw [Slot.node, Slot.node, ← sameScope, ← sameReference]
    exact Documents.resolve_withMain isExternal
  unfold Fits at fits otherFits
  rw [answers] at otherFits
  cases resolved : interpreter.documents.resolve slot.node.schema slot.scope with
  | error error =>
      rw [resolved] at fits
      exact fits.elim
  | ok target =>
      rw [resolved] at fits otherFits
      cases target with
      | none =>
          subst fits otherFits
          exact shared_free
      | some target =>
          exact ⟨_, Documents.isExternal_of_resolve isExternal resolved, fits, otherFits⟩

/-- Rules for the same node find the same errors, the same references being open. -/
theorem CompiledBeside.findings_agree
    (compiled : CompiledBeside interpreter (interpreter.withMain main) slots others)
    {budget otherBudget : Nat} {tokens : List String} {here there : List Nat} {rule other : Rule}
    {value : Json} (shared : interpreter.Shared (interpreter.withMain main) slots others rule other)
    (openAlike : OpenAlike slots others here there) :
    Agree (Findings.ofRule (bodies slots) budget tokens here rule value)
      (Findings.ofRule (bodies others) otherBudget tokens there other value) := by
  induction budget generalizing otherBudget tokens here there rule other value with
  | zero =>
      intro found otherFound known
      cases known
  | succ budget ih =>
      cases otherBudget with
      | zero =>
          intro found otherFound _ known
          cases known
      | succ otherBudget =>
      cases shared.form with
      | free => exact compatible_agree.known []
      | slot atIndex atOther same isExternal =>
          obtain ⟨body, otherBody, atBody, atOtherBody, bodies⟩ :=
            compiled.bodies_shared atIndex atOther same isExternal
          refine openAlike.findings_slot (compatible_agree.known []) atIndex atOther same atBody
            atOtherBody ?_
          exact ih bodies (openAlike.enter compiled.distinct compiled.otherDistinct atIndex atOther
            same)
      | checks demands =>
          rw [Findings.ofRule, Findings.ofRule]
          refine Demand.findingsOf_match compatible_agree ?_ ?_ (demands value)
          · exact fun left right shared => ih shared openAlike
          · exact fun token part left right shared => ih shared (.nil slots others)

end Interpreter

/-! ### Whole validators -/

namespace Compiler

variable {compiler : Compiler} {main : Json} {node : SchemaNode}

/-- The rules that a node of an external document is given beside two main documents report the same
errors. -/
theorem Gives.errors_eq {rule other : Rule} {table otherTable : Array Rule}
    (gives : compiler.Gives node rule table)
    (otherGives : (compiler.withMain main).Gives node other otherTable)
    (isExternal : node.scope.IsExternal) (greedy : Bool) (value : Json) :
    ∃ errors, Checker.errors ⟨table, greedy⟩ rule value = .ok errors ∧
      Checker.errors ⟨otherTable, greedy⟩ other value = .ok errors := by
  obtain ⟨slots, rfl, filled, distinct, represents⟩ := gives.represents
  obtain ⟨others, rfl, otherFilled, otherDistinct, otherRepresents⟩ := otherGives.represents
  obtain ⟨found, known, reported⟩ :=
    Checker.errors_eq_findings ⟨Interpreter.bodies slots, greedy⟩ rule value
  obtain ⟨otherFound, otherKnown, otherReported⟩ :=
    Checker.errors_eq_findings ⟨Interpreter.bodies others, greedy⟩ other value
  have compiled : compiler.interpreter.CompiledBeside (compiler.interpreter.withMain main)
    slots others := ⟨filled, otherFilled, distinct, otherDistinct⟩
  have same : found = otherFound := compiled.findings_agree
    ⟨node, isExternal, represents, otherRepresents⟩ (.nil slots others) _ _ known otherKnown
  subst same
  exact ⟨_, reported, otherReported⟩

end Compiler

namespace Validator

/-- External schemas do not see the main one. A node of an external schema stands for the same beside any two
main schemas, and this is part of an external schema again. It is given a rule by the compiler beside one
main schema exactly if it is beside the other, and the two rules report the same errors of every
value. -/
theorem externals_isolated (main other : Json) (options : Options) {name : String}
    {document node : Json} (registered : options.schemas.lookup name = some document)
    (inside : document.Holds node) :
    let compiler : Compiler :=
      ⟨⟨main, options.schemas, options.missingRefAllowed⟩, options.registry, options.formats⟩
    let changed : Compiler :=
      ⟨⟨other, options.schemas, options.missingRefAllowed⟩, options.registry, options.formats⟩
    compiler.documents.resolve node (.external name) =
      changed.documents.resolve node (.external name) ∧
    (∀ target scope,
      compiler.documents.resolve node (.external name) = .ok (some (target, scope)) →
      ∃ home, scope = .external home ∧
        ∃ schema, options.schemas.lookup home = some schema ∧ schema.Holds target) ∧
    ((∃ rule table, compiler.Gives ⟨node, .external name⟩ rule table) ↔
      ∃ rule table, changed.Gives ⟨node, .external name⟩ rule table) ∧
    ∀ rule table otherRule otherTable, compiler.Gives ⟨node, .external name⟩ rule table →
      changed.Gives ⟨node, .external name⟩ otherRule otherTable → ∀ greedy value,
        ∃ errors, Checker.errors ⟨table, greedy⟩ rule value = .ok errors ∧
          Checker.errors ⟨otherTable, greedy⟩ otherRule value = .ok errors := by
  intro compiler changed
  have isExternal : (Scope.external name).IsExternal := ⟨name, rfl⟩
  have contains : compiler.documents.Contains node (.external name) := ⟨document, registered, inside⟩
  have otherContains : changed.documents.Contains node (.external name) :=
    ⟨document, registered, inside⟩
  refine ⟨(Documents.resolve_withMain isExternal).symm, ?_, ?_, ?_⟩
  · intro target scope resolved
    obtain ⟨home, rfl⟩ := Documents.isExternal_of_resolve isExternal resolved
    exact ⟨home, rfl, Documents.contains_of_resolve contains resolved⟩
  · rw [Compiler.gives_iff contains, Compiler.gives_iff otherContains]
    exact ⟨fun sound => sound.withMain other isExternal, fun sound => sound.withMain main isExternal⟩
  · intro rule table otherRule otherTable gives otherGives
    exact gives.errors_eq otherGives isExternal

def textsSchema : Json :=
  .object
    [("items", .object [("$ref", .string "#/definitions/element")]),
      ("definitions", .object [("element", .object [("type", .string "string")])])]

def besideTexts : Json :=
  .object
    [("$ref", .string "texts"),
      ("definitions", .object [("element", .object [("type", .string "number")])])]

def aloneWithTexts : Json := .object [("$ref", .string "texts")]

def withTexts : Options := Options.default.withSchema "texts" textsSchema

theorem externals_isolated_texts :
    ∃ validator changed, compile besideTexts withTexts = .ok validator ∧
      compile aloneWithTexts withTexts = .ok changed ∧
      let node : SchemaNode := ⟨textsSchema, .external "texts"⟩
      let compiler : Compiler := ⟨validator.documents, withTexts.registry, withTexts.formats⟩
      let other : Compiler := ⟨changed.documents, withTexts.registry, withTexts.formats⟩
      ∃ rule otherRule, compiler.Gives node rule validator.checker.table ∧
        other.Gives node otherRule changed.checker.table ∧
        ∀ greedy value, ∃ errors,
          Checker.errors ⟨validator.checker.table, greedy⟩ rule value = .ok errors ∧
            Checker.errors ⟨changed.checker.table, greedy⟩ otherRule value = .ok errors := by
  obtain ⟨validator, compiled, documents⟩ := exists_of_isOk besideTexts withTexts (by decide +kernel)
  obtain ⟨changed, otherCompiled, otherDocuments⟩ :=
    exists_of_isOk aloneWithTexts withTexts (by decide +kernel)
  refine ⟨validator, changed, compiled, otherCompiled, ?_⟩
  rw [documents, otherDocuments]
  intro node compiler other
  obtain ⟨-, ran, -, -⟩ := compile_eq_ok compiled
  obtain ⟨-, otherRan, -, -⟩ := compile_eq_ok otherCompiled
  obtain ⟨rule, gives⟩ := Compiler.gives_of_run node ran rfl
  obtain ⟨otherRule, otherGives⟩ := Compiler.gives_of_run node otherRan rfl
  have registered : withTexts.schemas.lookup "texts" = some textsSchema := rfl
  obtain ⟨-, -, -, same⟩ := externals_isolated besideTexts aloneWithTexts withTexts registered .refl
  exact ⟨rule, otherRule, gives, otherGives, same _ _ _ _ gives otherGives⟩

end Validator

end JsonSchema
