import JsonSchema.Proofs.Compiling.Nodes
import JsonSchema.Proofs.Reordering.Demands
import JsonSchema.Proofs.Reordering.Documents

set_option autoImplicit false

/-! What a node asks when its keys are in another order. The messages of the node are the same, and each
of its keywords asks for the same in some order. The keywords themselves change places: within the kind
to which a keyword is limited, and with the kinds; but a value has one kind, so that in the end a node
makes the same demands on it in another order. -/

namespace JsonSchema

/-! ### Messages -/

namespace Messages

private theorem lookup_table_eq {left right : Option Json} (same : Option.Rel Json.Reordered left right)
    (key : String) : (table left).lookup key = (table right).lookup key := by
  have inside : Entries.Reordered Json.Reordered ((left.bind Json.members?).getD [])
      ((right.bind Json.members?).getD []) :=
    Optional.rel_getD (Optional.rel_bind same fun _ _ same => same.members?) .nil
  have atLeft : (table left).lookup key = _ := Entries.lookup_filterMap inside.distinct Json.string?
  have atRight : (table right).lookup key = _ :=
    Entries.lookup_filterMap inside.distinct_right Json.string?
  rw [atLeft, atRight, inside.string?_eq]

def Property (left right : PropertyMessages) : Prop :=
  left.required = right.required ∧
    ∀ keyword, left.keywords.lookup keyword = right.keywords.lookup keyword

private theorem property_reordered {left right : Json} (reordered : left.Reordered right) :
    Property (PropertyMessages.ofProperty left) (PropertyMessages.ofProperty right) := by
  refine ⟨?_, lookup_table_eq (reordered.field? "messages")⟩
  exact Optional.bind_eq (reordered.field? "requiredMessage") fun _ _ same => same.string?_eq

private theorem find?_eq {members others : List (String × Json)}
    (reordered : Entries.Reordered Json.Reordered members others) (keyword : Keyword)
    (property : Option String) :
    (ofMembers members).find? keyword property = (ofMembers others).find? keyword property := by
  have own : Option.Rel Property
      (property.bind fun name => (ofMembers members).properties.lookup name)
      (property.bind fun name => (ofMembers others).properties.lookup name) := by
    cases property with
    | none => exact .none
    | some name =>
        unfold ofMembers
        dsimp only [Option.bind_some]
        rw [Entries.lookup_map, Entries.lookup_map]
        exact Optional.rel_map ((reordered.inside "properties").lookup name) fun _ _ same =>
          property_reordered same
  have invalid : (ofMembers members).invalid = (ofMembers others).invalid :=
    reordered.string?_eq "invalidMessage"
  have keywords : (ofMembers members).keywords.lookup keyword.name =
      (ofMembers others).keywords.lookup keyword.name :=
    lookup_table_eq (reordered.lookup "messages") keyword.name
  unfold find?
  dsimp only
  rw [Optional.bind_eq own fun _ _ same => same.1,
    Optional.bind_eq own fun _ _ same => same.2 keyword.name, invalid, keywords]

end Messages

/-! ### Values without regard to the order of keys -/

def Format.IgnoresOrder (format : Format) : Prop :=
  ∀ value other schema changed, value.Reordered other → schema.Reordered changed →
    format.accepts value schema = format.accepts other changed

theorem Format.ignoresOrder_pattern (regex : Regex) : (Format.pattern regex).IgnoresOrder := by
  intro value other schema changed values _
  rw [accepts, accepts, values.string?_eq]

theorem Format.ignoresOrder_ofStringTest (test : String → Bool) :
    (Format.ofStringTest test).IgnoresOrder := by
  intro value other schema changed values _
  rw [ofStringTest, accepts, accepts, values.string?_eq]

theorem FormatRegistry.ignoresOrder_standard :
    ∀ entry ∈ standard.formats, entry.2.IgnoresOrder := by
  refine List.forall_mem_append.mpr ⟨?_, ?_⟩
  · simp only [List.forall_mem_cons]
    refine ⟨?_, ?_, ?_, ?_, ?_, fun _ none => nomatch none⟩ <;>
      exact Format.ignoresOrder_ofStringTest _
  · intro entry member
    obtain ⟨⟨name, source⟩, _, named⟩ := List.mem_filterMap.mp member
    obtain ⟨format, ofPattern, rfl⟩ := Option.map_eq_some_iff.mp named
    obtain ⟨regex, _, rfl⟩ := Option.map_eq_some_iff.mp ofPattern
    exact Format.ignoresOrder_pattern regex

namespace Json.Reordered

variable {value other : Json}

private theorem accepts_eq (reordered : value.Reordered other) (name : TypeName) :
    name.accepts value = name.accepts other := by
  cases reordered with
  | array | object => cases name <;> rfl
  | _ => rfl

private theorem charCount_eq (reordered : value.Reordered other) :
    Check.charCount value = Check.charCount other := by
  rw [Check.charCount, Check.charCount, reordered.string?_eq]

private theorem elementCount_eq (reordered : value.Reordered other) :
    Check.elementCount value = Check.elementCount other := by
  cases reordered with
  | array length => exact length
  | _ => rfl

private theorem memberCount_eq (reordered : value.Reordered other) :
    Check.memberCount value = Check.memberCount other := by
  cases reordered with
  | object distinct names each => exact Entries.Reordered.length_eq ⟨distinct, names, each⟩
  | _ => rfl

private theorem hasDuplicates_eq (reordered : value.Reordered other) :
    (value.elements?.any fun elements => (unique elements).length != elements.length) =
      other.elements?.any fun elements => (unique elements).length != elements.length := by
  cases reordered with
  | array length each =>
      have kept := (forall₂_unique (forall₂_of_getElem? length each)).length_eq
      change ((unique _).length != _) = ((unique _).length != _)
      rw [kept, length]
  | _ => rfl

/-! What keywords read from their arguments. -/

private theorem typeNames?_eq (reordered : value.Reordered other) :
    Compiler.typeNames? value = Compiler.typeNames? other := by
  have name (left right : Json) (same : left.Reordered right) :
      left.string?.bind TypeName.ofName? = right.string?.bind TypeName.ofName? := by
    rw [same.string?_eq]
  cases reordered with
  | array length each =>
      have names := mapM_eq_of_forall₂ (forall₂_of_getElem? length each) name
      unfold Compiler.typeNames?
      dsimp only
      rw [names]
  | _ => rfl

private theorem count?_eq (reordered : value.Reordered other) :
    Compiler.count? value = Compiler.count? other := by
  rw [Compiler.count?, Compiler.count?, reordered.nat?_eq, reordered.binary64?_eq]

private theorem strings_eq (reordered : value.Reordered other) :
    Compiler.strings value = Compiler.strings other := by
  apply Optional.eq_of_rel
  refine Optional.rel_map reordered.elements? fun _ _ each => ?_
  exact filterMap_eq_of_forall₂ each fun _ _ same => same.string?_eq

private theorem exclusiveBound?_eq {members others : List (String × Json)}
    (node : Entries.Reordered Json.Reordered members others) (reordered : value.Reordered other)
    (bound : Keyword) :
    Compiler.exclusiveBound? members value bound = Compiler.exclusiveBound? others other bound := by
  cases reordered with
  | bool flag =>
      cases flag with
      | true => exact node.lookup_bind_eq (fun _ _ same => same.binary64?_eq) bound.name
      | false => rfl
  | _ => rfl

end Json.Reordered

/-! ### What the keywords of a node ask -/

namespace Interpreter

structure Reordered (left right : Interpreter) : Prop where
  documents : left.documents.Reordered right.documents
  registry : left.registry = right.registry
  formats : left.formats = right.formats

/-- Nothing depends on the order of keys by its own making: no identifier is given twice in a document,
and no format looks at the order. -/
structure OrderFree (interpreter : Interpreter) : Prop where
  identified : interpreter.documents.Identified
  registry : ∀ entry ∈ interpreter.registry.formats, entry.2.IgnoresOrder
  formats : ∀ entry ∈ interpreter.formats, entry.2.IgnoresOrder

def SameTest (left right : Json → Bool) : Prop :=
  ∀ value other, value.Reordered other → left value = right other

def SameAsk (left right : Json → List (Demand SchemaNode)) : Prop :=
  ∀ value other, value.Reordered other →
    Demand.AllReordered SchemaNode.Reordered (left value) (right other)

private theorem rel_constant {Constant : Type} {left right : Option Constant} (equal : left = right)
    {test otherTest : Constant → Json → Bool}
    (same : ∀ constant, SameTest (test constant) (otherTest constant)) :
    Option.Rel SameTest (left.map test) (right.map otherTest) := by
  subst equal
  cases left with
  | none => exact .none
  | some constant => exact .some (same constant)

private theorem limitsAdditional_eq {left right : Option Json}
    (additional : Option.Rel Json.Reordered left right) :
    Compiler.limitsAdditional left = Compiler.limitsAdditional right := by
  cases additional with
  | none => rfl
  | some same => cases same <;> rfl

private theorem reordered_nodesFor {declared otherDeclared patterns otherPatterns : List (String × Json)}
    (sameDeclared : Entries.Reordered Json.Reordered declared otherDeclared)
    (samePatterns : Entries.Reordered Json.Reordered patterns otherPatterns) (scope : Scope)
    (name : String) :
    Shuffled SchemaNode.Reordered (nodesFor scope declared patterns name)
      (nodesFor scope otherDeclared otherPatterns name) := by
  have own : Shuffled Json.Reordered _ _ := .of_option (sameDeclared.lookup name)
  have matching : Shuffled (SameEntry Json.Reordered)
      (patterns.filter fun entry => (Regex.ofString? entry.1).any (·.matchesIn name))
      (otherPatterns.filter fun entry => (Regex.ofString? entry.1).any (·.matchesIn name)) :=
    samePatterns.shuffled.filter fun _ _ same =>
      congrArg (fun source => (Regex.ofString? source).any (·.matchesIn name)) same.1
  refine (own.append (matching.map fun _ _ same => same.2)).map fun _ _ same => ?_
  exact SchemaNode.reordered_mk same scope

section Node

variable {interpreter changed : Interpreter} {members others : List (String × Json)}
  {argument other : Json} {scope : Scope}
  (reordered : Entries.Reordered Json.Reordered members others)
  (arguments : argument.Reordered other)

include reordered

theorem message_eq (keyword : Keyword) (property : Option String) :
    message members keyword property = message others keyword property :=
  Messages.find?_eq reordered keyword property

include arguments

private theorem rel_fails? (same : interpreter.Reordered changed) (free : interpreter.OrderFree)
    (keyword : Keyword) :
    Option.Rel SameTest (interpreter.fails? members keyword argument)
      (changed.fails? others keyword other) := by
  cases keyword with
  | type =>
      refine rel_constant arguments.typeNames?_eq fun names value other values => ?_
      have each : (fun name : TypeName => name.accepts value) = fun name => name.accepts other :=
        funext values.accepts_eq
      rw [each]
  | enum =>
      refine Optional.rel_map arguments.elements? fun _ _ choices value other values => ?_
      rw [any_eq_of_forall₂ choices fun _ _ choice => choice.same_eq values]
  | minimum | maximum =>
      refine rel_constant arguments.binary64?_eq fun bound value other values => ?_
      rw [values.binary64?_eq]
  | multipleOf =>
      refine rel_constant arguments.binary64?_eq fun divisor value other values => ?_
      rw [values.binary64?_eq]
  | exclusiveMinimum =>
      refine rel_constant (arguments.exclusiveBound?_eq reordered .minimum)
        fun bound value other values => ?_
      rw [values.binary64?_eq]
  | exclusiveMaximum =>
      refine rel_constant (arguments.exclusiveBound?_eq reordered .maximum)
        fun bound value other values => ?_
      rw [values.binary64?_eq]
  | minLength | maxLength =>
      refine rel_constant arguments.count?_eq fun bound value other values => ?_
      rw [values.charCount_eq]
  | minItems | maxItems =>
      refine rel_constant arguments.count?_eq fun bound value other values => ?_
      rw [values.elementCount_eq]
  | minProperties | maxProperties =>
      refine rel_constant arguments.count?_eq fun bound value other values => ?_
      rw [values.memberCount_eq]
  | pattern =>
      have source : argument.string?.bind Regex.ofString? = other.string?.bind Regex.ofString? := by
        rw [arguments.string?_eq]
      refine rel_constant source fun regex value other values => ?_
      rw [values.string?_eq]
  | format =>
      unfold fails?
      dsimp only
      rw [← same.registry, ← same.formats, ← arguments.string?_eq]
      cases argument.string? with
      | none => exact .none
      | some name =>
          rw [Option.bind_some, Option.bind_some]
          cases Entries.hasKey interpreter.formats name with
          | true => exact .none
          | false =>
              cases found : interpreter.registry.get? name with
              | none => exact .none
              | some format =>
                  refine .some fun value other values => ?_
                  have ignores := free.registry _ (Entries.mem_of_lookup found)
                  exact congrArg not (ignores value other _ _ values reordered.toJson)
  | additionalItems =>
      unfold fails?
      cases arguments with
      | bool flag =>
          cases flag with
          | true => exact .none
          | false =>
              refine Optional.rel_elim (reordered.lookup "items") .none fun items others same => ?_
              cases same with
              | array length each =>
                  refine .some fun value other values => ?_
                  rw [length, values.elementCount_eq]
              | _ => exact .none
      | _ => exact .none
  | uniqueItems =>
      cases arguments with
      | bool flag =>
          cases flag with
          | false => exact .none
          | true =>
              refine .some fun value other values => ?_
              exact values.hasDuplicates_eq
      | _ => exact .none
  | _ => exact .none

omit arguments in
private theorem sameAsk_failIf {test otherTest : Json → Bool} (same : SameTest test otherTest)
    (keyword : Keyword) :
    SameAsk (fun value => Demand.failIf (test value) keyword (message members keyword none))
      (fun value => Demand.failIf (otherTest value) keyword (message others keyword none)) := by
  intro value other values
  dsimp only
  rw [same value other values, message_eq reordered]
  exact .of_forall₂ Demand.corresponds_failIf

private theorem rel_askItems? :
    Option.Rel SameAsk (askItems? members scope argument) (askItems? others scope other) := by
  cases arguments with
  | object distinct names each =>
      refine .some fun value other values => ?_
      have inside := SchemaNode.reordered_mk (.object distinct names each) scope
      exact .of_forall₂ (Demand.corresponds_ofElements inside 0 values.elements_getD)
  | @array lefts rights length each =>
      refine .some fun value other values => ?_
      have declared := Json.forall₂_of_getElem? length each
      have nodes := SchemaNode.reordered_map declared scope
      have positions := Demand.corresponds_ofPositions nodes values.elements_getD
      refine (Shuffled.of_forall₂ positions).append ?_
      rw [length]
      have rest := List.forall₂_drop rights.length values.elements_getD
      refine Optional.rel_elim (reordered.lookup "additionalItems") .nil fun _ _ same => ?_
      cases same with
      | object distinct names each =>
          have inside := SchemaNode.reordered_mk (.object distinct names each) scope
          exact .of_forall₂ (Demand.corresponds_ofElements inside _ rest)
      | _ => exact .nil
  | _ => exact .none

omit arguments in
private theorem reordered_askOther {additional otherAdditional : Option Json}
    (same : Option.Rel Json.Reordered additional otherAdditional) (name : String)
    {value changed : Json} (values : value.Reordered changed) :
    Demand.AllReordered SchemaNode.Reordered (askOther members scope additional name value)
      (askOther others scope otherAdditional name changed) := by
  cases same with
  | none => exact .nil
  | some same =>
      cases same with
      | bool flag =>
          cases flag with
          | true => exact .nil
          | false =>
              unfold askOther
              dsimp only
              rw [message_eq reordered]
              exact .single .failure
      | object distinct names each =>
          have inside := SchemaNode.reordered_mk (.object distinct names each) scope
          exact .single (.inner values inside)
      | _ => exact .nil

omit arguments in
theorem rel_askMembers? :
    Option.Rel SameAsk (askMembers? members scope) (askMembers? others scope) := by
  have declared := reordered.inside "properties"
  have patterns := reordered.inside "patternProperties"
  have additional := reordered.lookup "additionalProperties"
  unfold askMembers?
  dsimp only
  rw [patterns.isEmpty_eq, declared.isEmpty_eq, limitsAdditional_eq additional]
  split
  next =>
    split
    next => exact .none
    next =>
      refine .some fun value other values => ?_
      refine Demand.corresponds_ofDeclared listwise_shuffled ?_ values.members_getD.lookup
      refine declared.shuffled.map fun _ _ same => ?_
      exact ⟨same.1, SchemaNode.reordered_mk same.2 scope⟩
  next =>
    refine .some fun value other values => ?_
    refine Demand.corresponds_ofMembers listwise_shuffled
      (reordered_nodesFor declared patterns scope) ?_ values.members_getD.shuffled
    exact fun name value other same => reordered_askOther reordered additional name same

omit arguments in
private theorem reordered_askDependency {inside otherInside : List (String × Json)}
    (values : Entries.Reordered Json.Reordered inside otherInside) {dependency other : Json}
    (same : dependency.Reordered other) :
    Demand.AllReordered SchemaNode.Reordered (askDependency members scope inside dependency)
      (askDependency others scope otherInside other) := by
  cases same with
  | object distinct names each =>
      exact .single (.same (SchemaNode.reordered_mk (.object distinct names each) scope))
  | array length each =>
      have names := filterMap_eq_of_forall₂ (Json.forall₂_of_getElem? length each)
        fun _ _ same => same.string?_eq
      unfold askDependency
      dsimp only
      rw [names, funext fun name => message_eq reordered .dependencies (some name)]
      exact .of_forall₂ (Demand.corresponds_ofNames _ values.hasKey)
  | _ => exact .nil

theorem rel_ask? (same : interpreter.Reordered changed) (free : interpreter.OrderFree)
    (scope : Scope) (keyword : Keyword) :
    Option.Rel SameAsk (interpreter.ask? members scope keyword argument)
      (changed.ask? others scope keyword other) := by
  cases keyword with
  | items => exact rel_askItems? reordered arguments
  | required =>
      unfold ask?
      dsimp only
      rw [arguments.strings_eq]
      cases Compiler.strings other with
      | none => exact .none
      | some names =>
          refine .some fun value other values => ?_
          dsimp only
          rw [values.isObject_eq, funext fun name => message_eq reordered .required (some name)]
          exact .of_forall₂ (Demand.corresponds_ofNames _ values.members_getD.hasKey)
  | properties | patternProperties | additionalProperties => exact rel_askMembers? reordered
  | dependencies =>
      refine Optional.rel_map arguments.members? fun _ _ entries => ?_
      intro value other values
      refine Demand.corresponds_ofPresent listwise_shuffled (fun _ _ entry => ?_) entries.shuffled
        values.members_getD.hasKey
      exact reordered_askDependency reordered values.members_getD entry
  | allOf =>
      refine Optional.rel_map arguments.elements? fun _ _ branches => ?_
      intro value other values
      refine (Shuffled.of_forall₂ branches).map fun _ _ same => ?_
      exact .same (SchemaNode.reordered_mk same scope)
  | anyOf | oneOf =>
      refine Optional.rel_map arguments.elements? fun _ _ branches => ?_
      intro value other values
      rw [message_eq reordered]
      exact .single (.choice (SchemaNode.reordered_map branches scope))
  | not =>
      refine Optional.rel_map arguments.members? fun _ _ inside => ?_
      intro value other values
      rw [message_eq reordered]
      have node := SchemaNode.reordered_mk inside.toJson scope
      exact .single (.choice (.cons node .nil))
  | _ =>
      exact Optional.rel_map (rel_fails? reordered arguments same free _)
        fun _ _ tests => sameAsk_failIf reordered tests _

end Node

end Interpreter

end JsonSchema
