import JsonSchema.Validator
import JsonSchema.Proofs.Checking.Demand

set_option autoImplicit false

/-! A naive interpreter of schemas, as their meaning. It walks the schema itself and looks every
reference up when it meets it: there are no rules, no slots and no log, and all branches of a combinator
are run to the end. Numbers are compared as doubles, and places are named, as the program does it.
Where a reference comes back to itself at the same place of a value the interpreter does not come to an
end, so it is given fuel. -/

namespace JsonSchema

structure SchemaNode where
  schema : Json
  scope : Scope

structure Interpreter where
  documents : Documents
  registry : FormatRegistry
  formats : List (String × Format)

namespace Interpreter

/-- The keywords of a node in their order. The three that speak of members count as one, at the place
of the first of them. -/
def keywords (members : List (String × Json)) : List Keyword :=
  (members.filterMap fun member => Keyword.ofName? member.1).eraseDupsBy fun later first =>
    later.isAboutMembers && first.isAboutMembers

section Node

/-! Throughout `members` are the members of the node at hand, `scope` is its document. -/

variable (interpreter : Interpreter) (members : List (String × Json)) (scope : Scope)

/-- The values that fail a keyword without schemas inside. A keyword that is not well typed is no
check. -/
def fails? (keyword : Keyword) (argument : Json) : Option (Json → Bool) :=
  match keyword with
  | .type =>
      (Compiler.typeNames? argument).map fun names value => !names.any (·.accepts value)
  | .enum => argument.elements?.map fun choices value => !choices.any (·.same value)
  | .minimum => argument.binary64?.map fun bound value => value.binary64?.any (·.less bound)
  | .exclusiveMinimum =>
      (Compiler.exclusiveBound? members argument .minimum).map fun bound value =>
        value.binary64?.any (·.same bound)
  | .maximum => argument.binary64?.map fun bound value => value.binary64?.any bound.less
  | .exclusiveMaximum =>
      (Compiler.exclusiveBound? members argument .maximum).map fun bound value =>
        value.binary64?.any (·.same bound)
  | .multipleOf =>
      argument.binary64?.map fun divisor value =>
        value.binary64?.any fun number => !(Divisor.ofBinary64 divisor).divides number
  | .minLength => (Compiler.count? argument).map fun bound value => Check.charCount value < bound
  | .maxLength => (Compiler.count? argument).map fun bound value => bound < Check.charCount value
  | .pattern =>
      (argument.string?.bind Regex.ofString?).map fun regex value =>
        value.string?.any fun text => !regex.matchesIn text
  | .format =>
      argument.string?.bind fun name =>
        if Entries.hasKey interpreter.formats name then none
        else (interpreter.registry.get? name).map fun format value =>
          !format.accepts value (.object members)
  | .minItems => (Compiler.count? argument).map fun bound value => Check.elementCount value < bound
  | .maxItems => (Compiler.count? argument).map fun bound value => bound < Check.elementCount value
  | .additionalItems =>
      match argument, members.lookup "items" with
      | .bool false, some (.array declared) =>
          some fun value => declared.length < Check.elementCount value
      | _, _ => none
  | .uniqueItems =>
      match argument with
      | .bool true => some fun value =>
          value.elements?.any fun elements => (Json.unique elements).length != elements.length
      | _ => none
  | .maxProperties =>
      (Compiler.count? argument).map fun bound value => bound < Check.memberCount value
  | .minProperties =>
      (Compiler.count? argument).map fun bound value => Check.memberCount value < bound
  | _ => none

def message (keyword : Keyword) (property : Option String) : Option String :=
  (Messages.ofMembers members).find? keyword property

def askItems? (argument : Json) : Option (Json → List (Demand SchemaNode)) :=
  match argument with
  | .object _ => some fun value =>
      Demand.ofElements ⟨argument, scope⟩ 0 (value.elements?.getD [])
  | .array declared => some fun value =>
      let elements := value.elements?.getD []
      Demand.ofPositions (declared.map (SchemaNode.mk · scope)) elements ++
        match members.lookup "additionalItems" with
        | some (.object others) =>
            Demand.ofElements ⟨.object others, scope⟩ declared.length
              (elements.drop declared.length)
        | _ => []
  | _ => none

def nodesFor (declared patterns : List (String × Json)) (name : String) : List SchemaNode :=
  let matching := patterns.filter fun (source, _) =>
    (Regex.ofString? source).any (·.matchesIn name)
  ((declared.lookup name).toList ++ matching.map (·.2)).map (SchemaNode.mk · scope)

def askOther (additional : Option Json) (name : String) (value : Json) :
    List (Demand SchemaNode) :=
  match additional with
  | some (.bool false) =>
      [.failure .additionalProperties none (message members .additionalProperties none)]
  | some (.object others) => [.inner name value ⟨.object others, scope⟩]
  | _ => []

def askMembers? : Option (Json → List (Demand SchemaNode)) :=
  let declared := ((members.lookup "properties").bind Json.members?).getD []
  let patterns := ((members.lookup "patternProperties").bind Json.members?).getD []
  let additional := members.lookup "additionalProperties"
  if patterns.isEmpty && !Compiler.limitsAdditional additional then
    if declared.isEmpty then none
    else some fun value =>
      Demand.ofDeclared (declared.map fun (name, schema) => (name, SchemaNode.mk schema scope))
        (value.members?.getD [])
  else some fun value =>
    Demand.ofMembers (nodesFor scope declared patterns) (askOther members scope additional)
      (value.members?.getD [])

def askDependency (inside : List (String × Json)) (dependency : Json) : List (Demand SchemaNode) :=
  match dependency with
  | .object whole => [.same ⟨.object whole, scope⟩]
  | .array names =>
      Demand.ofNames .dependencies (fun name => message members .dependencies (some name))
        (names.filterMap Json.string?) inside
  | _ => []

/-- What a keyword asks of values; nothing when it is not well typed. -/
def ask? (keyword : Keyword) (argument : Json) : Option (Json → List (Demand SchemaNode)) :=
  match keyword with
  | .items => askItems? members scope argument
  | .required =>
      (Compiler.strings argument).map fun names value =>
        Demand.ofNames .required (fun name => message members .required (some name))
          (if value.isObject then names else []) (value.members?.getD [])
  | .properties | .patternProperties | .additionalProperties => askMembers? members scope
  | .dependencies =>
      argument.members?.map fun entries value =>
        let inside := value.members?.getD []
        Demand.ofPresent (askDependency members scope inside) entries inside
  | .allOf =>
      argument.elements?.map fun branches _ => branches.map fun branch => .same ⟨branch, scope⟩
  | .anyOf =>
      argument.elements?.map fun branches _ =>
        [.choice .any (message members .anyOf none) (branches.map (SchemaNode.mk · scope))]
  | .oneOf =>
      argument.elements?.map fun branches _ =>
        [.choice .one (message members .oneOf none) (branches.map (SchemaNode.mk · scope))]
  | .not =>
      argument.members?.map fun inside _ =>
        [.choice .none (message members .not none) [⟨.object inside, scope⟩]]
  | _ =>
      (interpreter.fails? members keyword argument).map fun fails value =>
        Demand.failIf (fails value) keyword (message members keyword none)

def asks (keywords : List Keyword) : List (Keyword × (Json → List (Demand SchemaNode))) :=
  keywords.filterMap fun keyword =>
    ((members.lookup keyword.name).bind (interpreter.ask? members scope keyword)).map
      fun ask => (keyword, ask)

/-- What is asked in groups: first by the keywords that speak of every value, then, kind by kind in the
order in which the kinds come up, by those that are limited to the kind of the value. -/
def grouped (asks : List (Keyword × (Json → List (Demand SchemaNode)))) (value : Json) :
    List (Demand SchemaNode) :=
  let ofKind (kind : Option Kind) :=
    (asks.filter fun ask => ask.1.kind? = kind).flatMap fun ask => ask.2 value
  ofKind none ++
    (asks.filterMap fun ask => ask.1.kind?).eraseDups.flatMap fun kind =>
      if kind.accepts value then ofKind (some kind) else []

def askFormat (value : Json) : List (Demand SchemaNode) :=
  match (members.lookup "format").bind Json.string? with
  | some name =>
      (interpreter.formats.lookup name).toList.flatMap fun format =>
        Demand.failIf (!format.accepts value (.object members)) .format
          (message members .format none)
  | none => []

def demands (value : Json) : List (Demand SchemaNode) :=
  grouped (interpreter.asks members scope (keywords members)) value ++
    interpreter.askFormat members value

end Node

/-- What a value at some place is found to lack by a node. A reference is exchanged for what it stands
for, which may be nothing; what is no object asks for nothing. -/
def findings (interpreter : Interpreter) : Nat → List String → SchemaNode → Json → Findings
  | 0, _, _, _ => none
  | fuel + 1, tokens, node, value =>
      match node.schema with
      | .object members =>
          match members.lookup "$ref" with
          | some _ =>
              match interpreter.documents.resolve node.schema node.scope with
              | .ok (some (target, scope)) =>
                  interpreter.findings fuel tokens ⟨target, scope⟩ value
              | _ => some []
          | none =>
              Demand.findingsOf (fun inside => interpreter.findings fuel tokens inside value)
                (fun token part inside => interpreter.findings fuel (token :: tokens) inside part)
                tokens (interpreter.demands members node.scope value)
      | _ => some []

def ofOptions (schema : Json) (options : Options) : Interpreter :=
  ⟨⟨schema, options.schemas, options.missingRefAllowed⟩, options.registry, options.formats⟩

/-- The interpreter comes to an end on a value, with these errors. -/
def Finds (interpreter : Interpreter) (value : Json) (errors : List ValidationError) : Prop :=
  ∃ fuel, interpreter.findings fuel [] ⟨interpreter.documents.main, .main⟩ value = some errors

end Interpreter

end JsonSchema
