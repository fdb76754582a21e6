import JsonSchema.Proofs.Compiling.Traversal
import JsonSchema.Proofs.Following

set_option autoImplicit false

/-! Compiling ends, whatever the references. A run goes from a node to a node inside it, or it gives a
reference a slot and goes on with what the reference stands for; this is part of a document again, and
the documents hold only so many references. The main statement is `Validator.compile_ends`. -/

namespace JsonSchema

namespace Compiler

private theorem of_objectInside {schema : Option Json} {scope : Scope} {node : SchemaNode}
    (inside : node ∈ objectInside schema scope) :
    schema = some node.schema ∧ node.scope = scope := by
  unfold objectInside at inside
  split at inside
  next inner =>
    rw [List.mem_singleton] at inside
    subst inside
    exact ⟨rfl, rfl⟩
  next => cases inside

section Inside

variable {members : List (String × Json)} {scope : Scope} {node : SchemaNode}

private theorem holds_of_table {key name : String} {schema : Json}
    (entry : (name, schema) ∈ table members key) : (Json.object members).HoldsInside schema := by
  unfold table at entry
  cases found : members.lookup key with
  | none =>
      rw [found] at entry
      cases entry
  | some value =>
      rw [found] at entry
      have outer : (Json.object members).Part key value := .of_field found
      exact .tail (.single ⟨key, outer⟩) ⟨name, .of_member entry⟩

private theorem holdsInside_of_membersInside (inside : node ∈ membersInside members scope) :
    node.scope = scope ∧ (Json.object members).HoldsInside node.schema := by
  unfold membersInside at inside
  simp only [List.mem_append, List.mem_map] at inside
  rcases inside with ⟨⟨name, schema⟩, entry, rfl⟩ | ⟨⟨name, schema⟩, entry, rfl⟩ | isAdditional
  · exact ⟨rfl, holds_of_table entry⟩
  · exact ⟨rfl, holds_of_table entry⟩
  · obtain ⟨found, sameScope⟩ := of_objectInside isAdditional
    have outer : (Json.object members).Part "additionalProperties" node.schema := .of_field found
    exact ⟨sameScope, .single ⟨_, outer⟩⟩

private theorem holdsInside_of_itemsInside {items : Json} (found : members.lookup "items" = some items)
    (inside : node ∈ itemsInside members scope items) :
    node.scope = scope ∧ (Json.object members).HoldsInside node.schema := by
  have outer : (Json.object members).Part "items" items := .of_field found
  cases items with
  | object inner =>
      rw [List.mem_singleton.mp inside]
      exact ⟨rfl, .single ⟨_, outer⟩⟩
  | array tuple =>
      rcases List.mem_append.mp inside with atPosition | isAdditional
      · obtain ⟨item, member, rfl⟩ := List.mem_map.mp atPosition
        obtain ⟨index, atIndex⟩ := List.mem_iff_getElem?.mp member
        exact ⟨rfl, .tail (.single ⟨_, outer⟩) ⟨_, .element rfl atIndex⟩⟩
      · obtain ⟨foundMore, sameScope⟩ := of_objectInside isAdditional
        have more : (Json.object members).Part "additionalItems" node.schema := .of_field foundMore
        exact ⟨sameScope, .single ⟨_, more⟩⟩
  | _ => cases inside

private theorem holdsInside_of_branches {key : String} {value : Json}
    (found : members.lookup key = some value)
    (inside : node ∈ (value.elements?.getD []).map (SchemaNode.mk · scope)) :
    node.scope = scope ∧ (Json.object members).HoldsInside node.schema := by
  have outer : (Json.object members).Part key value := .of_field found
  obtain ⟨branch, member, rfl⟩ := List.mem_map.mp inside
  obtain ⟨index, atIndex⟩ := List.mem_iff_getElem?.mp member
  exact ⟨rfl, .tail (.single ⟨_, outer⟩) ⟨_, .of_element atIndex⟩⟩

/-- The nodes inside a node are parts of it and stand in the same document. -/
theorem holdsInside_of_keywordInside {keyword : Keyword} {value : Json}
    (found : members.lookup keyword.name = some value)
    (inside : node ∈ keywordInside members scope keyword value) :
    node.scope = scope ∧ (Json.object members).HoldsInside node.schema := by
  have outer : (Json.object members).Part keyword.name value := .of_field found
  cases keyword with
  | items => exact holdsInside_of_itemsInside found inside
  | properties | patternProperties | additionalProperties => exact holdsInside_of_membersInside inside
  | dependencies =>
      obtain ⟨⟨name, dependency⟩, entry, ofEntry⟩ := List.mem_flatMap.mp inside
      obtain ⟨same, sameScope⟩ := of_objectInside ofEntry
      obtain rfl := Option.some.inj same
      exact ⟨sameScope, .tail (.single ⟨_, outer⟩) ⟨name, .of_member entry⟩⟩
  | allOf | anyOf | oneOf => exact holdsInside_of_branches found inside
  | not =>
      obtain ⟨same, sameScope⟩ := of_objectInside inside
      obtain rfl := Option.some.inj same
      exact ⟨sameScope, .single ⟨_, outer⟩⟩
  | _ => cases inside

private theorem mem_nodesInside (inside : node ∈ nodesInside members scope) :
    ∃ keyword ∈ keywordsOf members, ∃ value, members.lookup keyword.name = some value ∧
      node ∈ keywordInside members scope keyword value := by
  obtain ⟨keyword, isKeyword, ofKeyword⟩ := List.mem_flatMap.mp inside
  cases found : members.lookup keyword.name with
  | none =>
      rw [found] at ofKeyword
      cases ofKeyword
  | some value =>
      rw [found] at ofKeyword
      exact ⟨keyword, isKeyword, value, found, ofKeyword⟩

theorem holdsInside_of_nodesInside (inside : node ∈ nodesInside members scope) :
    node.scope = scope ∧ (Json.object members).HoldsInside node.schema := by
  obtain ⟨keyword, _, value, found, ofKeyword⟩ := mem_nodesInside inside
  exact holdsInside_of_keywordInside found ofKeyword

end Inside

/-! ### Slots that are taken -/

section Slots

variable {compiler : Compiler} {compile : Json → Scope → Compiling Rule} {nodes : List SchemaNode}
  {earlier later : Array Slot}

theorem keys_prefix_of_keeps (keeps : Keeps earlier later) :
    keys earlier <+: keys later := by
  apply List.IsPrefix.map
  rw [List.prefix_iff_eq_take]
  apply List.ext_getElem?
  intro index
  rw [List.getElem?_take, Array.getElem?_toList, Array.getElem?_toList, Array.length_toList]
  split
  next inRange => exact (keeps.2 index inRange).symm
  next beyond => exact Array.getElem?_eq_none (Nat.le_of_not_lt beyond)

theorem keeps_of_compile {budget : Nat} {schema : Json} {scope : Scope} {rule : Rule}
    (ran : compiler.compile budget schema scope earlier = .ok (rule, later)) :
    Keeps earlier later :=
  (yields_compile compiler later budget schema scope earlier rule later ran).1

theorem Walks.keeps {budget : Nat} (walks : Walks (compiler.compile budget) nodes earlier later) :
    Keeps earlier later := by
  induction walks with
  | nil => exact .refl _
  | cons ran _ ih => exact (keeps_of_compile ran).trans ih

private theorem nodup_keys_push {slots : Array Slot} {scope : Scope} {name : String}
    (distinct : (keys slots).Nodup) (new : (scope, name) ∉ keys slots) :
    (keys (slots.push ⟨scope, name, none⟩)).Nodup := by
  have different : ∀ key ∈ keys slots, key ≠ (scope, name) := by
    rintro key taken rfl
    exact new taken
  simpa [List.nodup_append, distinct] using different

theorem Walks.nodup_keys (walks : Walks compile nodes earlier later)
    (each : ∀ schema scope earlier rule later, compile schema scope earlier = .ok (rule, later) →
      (keys earlier).Nodup → (keys later).Nodup)
    (distinct : (keys earlier).Nodup) : (keys later).Nodup := by
  induction walks with
  | nil => exact distinct
  | cons ran _ ih => exact ih (each _ _ _ _ _ ran distinct)

theorem nodup_keys_of_compile {budget : Nat} {schema : Json} {scope : Scope} {rule : Rule}
    (ran : compiler.compile budget schema scope earlier = .ok (rule, later))
    (distinct : (keys earlier).Nodup) : (keys later).Nodup := by
  induction budget generalizing schema scope earlier rule later with
  | zero => cases ran
  | succ budget ih =>
      have step : Step compiler (compiler.compile budget) ⟨schema, scope⟩ earlier later :=
        step_of_ok ran
      cases step with
      | free => exact distinct
      | inside noReference reads walks =>
          exact walks.nodup_keys (fun _ _ _ _ _ ran distinct => ih ran distinct) distinct
      | known => exact distinct
      | nothing named new resolved => simpa using nodup_keys_push distinct new
      | target named new resolved ranInside =>
          simpa using ih ranInside (nodup_keys_push distinct new)

end Slots

/-! ### Nested calls -/

structure Position where
  node : SchemaNode
  slots : Array Slot

/-- The calls that compiling a node makes: nodes inside are compiled after those before them, what a
reference stands for after the reference has its slot. -/
inductive Calls (compiler : Compiler) : Position → Position → Prop where
  | inside {members : List (String × Json)} {scope : Scope} {slots middle : Array Slot}
      {budget : Nat} {before after : List SchemaNode} {node : SchemaNode}
      (noReference : members.lookup "$ref" = none)
      (order : nodesInside members scope = before ++ node :: after)
      (walks : Walks (compiler.compile budget) before slots middle) :
      Calls compiler ⟨⟨.object members, scope⟩, slots⟩ ⟨node, middle⟩
  | target {members : List (String × Json)} {scope targetScope : Scope} {slots : Array Slot}
      {name : String} {target : Json} (named : members.lookup "$ref" = some (.string name))
      (new : (scope, name) ∉ keys slots)
      (resolved : compiler.documents.resolve (.object members) scope =
        .ok (some (target, targetScope))) :
      Calls compiler ⟨⟨.object members, scope⟩, slots⟩
        ⟨⟨target, targetScope⟩, slots.push ⟨scope, name, none⟩⟩

variable {compiler : Compiler} {caller callee : Position}

private theorem exhausted_of_calls {budget : Nat}
    (exhausted : compiler.compile (budget + 1) caller.node.schema caller.node.scope caller.slots =
      .error .exhausted) :
    ∃ callee, compiler.Calls caller callee ∧
      compiler.compile budget callee.node.schema callee.node.scope callee.slots =
        .error .exhausted := by
  obtain ⟨node, slots⟩ := caller
  have stops : Stops compiler (compiler.compile budget) node slots .exhausted :=
    stops_of_error exhausted
  generalize stopped : CompileStop.exhausted = stop at stops
  cases stops with
  | inside noReference fails =>
      generalize order : nodesInside _ _ = nodes at fails
      obtain ⟨walks, failed⟩ := fails
      subst stopped
      exact ⟨_, .inside noReference order walks, failed⟩
  | pattern => cases stopped
  | noText => cases stopped
  | unresolved => cases stopped
  | target named new resolved failed =>
      subst stopped
      exact ⟨_, .target named new resolved, failed⟩

def referencesLeft (compiler : Compiler) (slots : Array Slot) : Nat :=
  leftOf compiler.documents.references.toFinset (keys slots)

def stepsLeft (compiler : Compiler) (position : Position) : Nat :=
  compiler.referencesLeft position.slots * (compiler.documents.weight + 1) +
    position.node.schema.weight

theorem Calls.keys_prefix (calls : compiler.Calls caller callee) :
    keys caller.slots <+: keys callee.slots := by
  cases calls with
  | inside noReference order walks => exact keys_prefix_of_keeps walks.keeps
  | target named new resolved => simp

theorem Calls.contains
    (contains : compiler.documents.Contains caller.node.schema caller.node.scope)
    (calls : compiler.Calls caller callee) :
    compiler.documents.Contains callee.node.schema callee.node.scope := by
  cases calls with
  | inside noReference order walks =>
      obtain ⟨sameScope, isInside⟩ := holdsInside_of_nodesInside
        (order ▸ List.mem_append_right _ List.mem_cons_self)
      dsimp only at contains ⊢
      rw [sameScope]
      exact contains.of_holds (.trans contains.holds isInside.to_reflTransGen)
  | target named new resolved => exact Documents.contains_of_resolve contains resolved

theorem Calls.nodup_keys (distinct : (keys caller.slots).Nodup)
    (calls : compiler.Calls caller callee) : (keys callee.slots).Nodup := by
  cases calls with
  | inside noReference order walks =>
      exact walks.nodup_keys (fun _ _ _ _ _ ran distinct => nodup_keys_of_compile ran distinct)
        distinct
  | target named new resolved => exact nodup_keys_push distinct new

private theorem referencesLeft_of_keeps {earlier later : Array Slot} (keeps : Keeps earlier later) :
    compiler.referencesLeft later ≤ compiler.referencesLeft earlier :=
  leftOf_le_of_subset (keys_prefix_of_keeps keeps).subset

private theorem referencesLeft_push_lt {slots : Array Slot} {scope : Scope} {name : String}
    (inDocuments : (scope, name) ∈ compiler.documents.references)
    (new : (scope, name) ∉ keys slots) :
    compiler.referencesLeft (slots.push ⟨scope, name, none⟩) < compiler.referencesLeft slots := by
  have fewer : leftOf compiler.documents.references.toFinset ((scope, name) :: keys slots) <
      compiler.referencesLeft slots := leftOf_cons_lt (List.mem_toFinset.mpr inDocuments) new
  refine Nat.lt_of_le_of_lt (leftOf_le_of_subset ?_) fewer
  simp

theorem Calls.stepsLeft_lt
    (contains : compiler.documents.Contains caller.node.schema caller.node.scope)
    (calls : compiler.Calls caller callee) :
    compiler.stepsLeft callee < compiler.stepsLeft caller := by
  cases calls with
  | inside noReference order walks =>
      obtain ⟨_, isInside⟩ := holdsInside_of_nodesInside
        (order ▸ List.mem_append_right _ List.mem_cons_self)
      have smaller := isInside.weight_lt
      have fewer : compiler.referencesLeft _ ≤ _ := referencesLeft_of_keeps walks.keeps
      exact Nat.add_lt_add_of_le_of_lt (Nat.mul_le_mul_right _ fewer) smaller
  | target named new resolved =>
      have holds := contains.holds
      have fewer := referencesLeft_push_lt
        (Documents.mem_references holds (Option.bind_eq_some_iff.mpr ⟨_, named, rfl⟩)) new
      have bound := Documents.weight_le_of_holds (Documents.holds_of_resolve holds resolved)
      exact digits_lt fewer (Nat.lt_succ_of_le bound)

/-- A budget above the steps that are left is enough. -/
theorem compile_ne_exhausted {budget : Nat}
    (contains : compiler.documents.Contains caller.node.schema caller.node.scope)
    (enough : compiler.stepsLeft caller < budget) :
    compiler.compile budget caller.node.schema caller.node.scope caller.slots ≠
      .error .exhausted := by
  induction budget generalizing caller with
  | zero => omega
  | succ budget ih =>
      intro exhausted
      obtain ⟨callee, calls, inside⟩ := exhausted_of_calls exhausted
      have less := calls.stepsLeft_lt contains
      exact ih (calls.contains contains) (by omega) inside

/-! ### Whole runs -/

def start (compiler : Compiler) : Position := ⟨⟨compiler.documents.main, .main⟩, #[]⟩

/-- What a run comes to: some call is nested at this position. -/
def Visits (compiler : Compiler) : Position → Prop :=
  Relation.ReflTransGen compiler.Calls compiler.start

theorem Visits.contains {position : Position} (visits : compiler.Visits position) :
    compiler.documents.Contains position.node.schema position.node.scope := by
  induction visits with
  | refl =>
      have whole : compiler.documents.main.Holds compiler.documents.main := .refl
      exact whole
  | tail _ calls ih => exact calls.contains ih

theorem Visits.nodup_keys {position : Position} (visits : compiler.Visits position) :
    (keys position.slots).Nodup := by
  induction visits with
  | refl => exact List.nodup_nil
  | tail _ calls ih => exact calls.nodup_keys ih

private theorem calls_wellFounded (compiler : Compiler) :
    WellFounded fun callee caller => compiler.Visits caller ∧ compiler.Calls caller callee := by
  apply Subrelation.wf _ (measure compiler.stepsLeft).wf
  rintro callee caller ⟨visits, calls⟩
  exact calls.stepsLeft_lt visits.contains

theorem stepsLeft_lt_budget {position : Position}
    (contains : compiler.documents.Contains position.node.schema position.node.scope) :
    compiler.stepsLeft position < compiler.budget := by
  have references : compiler.referencesLeft position.slots < compiler.documents.weight + 1 :=
    Nat.lt_succ_of_le (Nat.le_trans (leftOf_le _ _) compiler.documents.references_card_le)
  have atNode : position.node.schema.weight < compiler.documents.weight + 1 :=
    Nat.lt_succ_of_le (Documents.weight_le_of_holds contains.holds)
  have below : compiler.stepsLeft position < compiler.budget + 0 := digits_lt references atNode
  exact below

theorem run_ne_exhausted (compiler : Compiler) : compiler.run ≠ .error .exhausted := by
  have contains : compiler.documents.Contains compiler.documents.main .main :=
    Relation.ReflTransGen.refl
  have enough : compiler.stepsLeft compiler.start < compiler.budget := stepsLeft_lt_budget contains
  have ends : compiler.compile compiler.budget compiler.documents.main .main #[] ≠
      .error .exhausted := compile_ne_exhausted contains enough
  intro exhausted
  unfold run at exhausted
  rw [StateT.run] at exhausted
  cases ran : compiler.compile compiler.budget compiler.documents.main .main #[] with
  | error stop =>
      rw [ran] at exhausted
      obtain rfl := Except.error.inj exhausted
      exact ends ran
  | ok result =>
      rw [ran] at exhausted
      cases exhausted

end Compiler

namespace Validator

private theorem compile_ne_exhausted (schema : Json) (options : Options) :
    compile schema options ≠ .error .exhausted := by
  have ends := Compiler.run_ne_exhausted
    ⟨⟨schema, options.schemas, options.missingRefAllowed⟩, options.registry, options.formats⟩
  unfold compile
  split
  next =>
    dsimp only
    cases ran : Compiler.run ⟨⟨schema, options.schemas, options.missingRefAllowed⟩,
        options.registry, options.formats⟩ with
    | error stop =>
        intro exhausted
        rw [ran] at ends
        obtain rfl := Except.error.inj exhausted
        exact ends rfl
    | ok result =>
        intro exhausted
        cases exhausted
  next =>
    intro exhausted
    cases exhausted

/-- Compiling always comes to an answer. Its calls do not nest without end, and it is given up only where
one of them is. Each works on a part of the main schema or of an external one; a chain of references
that starts there ends within the steps that it is given, at a part of one of these schemas again. The
references that have been given a slot, each to be expanded then, keep it and are at every moment
different ones. -/
theorem compile_ends (schema : Json) (options : Options) :
    let compiler : Compiler :=
      ⟨⟨schema, options.schemas, options.missingRefAllowed⟩, options.registry, options.formats⟩
    let documents := compiler.documents
    compile schema options ≠ .error .exhausted ∧
      (WellFounded fun callee caller => compiler.Visits caller ∧ compiler.Calls caller callee) ∧
      (∀ position, compiler.Visits position →
        documents.Contains position.node.schema position.node.scope ∧
        (∀ more, documents.follow (documents.weight + 1 + more) [] position.node.schema
            position.node.scope =
          documents.resolve position.node.schema position.node.scope) ∧
        (∀ target targetScope,
          documents.resolve position.node.schema position.node.scope =
            .ok (some (target, targetScope)) →
          documents.Contains target targetScope) ∧
        (Compiler.keys position.slots).Nodup ∧
        (∀ callee, compiler.Calls position callee →
          Compiler.keys position.slots <+: Compiler.keys callee.slots) ∧
        ∀ budget,
          compiler.compile (budget + 1) position.node.schema position.node.scope position.slots =
            .error .exhausted →
          ∃ callee, compiler.Calls position callee ∧
            compiler.compile budget callee.node.schema callee.node.scope callee.slots =
              .error .exhausted) ∧
      ∀ rule slots,
        compiler.compile compiler.budget schema .main #[] = .ok (rule, slots) →
        (Compiler.keys slots).Nodup := by
  dsimp only
  refine ⟨compile_ne_exhausted schema options, Compiler.calls_wellFounded _, ?_, ?_⟩
  · intro position visits
    have contains := visits.contains
    refine ⟨contains, Documents.follow_eq_resolve contains.holds, ?_, visits.nodup_keys, ?_, ?_⟩
    · exact fun target targetScope => Documents.contains_of_resolve contains
    · exact fun callee calls => calls.keys_prefix
    · exact fun budget exhausted => Compiler.exhausted_of_calls exhausted
  · intro rule slots ran
    exact Compiler.nodup_keys_of_compile ran List.nodup_nil

end Validator

end JsonSchema
