import JsonSchema.Proofs.Compiling.Ending

set_option autoImplicit false

/-! When compiling succeeds. A node needs the nodes inside it, or what its reference stands for. A run
that succeeds has seen to every node that is needed, though it compiles the target of a reference only
once; a run that fails has come to a node at which something is wrong. The main statement is
`Validator.compile_isOk_iff`. -/

namespace JsonSchema

namespace Compiler

/-- To compile a node the other one has to be compiled, now or at an earlier use of the reference. -/
inductive Needs (compiler : Compiler) : SchemaNode → SchemaNode → Prop where
  | inside {members : List (String × Json)} {scope : Scope} {node : SchemaNode}
      (noReference : members.lookup "$ref" = none) (isInside : node ∈ nodesInside members scope) :
      Needs compiler ⟨.object members, scope⟩ node
  | target {members : List (String × Json)} {scope targetScope : Scope} {name : String}
      {target : Json} (named : members.lookup "$ref" = some (.string name))
      (resolved : compiler.documents.resolve (.object members) scope =
        .ok (some (target, targetScope))) :
      Needs compiler ⟨.object members, scope⟩ ⟨target, targetScope⟩

/-- What is wrong at a node, apart from the nodes that it needs. -/
inductive Faulty (compiler : Compiler) : SchemaNode → Prop where
  | pattern {members : List (String × Json)} {scope : Scope}
      (noReference : members.lookup "$ref" = none) (unreadable : ¬Reads members) :
      Faulty compiler ⟨.object members, scope⟩
  | noText {members : List (String × Json)} {scope : Scope} {reference : Json}
      (named : members.lookup "$ref" = some reference) (noText : reference.string? = none) :
      Faulty compiler ⟨.object members, scope⟩
  | unresolved {members : List (String × Json)} {scope : Scope} {name : String}
      {error : ResolveError} (named : members.lookup "$ref" = some (.string name))
      (resolved : compiler.documents.resolve (.object members) scope = .error error) :
      Faulty compiler ⟨.object members, scope⟩

inductive Settled (taken : List (Scope × String)) : SchemaNode → Prop where
  | free {node : SchemaNode} (noObject : node.schema.isObject = false) : Settled taken node
  | inside {members : List (String × Json)} {scope : Scope}
      (noReference : members.lookup "$ref" = none) (reads : Reads members)
      (each : ∀ node ∈ nodesInside members scope, Settled taken node) :
      Settled taken ⟨.object members, scope⟩
  | reference {members : List (String × Json)} {scope : Scope} {name : String}
      (named : members.lookup "$ref" = some (.string name)) (isTaken : (scope, name) ∈ taken) :
      Settled taken ⟨.object members, scope⟩

def SettledReference (compiler : Compiler) (taken : List (Scope × String))
    (key : Scope × String) : Prop :=
  ∃ target, compiler.documents.resolve (.object [("$ref", .string key.2)]) key.1 = .ok target ∧
    ∀ node ∈ target, Settled taken ⟨node.1, node.2⟩

/-- What a run sees to: its nodes, and the references to which it gives slots. -/
structure SeesTo (compiler : Compiler) (taken : List (Scope × String)) (nodes : List SchemaNode)
    (earlier later : Array Slot) : Prop where
  nodes : ∀ node ∈ nodes, Settled taken node
  references : ∀ key ∈ keys later, key ∉ keys earlier → compiler.SettledReference taken key

variable {compiler : Compiler} {taken : List (Scope × String)}

theorem resolve_key {members : List (String × Json)} {scope : Scope} {name : String}
    (named : members.lookup "$ref" = some (.string name)) :
    compiler.documents.resolve (.object [("$ref", .string name)]) scope =
      compiler.documents.resolve (.object members) scope := by
  have atNode : (Json.object members).field? "$ref" = some (.string name) := named
  exact compiler.documents.resolve_congr rfl atNode scope

private theorem seesTo_nodes {nodes : List SchemaNode} {slots : Array Slot}
    (each : ∀ node ∈ nodes, Settled taken node) : compiler.SeesTo taken nodes slots slots :=
  ⟨each, fun _ old new => (new old).elim⟩

theorem seesTo_of_walks {budget : Nat} {nodes : List SchemaNode} {earlier later : Array Slot}
    (each : ∀ schema scope earlier rule later,
      compiler.compile budget schema scope earlier = .ok (rule, later) → keys later ⊆ taken →
      compiler.SeesTo taken [⟨schema, scope⟩] earlier later)
    (walks : Walks (compiler.compile budget) nodes earlier later) (subset : keys later ⊆ taken) :
    compiler.SeesTo taken nodes earlier later := by
  induction walks with
  | nil => exact seesTo_nodes fun _ none => nomatch none
  | @cons node rest earlier middle later rule ran more ih =>
      have keeps := (keys_prefix_of_keeps more.keeps).subset
      have first := each _ _ _ _ _ ran (List.Subset.trans keeps subset)
      have others := ih subset
      refine ⟨List.forall_mem_cons.mpr ⟨first.nodes _ List.mem_cons_self, others.nodes⟩, ?_⟩
      intro key member new
      by_cases inMiddle : key ∈ keys middle
      · exact first.references key inMiddle new
      · exact others.references key member inMiddle

theorem seesTo_of_compile {budget : Nat} {schema : Json} {scope : Scope} {earlier later : Array Slot}
    {rule : Rule} (ran : compiler.compile budget schema scope earlier = .ok (rule, later))
    (subset : keys later ⊆ taken) : compiler.SeesTo taken [⟨schema, scope⟩] earlier later := by
  induction budget generalizing schema scope earlier rule later with
  | zero => cases ran
  | succ budget ih =>
      have step : Step compiler (compiler.compile budget) ⟨schema, scope⟩ earlier later :=
        step_of_ok ran
      cases step with
      | free noObject => exact seesTo_nodes (List.forall_mem_singleton.mpr (.free noObject))
      | inside noReference reads walks =>
          have inside := seesTo_of_walks (fun _ _ _ _ _ ran subset => ih ran subset) walks subset
          refine ⟨List.forall_mem_singleton.mpr ?_, inside.references⟩
          exact .inside noReference reads inside.nodes
      | known named old =>
          exact seesTo_nodes (List.forall_mem_singleton.mpr (.reference named (subset old)))
      | @nothing members scope name _ named new resolved =>
          have own : (scope, name) ∈ taken := subset (by simp)
          refine ⟨List.forall_mem_singleton.mpr (.reference named own), ?_⟩
          intro key member absent
          simp only [keys_fill, keys_push, List.mem_append, List.mem_singleton] at member
          rcases member with old | rfl
          · exact (absent old).elim
          · exact ⟨none, (resolve_key named).trans resolved, fun _ none => nomatch none⟩
      | @target members scope targetScope name target slots inside body named new resolved ranInside =>
          rw [keys_fill] at subset
          have sees := ih ranInside subset
          have keeps := (keys_prefix_of_keeps (keeps_of_compile ranInside)).subset
          have own : (scope, name) ∈ taken := subset (keeps (by simp))
          refine ⟨List.forall_mem_singleton.mpr (.reference named own), ?_⟩
          intro key member absent
          rw [keys_fill] at member
          by_cases isOwn : key = (scope, name)
          · subst isOwn
            refine ⟨_, (resolve_key named).trans resolved, ?_⟩
            intro node isTarget
            cases isTarget
            exact sees.nodes _ List.mem_cons_self
          · exact sees.references key member (by simp [absent, isOwn])

/-! ### Everything that is needed -/

theorem Needs.contains {node needed : SchemaNode}
    (needs : compiler.Needs node needed)
    (contains : compiler.documents.Contains node.schema node.scope) :
    compiler.documents.Contains needed.schema needed.scope := by
  cases needs with
  | inside _ isInside =>
      obtain ⟨sameScope, holds⟩ := holdsInside_of_nodesInside isInside
      rw [sameScope]
      exact contains.of_holds (.trans contains.holds holds.to_reflTransGen)
  | target _ resolved => exact Documents.contains_of_resolve contains resolved

/-- Where all references that have slots have been seen to, so has every node that one needs. -/
theorem Needs.settled {node needed : SchemaNode} (needs : compiler.Needs node needed)
    (settled : Settled taken node)
    (references : ∀ key ∈ taken, compiler.SettledReference taken key) : Settled taken needed := by
  cases needs with
  | inside noReference isInside =>
      cases settled with
      | free noObject => cases noObject
      | inside _ _ each => exact each _ isInside
      | reference named =>
          rw [noReference] at named
          cases named
  | target named resolved =>
      cases settled with
      | free noObject => cases noObject
      | inside noReference =>
          rw [noReference] at named
          cases named
      | reference otherNamed isTaken =>
          obtain ⟨target, atKey, each⟩ := references _ isTaken
          rw [resolve_key otherNamed, resolved] at atKey
          cases atKey
          exact each _ rfl

theorem Settled.of_needs {node needed : SchemaNode} (settled : Settled taken node)
    (references : ∀ key ∈ taken, compiler.SettledReference taken key)
    (needs : Relation.ReflTransGen compiler.Needs node needed) : Settled taken needed := by
  induction needs with
  | refl => exact settled
  | tail _ next ih => exact next.settled ih references

theorem Settled.not_faulty {node : SchemaNode} (settled : Settled taken node)
    (references : ∀ key ∈ taken, compiler.SettledReference taken key) :
    ¬compiler.Faulty node := by
  intro faulty
  cases settled with
  | free noObject => cases faulty <;> cases noObject
  | inside noReference reads =>
      cases faulty with
      | pattern _ unreadable => exact unreadable reads
      | noText named | unresolved named =>
          rw [noReference] at named
          cases named
  | reference named isTaken =>
      cases faulty with
      | pattern noReference =>
          rw [noReference] at named
          cases named
      | noText otherNamed noText =>
          rw [named] at otherNamed
          cases otherNamed
          cases noText
      | unresolved otherNamed resolved =>
          obtain ⟨target, atKey, _⟩ := references _ isTaken
          rw [resolve_key named, resolved] at atKey
          cases atKey

/-- A run that fails has come to a node with a fault. -/
theorem faulty_of_setup {budget : Nat} {node : SchemaNode} {slots : Array Slot} {error : SetupError}
    (failed : compiler.compile budget node.schema node.scope slots = .error (.setup error)) :
    ∃ needed, Relation.ReflTransGen compiler.Needs node needed ∧ compiler.Faulty needed := by
  induction budget generalizing node slots with
  | zero => cases failed
  | succ budget ih =>
      have stops : Stops compiler (compiler.compile budget) node slots (.setup error) :=
        stops_of_error failed
      generalize isSetup : CompileStop.setup error = stop at stops
      cases stops with
      | inside noReference fails =>
          generalize order : nodesInside _ _ = nodes at fails
          obtain ⟨walks, failedInside⟩ := fails
          subst isSetup
          obtain ⟨needed, needs, faulty⟩ := ih failedInside
          refine ⟨needed, .head (.inside noReference ?_) needs, faulty⟩
          rw [order]
          exact List.mem_append_right _ List.mem_cons_self
      | pattern noReference unreadable => exact ⟨_, .refl, .pattern noReference unreadable⟩
      | noText named noText => exact ⟨_, .refl, .noText named noText⟩
      | unresolved named new resolved => exact ⟨_, .refl, .unresolved named resolved⟩
      | @target members scope targetScope name target slots stop named new resolved failedInside =>
          subst isSetup
          obtain ⟨needed, needs, faulty⟩ := @ih ⟨target, targetScope⟩ _ failedInside
          exact ⟨needed, .head (.target named resolved) needs, faulty⟩

/-- What compiling the main schema comes to at some point, in some order. -/
def NeedsAtAll (compiler : Compiler) : SchemaNode → Prop :=
  Relation.ReflTransGen compiler.Needs ⟨compiler.documents.main, .main⟩

theorem run_isOk_iff (compiler : Compiler) :
    compiler.run.isOk = true ↔ ∀ node, compiler.NeedsAtAll node → ¬compiler.Faulty node := by
  have ends := compiler.run_ne_exhausted
  unfold run at ends ⊢
  rw [StateT.run] at ends ⊢
  cases ran : compiler.compile compiler.budget compiler.documents.main .main #[] with
  | ok result =>
      obtain ⟨rule, slots⟩ := result
      refine ⟨fun _ => ?_, fun _ => rfl⟩
      have sees := seesTo_of_compile ran (List.Subset.refl (keys slots))
      have references : ∀ key ∈ keys slots, compiler.SettledReference (keys slots) key :=
        fun key member => sees.references key member List.not_mem_nil
      intro node needed
      have settled := (sees.nodes _ List.mem_cons_self).of_needs references needed
      exact settled.not_faulty references
  | error stop =>
      rw [ran] at ends
      refine ⟨fun isOk => (nomatch isOk), fun flawless => ?_⟩
      cases stop with
      | exhausted => exact (ends rfl).elim
      | setup error =>
          let main : SchemaNode := ⟨compiler.documents.main, .main⟩
          have failed : compiler.compile compiler.budget main.schema main.scope #[] =
            .error (.setup error) := ran
          obtain ⟨node, needed, faulty⟩ := faulty_of_setup failed
          exact (flawless node needed faulty).elim

end Compiler

namespace Validator

theorem isOk_eq_run (schema : Json) (options : Options) :
    (compile schema options).isOk =
      (schema.isObject && (Compiler.run ⟨⟨schema, options.schemas, options.missingRefAllowed⟩,
        options.registry, options.formats⟩).isOk) := by
  unfold compile
  cases schema.isObject with
  | false => rfl
  | true =>
      rw [if_pos rfl]
      dsimp only
      cases Compiler.run ⟨⟨schema, options.schemas, options.missingRefAllowed⟩, options.registry,
        options.formats⟩ <;> rfl

/-- A schema is compiled exactly if it is an object and nothing is wrong at any node that is needed. -/
theorem compile_isOk_iff (schema : Json) (options : Options) :
    (compile schema options).isOk = true ↔
      schema.isObject = true ∧
        let compiler : Compiler := ⟨⟨schema, options.schemas, options.missingRefAllowed⟩,
          options.registry, options.formats⟩
        ∀ node, compiler.NeedsAtAll node → ¬compiler.Faulty node := by
  dsimp only
  rw [← Compiler.run_isOk_iff, isOk_eq_run, Bool.and_eq_true]

end Validator

end JsonSchema
