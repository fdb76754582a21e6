import JsonSchema.Proofs.Compiling.Succeeding

set_option autoImplicit false

/-! The rules that the compiler gives to nodes. A run of the compiler makes others, and nodes can be
compiled one after the other into one table; whichever run a rule comes from, it represents its node in
the table that is there in the end. A node at which nothing is wrong is given a rule. The main
statements are `Compiler.Gives.represents` and `Compiler.gives_iff`. -/

namespace JsonSchema

namespace Compiler

structure Run (compiler : Compiler) where
  budget : Nat
  node : SchemaNode
  earlier : Array Slot
  rule : Rule
  later : Array Slot
  ends : compiler.compile budget node.schema node.scope earlier = .ok (rule, later)

variable {compiler : Compiler} {final : Array Slot}

/-- A run makes another one for a node inside its node, or for what its reference stands for. -/
inductive Run.Makes : compiler.Run → compiler.Run → Prop where
  | inside {outer inner : compiler.Run} {members : List (String × Json)} {scope : Scope}
      {before after : List SchemaNode} (budget : outer.budget = inner.budget + 1)
      (isNode : outer.node = ⟨.object members, scope⟩)
      (noReference : members.lookup "$ref" = none)
      (order : nodesInside members scope = before ++ inner.node :: after)
      (first : Walks (compiler.compile inner.budget) before outer.earlier inner.earlier)
      (rest : Walks (compiler.compile inner.budget) after inner.later outer.later) :
      Makes outer inner
  | target {outer inner : compiler.Run} {members : List (String × Json)} {scope : Scope}
      {name : String} (budget : outer.budget = inner.budget + 1)
      (isNode : outer.node = ⟨.object members, scope⟩)
      (named : members.lookup "$ref" = some (.string name))
      (new : (scope, name) ∉ keys outer.earlier)
      (resolved : compiler.documents.resolve (.object members) scope =
        .ok (some (inner.node.schema, inner.node.scope)))
      (entered : inner.earlier = outer.earlier.push ⟨scope, name, none⟩)
      (left : outer.later = fill inner.later outer.earlier.size inner.rule) : Makes outer inner

namespace Run

variable {outer inner : compiler.Run}

theorem Makes.covers (makes : outer.Makes inner) (covers : Covers final outer.later) :
    Covers final inner.later := by
  cases makes with
  | inside _ _ _ _ _ rest => exact covers.of_keeps rest.keeps
  | target _ _ _ _ _ _ left => exact covers_of_fill (left ▸ covers)

theorem Makes.needs (makes : outer.Makes inner) : compiler.Needs outer.node inner.node := by
  cases makes with
  | inside _ isNode noReference order =>
      rw [isNode]
      refine .inside noReference ?_
      rw [order]
      exact List.mem_append_right _ List.mem_cons_self
  | target _ isNode named _ resolved =>
      rw [isNode]
      exact .target named resolved

/-- A run at a reference that has no slot yet makes one for what the reference stands for. -/
theorem exists_makes {run : compiler.Run} {members : List (String × Json)} {scope : Scope}
    {name : String} {target : SchemaNode} (isNode : run.node = ⟨.object members, scope⟩)
    (named : members.lookup "$ref" = some (.string name)) (new : (scope, name) ∉ keys run.earlier)
    (resolved : compiler.documents.resolve (.object members) scope =
      .ok (some (target.schema, target.scope))) :
    ∃ inner : compiler.Run, run.Makes inner ∧ inner.node = target := by
  obtain ⟨budget, node, earlier, rule, later, ends⟩ := run
  subst isNode
  cases budget with
  | zero => cases ends
  | succ budget =>
      have step : Step compiler (compiler.compile budget) ⟨.object members, scope⟩ earlier later :=
        step_of_ok ends
      cases step with
      | free noObject => cases noObject
      | inside noReference =>
          rw [noReference] at named
          cases named
      | known otherNamed old =>
          rw [named] at otherNamed
          cases otherNamed
          exact absurd old new
      | nothing _ _ otherResolved =>
          rw [resolved] at otherResolved
          cases otherResolved
      | target otherNamed _ otherResolved ranInside =>
          rw [named] at otherNamed
          cases otherNamed
          rw [resolved] at otherResolved
          cases otherResolved
          let inner : compiler.Run := ⟨budget, target, _, _, _, ranInside⟩
          exact ⟨inner, .target rfl rfl named new resolved rfl rfl, rfl⟩

def Within (outer inner : compiler.Run) : Prop := Relation.ReflTransGen Makes outer inner

theorem Within.covers (within : outer.Within inner) (covers : Covers final outer.later) :
    Covers final inner.later := by
  induction within with
  | refl => exact covers
  | tail _ makes ih => exact makes.covers ih

theorem Within.needs (within : outer.Within inner) :
    Relation.ReflTransGen compiler.Needs outer.node inner.node :=
  Relation.ReflTransGen.lift Run.node (fun _ _ => Makes.needs) _ _ within

/-- All runs within one at a part of a document are at parts of documents. -/
theorem Within.contains (within : outer.Within inner)
    (contains : compiler.documents.Contains outer.node.schema outer.node.scope) :
    compiler.documents.Contains inner.node.schema inner.node.scope := by
  induction within with
  | refl => exact contains
  | tail _ makes ih => exact makes.needs.contains ih

private theorem represents (run : compiler.Run) (covers : Covers final run.later) :
    compiler.interpreter.Represents final run.budget run.node run.rule :=
  ((yields_compile compiler final _ _ _ _ _ _ run.ends).2 covers).1

end Run

theorem Walks.filledFrom {budget : Nat} {nodes : List SchemaNode} {earlier later : Array Slot}
    (walks : Walks (compiler.compile budget) nodes earlier later) (covers : Covers final later) :
    FilledFrom compiler.interpreter final earlier.size later := by
  induction walks with
  | nil => exact filledFrom_size _
  | cons ran more ih =>
      have own := (yields_compile compiler final _ _ _ _ _ _ ran).2 (covers.of_keeps more.keeps)
      exact own.2.trans more.keeps (ih covers)

/-- A node is given a rule by a run within one of those that compile nodes one after the other; the table
is the one after the last of them. A schema is compiled by a run at its root alone. -/
inductive Gives (compiler : Compiler) : SchemaNode → Rule → Array Rule → Prop where
  | within {before after : List SchemaNode} {outer inner : compiler.Run} {last : Array Slot}
      (first : Walks (compiler.compile outer.budget) before #[] outer.earlier)
      (rest : Walks (compiler.compile outer.budget) after outer.later last)
      (within : outer.Within inner) :
      Gives compiler inner.node inner.rule (Interpreter.bodies last)

def Sound (compiler : Compiler) (node : SchemaNode) : Prop :=
  ∀ needed, Relation.ReflTransGen compiler.Needs node needed → ¬compiler.Faulty needed

variable {node : SchemaNode} {rule : Rule} {table : Array Rule}

theorem Run.gives {outer inner : compiler.Run} (alone : outer.earlier = #[])
    (within : outer.Within inner) :
    compiler.Gives inner.node inner.rule (Interpreter.bodies outer.later) := by
  have first : Walks (compiler.compile outer.budget) [] #[] outer.earlier := alone ▸ .nil
  exact .within first .nil within

/-- What the main schema stands for has a rule in the table of the schema. -/
theorem gives_of_run (target : SchemaNode) (ran : compiler.run = .ok (rule, table))
    (resolved : compiler.documents.resolve compiler.documents.main .main =
      .ok (some (target.schema, target.scope))) :
    ∃ own, compiler.Gives target own table := by
  obtain ⟨slots, rfl, compiled⟩ := compiled_of_run ran
  let whole : compiler.Run := ⟨_, ⟨compiler.documents.main, .main⟩, #[], rule, slots, compiled⟩
  cases named : compiler.documents.main.field? "$ref" with
  | none =>
      obtain ⟨target, targetScope⟩ := target
      rw [Documents.resolve_eq_self named] at resolved
      cases resolved
      exact ⟨_, whole.gives rfl .refl⟩
  | some reference =>
      obtain ⟨name, rfl⟩ := Documents.isText_of_resolve named resolved
      obtain ⟨members, isObject⟩ := Json.object_of_field named
      have isNode : whole.node = ⟨.object members, .main⟩ := congrArg (SchemaNode.mk · .main) isObject
      rw [isObject] at named resolved
      obtain ⟨inner, makes, rfl⟩ := Run.exists_makes isNode named List.not_mem_nil resolved
      exact ⟨_, whole.gives rfl (.single makes)⟩

/-- A rule that a node is given represents it, in a table with all slots filled. -/
theorem Gives.represents (gives : compiler.Gives node rule table) :
    ∃ slots : Array Slot, table = Interpreter.bodies slots ∧ compiler.interpreter.Filled slots ∧
      (keys slots).Nodup ∧ ∃ depth, compiler.interpreter.Represents slots depth node rule := by
  obtain @⟨_, _, outer, inner, last, first, rest, within⟩ := gives
  have all := first.append (.cons outer.ends rest)
  refine ⟨last, rfl, ?_, ?_, inner.budget, ?_⟩
  · exact fun index slot atIndex => all.filledFrom (.refl _) index slot (Nat.zero_le index) atIndex
  · exact all.nodup_keys (fun _ _ _ _ _ => nodup_keys_of_compile) List.nodup_nil
  · exact inner.represents (within.covers (Covers.of_keeps (.refl last) rest.keeps))

theorem Gives.sound (gives : compiler.Gives node rule table) : compiler.Sound node := by
  obtain @⟨_, _, outer, inner, last, first, rest, within⟩ := gives
  have sees := seesTo_of_walks (fun _ _ _ _ _ => seesTo_of_compile)
    (first.append (.cons outer.ends rest)) (List.Subset.refl (keys last))
  have references : ∀ key ∈ keys last, compiler.SettledReference (keys last) key :=
    fun key member => sees.references key member List.not_mem_nil
  have atOuter := sees.nodes outer.node (List.mem_append_right _ List.mem_cons_self)
  intro needed needs
  exact (atOuter.of_needs references (within.needs.trans needs)).not_faulty references

/-- A node of one of the documents is given a rule exactly if nothing is wrong at any node that compiling it
comes to. -/
theorem gives_iff (contains : compiler.documents.Contains node.schema node.scope) :
    (∃ rule table, compiler.Gives node rule table) ↔ compiler.Sound node := by
  constructor
  · rintro ⟨rule, table, gives⟩
    exact gives.sound
  · intro sound
    cases ran : compiler.compile compiler.budget node.schema node.scope #[] with
    | ok result =>
        let whole : compiler.Run := ⟨_, node, #[], result.1, result.2, ran⟩
        exact ⟨_, _, whole.gives rfl .refl⟩
    | error stop =>
        cases stop with
        | exhausted =>
            have enough : compiler.stepsLeft ⟨node, #[]⟩ < compiler.budget :=
              stepsLeft_lt_budget contains
            exact (compile_ne_exhausted contains enough ran).elim
        | setup error =>
            obtain ⟨needed, needs, faulty⟩ := faulty_of_setup ran
            exact (sound needed needs faulty).elim

end Compiler

end JsonSchema
