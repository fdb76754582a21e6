import JsonSchema.Proofs.Building.Repeating
import JsonSchema.Proofs.Building.Tasks
import JsonSchema.Proofs.Losses

set_option autoImplicit false

/-! Where nodes are applied while a value is built, and which members are dropped there. A run of a node
does its tasks one after the other, and each of them is a run of a node again; `Builder.build_cases` is
what a single run does. -/

namespace JsonSchema

namespace Builder

/-! ### The node that is built -/

/-- The node on which a visit works: what its schema stands for, unless that is a reference that is being
expanded. -/
inductive Enters (builder : Builder) (visit : Visit) : Visit → Prop where
  | plain {target : Json} {targetScope : Scope}
      (noReference : (visit.schema.field? "$ref").bind Json.string? = none)
      (isObject : visit.schema.isObject = true)
      (resolved : builder.documents.resolve visit.schema visit.scope =
        .ok (some (target, targetScope))) :
      Enters builder visit ⟨target, targetScope, visit.site, visit.value⟩
  | reference {reference : String} {target : Json} {targetScope : Scope}
      (named : (visit.schema.field? "$ref").bind Json.string? = some reference)
      (new : visit.site.reenters visit.scope reference visit.value = false)
      (resolved : builder.documents.resolve visit.schema visit.scope =
        .ok (some (target, targetScope))) :
      Enters builder visit
        ⟨target, targetScope, visit.site.expand visit.scope reference, visit.value⟩

variable {builder : Builder} {visit node : Visit}

theorem isObject_of_field {schema value : Json} {key : String}
    (found : schema.field? key = some value) : schema.isObject = true := by
  obtain ⟨_, rfl⟩ := Json.object_of_field found
  rfl

theorem Enters.resolved (enters : builder.Enters visit node) :
    builder.documents.resolve visit.schema visit.scope = .ok (some (node.schema, node.scope)) := by
  cases enters with
  | plain _ _ resolved => exact resolved
  | reference _ _ resolved => exact resolved

theorem Enters.value_eq (enters : builder.Enters visit node) : node.value = visit.value := by
  cases enters <;> rfl

theorem Enters.noReference (enters : builder.Enters visit node) :
    node.schema.field? "$ref" = none := Documents.noReference_of_resolve enters.resolved

section Node

variable {Computing : Type → Type} [Monad Computing]
  {build : Json → Scope → Site → Option Json → Computing Built}

theorem buildNode_of_enters (enters : builder.Enters visit node) :
    builder.buildNode build visit.schema visit.scope visit.site visit.value =
      builder.buildTarget build node.schema node.scope node.site node.value := by
  cases enters with
  | plain noReference isObject resolved =>
      unfold buildNode
      rw [noReference]
      exact buildResolved_target isObject resolved
  | reference named new resolved =>
      obtain ⟨value, found, _⟩ := Option.bind_eq_some_iff.mp named
      rw [buildNode_reference named new]
      exact buildResolved_target (isObject_of_field found) resolved

theorem buildNode_of_not_enters (none : ∀ node, ¬builder.Enters visit node) :
    builder.buildNode build visit.schema visit.scope visit.site visit.value =
      pure (.plain visit.value) := by
  cases named : (visit.schema.field? "$ref").bind Json.string? with
  | none =>
      unfold buildNode
      rw [named]
      apply buildResolved_other
      intro isObject target targetScope resolved
      exact none _ (.plain named isObject resolved)
  | some reference =>
      cases entered : visit.site.reenters visit.scope reference visit.value with
      | true =>
          unfold buildNode
          rw [named]
          exact if_pos entered
      | false =>
          rw [buildNode_reference named entered]
          apply buildResolved_other
          intro _ target targetScope resolved
          exact none _ (.reference named entered resolved)

end Node

theorem build_of_enters (enters : builder.Enters visit node) (budget : Nat) :
    builder.build (budget + 1) visit.schema visit.scope visit.site visit.value = do
      let (final, undeclared) ← runTasks (builder.build budget) node node.tasks node.given
      return builder.finish node final undeclared := by
  rw [build, buildNode_of_enters enters, buildTarget_eq]

/-- What a run does: it does the tasks of the node on which it works, or it leaves the value as it is. -/
theorem build_cases {budget : Nat} {built : Built}
    (ran : builder.build (budget + 1) visit.schema visit.scope visit.site visit.value = .ok built) :
    (∃ node final undeclared, builder.Enters visit node ∧
        runTasks (builder.build budget) node node.tasks node.given = .ok (final, undeclared) ∧
        built = builder.finish node final undeclared) ∨
      (∀ node, ¬builder.Enters visit node) ∧ built = .plain visit.value := by
  by_cases works : ∃ node, builder.Enters visit node
  · obtain ⟨node, enters⟩ := works
    rw [build_of_enters enters] at ran
    obtain ⟨⟨final, undeclared⟩, ranTasks, result⟩ := ends_of_bind ran
    exact .inl ⟨node, final, undeclared, enters, ranTasks, (Except.ok.inj result).symm⟩
  · have none : ∀ node, ¬builder.Enters visit node := fun node enters => works ⟨node, enters⟩
    rw [build, buildNode_of_not_enters none] at ran
    exact .inr ⟨none, (Except.ok.inj ran).symm⟩

/-! ### The nodes that building comes to -/

end Builder

namespace Visit

variable {node : Visit}

theorem way_eq_members {properties : List (String × Json)} (way : node.way = .members properties) :
    (node.schema.field? "properties").bind Json.members? = some properties ∧
      ∃ members, node.given = some (.object members) := by
  unfold Visit.way at way
  split at way
  next isGiven declared =>
    obtain rfl := Way.members.inj way
    exact ⟨declared, _, isGiven⟩
  next => cases way
  next => cases way

private theorem way_eq_elements {items : Json} (way : node.way = .elements items) :
    Builder.arrayOrObject? (node.schema.field? "items") = some items ∧
      ∃ elements, node.given = some (.array elements) := by
  unfold Visit.way at way
  split at way
  next => cases way
  next isGiven read =>
    obtain rfl := Way.elements.inj way
    exact ⟨read, _, isGiven⟩
  next => cases way

private theorem allOf_of_mem {branches : List Json} (way : node.way = .branches branches) {branch : Json}
    (isBranch : branch ∈ branches) : node.schema.field? "allOf" = some (.array branches) := by
  unfold Visit.way at way
  split at way
  next => cases way
  next => cases way
  next =>
    rw [Way.branches.injEq] at way
    subst way
    cases found : node.schema.field? "allOf" with
    | none =>
        rw [found] at isBranch
        cases isBranch
    | some written =>
        cases written with
        | array branches => rfl
        | _ =>
            rw [found] at isBranch
            cases isBranch

private theorem isTask_of_elementTasks {items : Json} {count : Nat} {task : Builder.Task}
    (read : Builder.arrayOrObject? (node.schema.field? "items") = some items)
    (isTask : task ∈ node.elementTasks items count) : Builder.IsTask node.schema task := by
  have found := Builder.arrayOrObject?_eq_some read
  unfold elementTasks at isTask
  split at isTask
  next tuple =>
    rcases List.mem_append.mp isTask with isPosition | isAdditional
    · obtain ⟨⟨item, index⟩, atIndex, rfl⟩ := List.mem_map.mp isPosition
      exact .position found (List.mem_zipIdx_iff_getElem?.mp atIndex)
    · unfold additionalTasks at isAdditional
      split at isAdditional
      next inner written =>
        obtain ⟨index, inRange, rfl⟩ := List.mem_map.mp isAdditional
        exact .additional found written (List.mem_range'_1.mp inRange).1
      next => cases isAdditional
  next notTuple =>
    obtain ⟨index, _, rfl⟩ := List.mem_map.mp isTask
    unfold Builder.arrayOrObject? at read
    split at read
    next members _ =>
      obtain rfl := Option.some.inj read
      exact .each found
    next elements _ => exact absurd (Option.some.inj read).symm (notTuple elements)
    next => cases read

theorem mem_of_split {before after : List Builder.Task} {task : Builder.Task}
    (split : node.tasks = before ++ task :: after) : task ∈ node.tasks := by
  rw [split]
  exact List.mem_append_right before List.mem_cons_self

theorem isTask_of_mem {task : Builder.Task} (isTask : task ∈ node.tasks) :
    Builder.IsTask node.schema task := by
  unfold tasks at isTask
  cases way : node.way with
  | members properties =>
      rw [way] at isTask
      obtain ⟨property, isProperty, rfl⟩ := List.mem_map.mp isTask
      exact .member (way_eq_members way).1 isProperty
  | elements items =>
      rw [way] at isTask
      exact isTask_of_elementTasks (way_eq_elements way).1 isTask
  | branches branches =>
      rw [way] at isTask
      obtain ⟨branch, isBranch, rfl⟩ := List.mem_map.mp isTask
      exact .branch (allOf_of_mem way isBranch) isBranch

private theorem place_of_elementTasks {items : Json} {count : Nat} {task : Builder.Task}
    (isTask : task ∈ node.elementTasks items count) :
    ∃ index, task.place = some (.element index) := by
  unfold elementTasks additionalTasks at isTask
  split at isTask
  next tuple =>
    rcases List.mem_append.mp isTask with isPosition | isAdditional
    · obtain ⟨entry, _, rfl⟩ := List.mem_map.mp isPosition
      exact ⟨entry.2, rfl⟩
    · split at isAdditional
      next =>
        obtain ⟨index, _, rfl⟩ := List.mem_map.mp isAdditional
        exact ⟨index, rfl⟩
      next => cases isAdditional
  next =>
    obtain ⟨index, _, rfl⟩ := List.mem_map.mp isTask
    exact ⟨index, rfl⟩

/-- The value with which a node starts is an object or an array, as its tasks ask. -/
theorem given_takes {task : Builder.Task} {step : Step} (isTask : task ∈ node.tasks)
    (place : task.place = some step) : ∃ value, node.given = some value ∧ value.takes step = true := by
  unfold tasks at isTask
  cases way : node.way with
  | members properties =>
      rw [way] at isTask
      obtain ⟨property, _, rfl⟩ := List.mem_map.mp isTask
      obtain ⟨_, members, given⟩ := way_eq_members way
      obtain rfl := Option.some.inj place
      exact ⟨.object members, given, rfl⟩
  | elements items =>
      rw [way] at isTask
      obtain ⟨_, elements, given⟩ := way_eq_elements way
      obtain ⟨index, atIndex⟩ := place_of_elementTasks isTask
      obtain rfl := Option.some.inj (atIndex.symm.trans place)
      exact ⟨.array elements, given, rfl⟩
  | branches branches =>
      rw [way] at isTask
      obtain ⟨branch, _, rfl⟩ := List.mem_map.mp isTask
      cases place

end Visit

/-- The nodes that building comes to: the main schema, what references stand for, and the nodes of the tasks
that a node can have. -/
inductive Documents.ComesTo (documents : Documents) : Json → Scope → Prop where
  | main : documents.ComesTo documents.main .main
  | target {schema target : Json} {scope targetScope : Scope} (comes : documents.ComesTo schema scope)
      (resolved : documents.resolve schema scope = .ok (some (target, targetScope))) :
      documents.ComesTo target targetScope
  | inside {schema : Json} {scope : Scope} {task : Builder.Task}
      (comes : documents.ComesTo schema scope) (noReference : schema.field? "$ref" = none)
      (isTask : Builder.IsTask schema task) : documents.ComesTo task.schema scope

def Builder.inside (schema : Json) : List Json :=
  let properties := ((schema.field? "properties").bind Json.members?).getD []
  let items := schema.field? "items"
  let branches := ((schema.field? "allOf").bind Json.elements?).getD []
  properties.map (·.2) ++ items.toList ++ (items.bind Json.elements?).getD [] ++
    (schema.field? "additionalItems").toList ++ branches

theorem Builder.IsTask.mem_inside {schema : Json} {task : Builder.Task}
    (isTask : Builder.IsTask schema task) : task.schema ∈ Builder.inside schema := by
  unfold Builder.inside
  simp only [List.mem_append]
  cases isTask with
  | @member properties property declared isProperty =>
      rw [declared]
      exact .inl (.inl (.inl (.inl (List.mem_map.mpr ⟨property, isProperty, rfl⟩))))
  | position found isItem =>
      rw [found]
      exact .inl (.inl (.inr (List.mem_of_getElem? isItem)))
  | additional _ written _ =>
      rw [written]
      exact .inl (.inr List.mem_cons_self)
  | each found =>
      rw [found]
      exact .inl (.inl (.inl (.inr List.mem_cons_self)))
  | branch found isBranch =>
      rw [found]
      exact .inr isBranch

/-- Building comes only to the nodes of a list that has the main schema and, with a node, what it stands
for and what is built inside it. -/
theorem Documents.ComesTo.mem {documents : Documents} {nodes : List Json}
    (main : documents.main ∈ nodes)
    (targets : ∀ node ∈ nodes, ∀ found ∈ (documents.resolve node .main).toOption.join.toList,
      found.1 ∈ nodes ∧ found.2 = .main)
    (closed : ∀ node ∈ nodes, ∀ child ∈ Builder.inside node, child ∈ nodes)
    {node : Json} {scope : Scope} (comes : documents.ComesTo node scope) :
    node ∈ nodes ∧ scope = .main := by
  induction comes with
  | main => exact ⟨main, rfl⟩
  | @target schema target _ targetScope _ resolved ih =>
      obtain ⟨isNode, rfl⟩ := ih
      apply targets schema isNode (target, targetScope)
      rw [resolved]
      exact List.mem_cons_self
  | inside _ _ isTask ih => exact ⟨closed _ ih.1 _ isTask.mem_inside, ih.2⟩

theorem Documents.ComesTo.holds {documents : Documents} {node : Json} {scope : Scope}
    (comes : documents.ComesTo node scope) : documents.Holds node scope := by
  induction comes with
  | main => exact .refl
  | target _ resolved ih => exact Documents.holds_of_resolve ih resolved
  | inside _ _ isTask ih => exact Relation.ReflTransGen.trans ih isTask.holdsInside.to_reflTransGen

namespace Builder

variable {builder : Builder} {visit node inner : Visit} {budget : Nat} {location : List Step}

/-! ### Where nodes are applied -/

/-- A run of a visit applies a node at a location of the value: there the node is entered, with the value
that it has after all tasks before. -/
inductive Applies (builder : Builder) : Nat → Visit → List Step → Visit → Prop where
  | here {budget : Nat} {visit node : Visit} (enters : builder.Enters visit node) :
      Applies builder (budget + 1) visit [] node
  | inside {budget : Nat} {visit node inner : Visit} {location : List Step} {task : Task}
      {before after : List Task} {current : Option Json} {undeclared : List String}
      (enters : builder.Enters visit node) (tasks : node.tasks = before ++ task :: after)
      (ran : runTasks (builder.build budget) node before node.given = .ok (current, undeclared))
      (applies : Applies builder budget (task.visit node current) location inner) :
      Applies builder (budget + 1) visit (task.place.toList ++ location) inner

theorem Enters.comesTo (enters : builder.Enters visit node)
    (comes : builder.documents.ComesTo visit.schema visit.scope) :
    builder.documents.ComesTo node.schema node.scope := .target comes enters.resolved

theorem Enters.task_comesTo (enters : builder.Enters visit node)
    (comes : builder.documents.ComesTo visit.schema visit.scope) {task : Task}
    (isTask : task ∈ node.tasks) : builder.documents.ComesTo task.schema node.scope :=
  .inside (enters.comesTo comes) enters.noReference (Visit.isTask_of_mem isTask)

theorem Applies.comesTo (applies : builder.Applies budget visit location inner)
    (comes : builder.documents.ComesTo visit.schema visit.scope) :
    builder.documents.ComesTo inner.schema inner.scope := by
  induction applies with
  | here enters => exact enters.comesTo comes
  | inside enters tasks _ _ ih => exact ih (enters.task_comesTo comes (Visit.mem_of_split tasks))

/-! ### Members that are dropped -/

def excludes (builder : Builder) (name : String) (schema : Json) : Bool :=
  match (schema.field? "properties").bind Json.members? with
  | some properties => builder.dropsUndeclared schema && !Entries.hasKey properties name
  | none => false

theorem excludes_iff {name : String} {schema : Json} :
    builder.excludes name schema = true ↔ ∃ properties,
      (schema.field? "properties").bind Json.members? = some properties ∧
        builder.dropsUndeclared schema = true ∧ name ∉ Entries.names properties := by
  unfold excludes
  cases declared : (schema.field? "properties").bind Json.members? with
  | none => simp
  | some properties => simp [← Entries.hasKey_iff_mem_names]

theorem dropsUndeclared_of_allowed {documents : Documents} {schema : Json}
    (drops : dropsUndeclared ⟨documents, true⟩ schema = true) :
    schema.field? "additionalProperties" = some (.bool false) := by
  unfold dropsUndeclared at drops
  split at drops
  next isFalse => exact isFalse
  all_goals cases drops

/-- A branch of `allOf` excludes a name. -/
def forbids (builder : Builder) (scope : Scope) (name : String) (branch : Json) : Bool :=
  match builder.documents.resolve branch scope with
  | .ok (some (target, _)) => builder.excludes name target
  | _ => false

/-- A run drops a member of an object: a node that completes the object excludes its name, and either
that is no branch of `allOf`, or several branches of one `allOf` exclude it. -/
inductive Drops (builder : Builder) (budget : Nat) (visit : Visit) (location : List Step)
    (name : String) : Prop where
  | alone {node : Visit} {properties : List (String × Json)}
      (applies : builder.Applies budget visit location node) (way : node.way = .members properties)
      (excludes : builder.excludes name node.schema = true) (noBranch : node.site.inBranch = false) :
      Drops builder budget visit location name
  | together {whole node : Visit} {branches : List Json} {properties : List (String × Json)}
      (appliesWhole : builder.Applies budget visit location whole)
      (wayWhole : whole.way = .branches branches)
      (several : 2 ≤ branches.countP (builder.forbids whole.scope name))
      (applies : builder.Applies budget visit location node) (way : node.way = .members properties)
      (excludes : builder.excludes name node.schema = true) :
      Drops builder budget visit location name

theorem Drops.of_task {task : Task} {before after : List Task} {current : Option Json}
    {undeclared : List String} {name : String}
    (enters : builder.Enters visit node) (tasks : node.tasks = before ++ task :: after)
    (ran : runTasks (builder.build budget) node before node.given = .ok (current, undeclared))
    (drops : builder.Drops budget (task.visit node current) location name) :
    builder.Drops (budget + 1) visit (task.place.toList ++ location) name := by
  cases drops with
  | alone applies way excludes noBranch =>
      exact .alone (.inside enters tasks ran applies) way excludes noBranch
  | together appliesWhole wayWhole several applies way excludes =>
      exact .together (.inside enters tasks ran appliesWhole) wayWhole several
        (.inside enters tasks ran applies) way excludes

theorem Drops.applies {name : String} (drops : builder.Drops budget visit location name) :
    ∃ node properties, builder.Applies budget visit location node ∧
      node.way = .members properties ∧ builder.excludes name node.schema = true := by
  cases drops with
  | alone applies way excludes => exact ⟨_, _, applies, way, excludes⟩
  | together _ _ _ applies way excludes => exact ⟨_, _, applies, way, excludes⟩

/-- Nothing is dropped where undeclared members are allowed and no node has `additionalProperties` false. -/
theorem not_drops {documents : Documents} {name : String}
    (comes : documents.ComesTo visit.schema visit.scope)
    (noneClosed : ∀ node scope, documents.ComesTo node scope →
      node.field? "additionalProperties" ≠ some (.bool false)) :
    ¬Drops ⟨documents, true⟩ budget visit location name := by
  intro drops
  obtain ⟨node, _, applies, _, excludes⟩ := drops.applies
  obtain ⟨_, _, closes, _⟩ := excludes_iff.mp excludes
  exact noneClosed node.schema node.scope (applies.comesTo comes) (dropsUndeclared_of_allowed closes)

end Builder

end JsonSchema
