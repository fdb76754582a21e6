import JsonSchema.Proofs.Compiling.Nodes

set_option autoImplicit false

/-! The way of the compiler through a schema. To compile a node that is no reference is to compile the
nodes inside it one after the other; beside that nothing happens to the slots, and the only thing that
can go wrong is a pattern that cannot be read. A reference takes a slot, unless it has one, and compiles
what it stands for. The main statements are `Compiler.step_of_ok` and `Compiler.stops_of_error`, which
say what a run at one node can do. -/

namespace JsonSchema

namespace Compiler

/-! ### The nodes inside a node -/

def objectInside (schema : Option Json) (scope : Scope) : List SchemaNode :=
  match schema with
  | some (.object inner) => [⟨.object inner, scope⟩]
  | _ => []

def itemsInside (members : List (String × Json)) (scope : Scope) (items : Json) : List SchemaNode :=
  match items with
  | .object inner => [⟨.object inner, scope⟩]
  | .array tuple =>
      tuple.map (SchemaNode.mk · scope) ++ objectInside (members.lookup "additionalItems") scope
  | _ => []

def table (members : List (String × Json)) (key : String) : List (String × Json) :=
  ((members.lookup key).bind Json.members?).getD []

def membersInside (members : List (String × Json)) (scope : Scope) : List SchemaNode :=
  (table members "properties").map (fun entry => SchemaNode.mk entry.2 scope) ++
    ((table members "patternProperties").map (fun entry => SchemaNode.mk entry.2 scope) ++
      objectInside (members.lookup "additionalProperties") scope)

def keywordInside (members : List (String × Json)) (scope : Scope) (keyword : Keyword)
    (value : Json) : List SchemaNode :=
  match keyword with
  | .items => itemsInside members scope value
  | .properties | .patternProperties | .additionalProperties => membersInside members scope
  | .dependencies =>
      (value.members?.getD []).flatMap fun entry => objectInside (some entry.2) scope
  | .allOf | .anyOf | .oneOf => (value.elements?.getD []).map (SchemaNode.mk · scope)
  | .not => objectInside (some value) scope
  | _ => []

def nodesInside (members : List (String × Json)) (scope : Scope) : List SchemaNode :=
  (keywordsOf members).flatMap fun keyword =>
    ((members.lookup keyword.name).map (keywordInside members scope keyword)).getD []

def KeywordReads (members : List (String × Json)) (keyword : Keyword) (value : Json) : Prop :=
  match keyword with
  | .pattern => ∀ source, value = .string source → (Regex.ofString? source).isSome = true
  | .properties | .patternProperties | .additionalProperties =>
      ∀ entry ∈ table members "patternProperties", (Regex.ofString? entry.1).isSome = true
  | _ => True

theorem keywordReads_of_about {members : List (String × Json)} {keyword : Keyword}
    (about : keyword.isAboutMembers = true) (value : Json) :
    KeywordReads members keyword value ↔
      ∀ entry ∈ table members "patternProperties", (Regex.ofString? entry.1).isSome = true := by
  cases keyword <;> first | rfl | cases about

def Reads (members : List (String × Json)) : Prop :=
  ∀ keyword ∈ keywordsOf members, ∀ value, members.lookup keyword.name = some value →
    KeywordReads members keyword value

/-! ### Runs that compile nodes one after the other -/

variable {compile : Json → Scope → Compiling Rule}

inductive Walks (compile : Json → Scope → Compiling Rule) :
    List SchemaNode → Array Slot → Array Slot → Prop where
  | nil {slots : Array Slot} : Walks compile [] slots slots
  | cons {node : SchemaNode} {rest : List SchemaNode} {earlier middle later : Array Slot}
      {rule : Rule} (ran : compile node.schema node.scope earlier = .ok (rule, middle))
      (more : Walks compile rest middle later) : Walks compile (node :: rest) earlier later

/-- Where a walk over nodes comes to one that cannot be compiled. -/
inductive Fails (compile : Json → Scope → Compiling Rule) :
    List SchemaNode → Array Slot → CompileStop → Prop where
  | at {before after : List SchemaNode} {node : SchemaNode} {earlier middle : Array Slot}
      {stop : CompileStop} (walks : Walks compile before earlier middle)
      (failed : compile node.schema node.scope middle = .error stop) :
      Fails compile (before ++ node :: after) earlier stop

theorem Walks.append {nodes more : List SchemaNode} {earlier middle later : Array Slot}
    (first : Walks compile nodes earlier middle) (second : Walks compile more middle later) :
    Walks compile (nodes ++ more) earlier later := by
  induction first with
  | nil => exact second
  | cons ran _ ih => exact .cons ran (ih second)

theorem Fails.append_left {nodes more : List SchemaNode} {earlier : Array Slot}
    {stop : CompileStop} (fails : Fails compile nodes earlier stop) :
    Fails compile (nodes ++ more) earlier stop := by
  obtain ⟨walks, failed⟩ := fails
  rw [List.append_assoc, List.cons_append]
  exact .at walks failed

theorem Fails.append_right {nodes more : List SchemaNode} {earlier middle : Array Slot}
    {stop : CompileStop} (walks : Walks compile nodes earlier middle)
    (fails : Fails compile more middle stop) : Fails compile (nodes ++ more) earlier stop := by
  obtain ⟨walksMore, failed⟩ := fails
  rw [← List.append_assoc]
  exact .at (walks.append walksMore) failed

/-- A run compiles these nodes, and the patterns that it reads can be read exactly if `readable`. -/
structure Traverses {Answer : Type} (compile : Json → Scope → Compiling Rule)
    (nodes : List SchemaNode) (readable : Prop) (run : Compiling Answer) : Prop where
  ends : ∀ slots answer later, run slots = .ok (answer, later) →
    readable ∧ Walks compile nodes slots later
  stops : ∀ slots stop, run slots = .error stop →
    (¬readable ∧ ∃ keyword source, stop = .setup (.invalidPattern keyword source)) ∨
      Fails compile nodes slots stop

namespace Traverses

variable {Answer More : Type} {nodes more : List SchemaNode} {readable readableMore : Prop}

private theorem pure (answer : Answer) : Traverses compile [] True (Pure.pure answer) := by
  constructor
  · intro slots other later ran
    cases ran
    exact ⟨trivial, .nil⟩
  · intro slots stop ran
    cases ran

private theorem throw (keyword : Keyword) (source : String) :
    Traverses compile [] False
      (MonadExcept.throw (.setup (.invalidPattern keyword source)) : Compiling Answer) := by
  constructor
  · intro slots other later ran
    cases ran
  · intro slots stop ran
    cases ran
    exact .inl ⟨id, keyword, source, rfl⟩

private theorem node (node : SchemaNode) :
    Traverses compile [node] True (compile node.schema node.scope) := by
  constructor
  · intro slots rule later ran
    exact ⟨trivial, .cons ran .nil⟩
  · intro slots stop ran
    exact .inr (.at .nil ran)

private theorem of_iff {run : Compiling Answer} {other : Prop}
    (traverses : Traverses compile nodes readable run) (same : readable ↔ other) :
    Traverses compile nodes other run := by
  have equal : readable = other := propext same
  exact equal ▸ traverses

private theorem bind {run : Compiling Answer} {next : Answer → Compiling More}
    (first : Traverses compile nodes readable run)
    (second : ∀ answer, Traverses compile more readableMore (next answer)) :
    Traverses compile (nodes ++ more) (readable ∧ readableMore) (run >>= next) := by
  constructor
  · intro slots answer later ran
    obtain ⟨own, middle, ranFirst, ranSecond⟩ := Compiling.ok_of_bind ran
    obtain ⟨reads, walks⟩ := first.ends slots own middle ranFirst
    obtain ⟨readsMore, walksMore⟩ := (second own).ends middle answer later ranSecond
    exact ⟨⟨reads, readsMore⟩, walks.append walksMore⟩
  · intro slots stop ran
    cases ranFirst : run slots with
    | error own =>
        rw [Compiling.bind_error ranFirst] at ran
        obtain rfl := Except.error.inj ran
        rcases first.stops slots own ranFirst with ⟨unreadable, isPattern⟩ | fails
        · exact .inl ⟨fun both => unreadable both.1, isPattern⟩
        · exact .inr fails.append_left
    | ok result =>
        obtain ⟨own, middle⟩ := result
        rw [Compiling.bind_ok ranFirst] at ran
        obtain ⟨_, walks⟩ := first.ends slots own middle ranFirst
        rcases (second own).stops middle stop ran with ⟨unreadable, isPattern⟩ | fails
        · exact .inl ⟨fun both => unreadable both.2, isPattern⟩
        · exact .inr (.append_right walks fails)

private theorem seq {run : Compiling Answer} {next : Answer → Compiling More}
    (first : Traverses compile nodes True run)
    (second : ∀ answer, Traverses compile more readable (next answer)) :
    Traverses compile (nodes ++ more) readable (run >>= next) :=
  (first.bind second).of_iff (by simp)

private theorem map {run : Compiling Answer} {wrap : Answer → More}
    (first : Traverses compile nodes readable run) :
    Traverses compile nodes readable (run >>= fun answer => Pure.pure (wrap answer)) := by
  have both := first.bind fun answer => pure (wrap answer)
  rw [List.append_nil] at both
  exact both.of_iff (by simp)

private theorem mapM {Item : Type} {run : Item → Compiling Answer} {nodesOf : Item → List SchemaNode}
    {reads : Item → Prop} {items : List Item}
    (each : ∀ item, Traverses compile (nodesOf item) (reads item) (run item)) :
    Traverses compile (items.flatMap nodesOf) (∀ item ∈ items, reads item) (items.mapM run) := by
  induction items with
  | nil => exact (pure []).of_iff (by simp)
  | cons item rest ih =>
      rw [List.mapM_cons, List.flatMap_cons]
      exact ((each item).bind fun answer => ih.map).of_iff List.forall_mem_cons.symm

private theorem mapM_nodes {Item : Type} {run : Item → Compiling Answer} {nodeOf : Item → SchemaNode}
    {items : List Item} (each : ∀ item, Traverses compile [nodeOf item] True (run item)) :
    Traverses compile (items.map nodeOf) True (items.mapM run) := by
  rw [List.map_eq_flatMap]
  exact (mapM each).of_iff (by simp)

end Traverses

/-! ### The runs of the compiler -/

section Node

variable {compiler : Compiler} {members : List (String × Json)} {scope : Scope}

private theorem traverses_readPattern (keyword : Keyword) (source : String) :
    Traverses compile [] ((Regex.ofString? source).isSome = true) (readPattern keyword source) := by
  unfold readPattern
  cases Regex.ofString? source with
  | none => exact (Traverses.throw keyword source).of_iff (by simp)
  | some regex => exact (Traverses.pure regex).of_iff (by simp)

private theorem traverses_compileDeclared (declared : List (String × Json)) :
    Traverses compile (declared.map fun entry => SchemaNode.mk entry.2 scope) True
      (compileDeclared compile declared scope) :=
  Traverses.mapM_nodes fun entry => (Traverses.node ⟨entry.2, scope⟩).map

private theorem traverses_compileBranches (value : Json) :
    Traverses compile ((value.elements?.getD []).map (SchemaNode.mk · scope)) True
      (compileBranches compile scope value) := by
  cases value with
  | array branches => exact (Traverses.mapM_nodes fun branch => .node ⟨branch, scope⟩).map
  | _ => exact .pure none

private theorem traverses_compileItems (items : Json) :
    Traverses compile (itemsInside members scope items) True
      (compileItems compile members scope items) := by
  cases items with
  | object inner => exact (Traverses.node ⟨.object inner, scope⟩).map
  | array tuple =>
      have declared : Traverses compile (tuple.map (SchemaNode.mk · scope)) True
          (tuple.mapM fun item => compile item scope) :=
        .mapM_nodes fun item => .node ⟨item, scope⟩
      refine declared.seq fun rules => ?_
      cases members.lookup "additionalItems" with
      | none => exact .pure _
      | some additional =>
          cases additional with
          | object inner =>
              simp only [pure_bind]
              exact (Traverses.node ⟨.object inner, scope⟩).map
          | _ => exact .pure _
  | _ => exact .pure none

private theorem traverses_compilePatterns (patterns : List (String × Json)) :
    Traverses compile (patterns.map fun entry => SchemaNode.mk entry.2 scope)
      (∀ entry ∈ patterns, (Regex.ofString? entry.1).isSome = true)
      (compilePatterns compile patterns scope) := by
  rw [List.map_eq_flatMap]
  refine Traverses.mapM fun entry => Traverses.of_iff ?_ (iff_of_eq (and_true _))
  refine (traverses_readPattern .patternProperties entry.1).bind fun regex => ?_
  exact (Traverses.node ⟨entry.2, scope⟩).map

private theorem traverses_compileAdditional (additional : Option Json) :
    Traverses compile (objectInside additional scope) True
      (compileAdditional compile additional scope) := by
  cases additional with
  | none => exact .pure Additional.allowed
  | some schema =>
      cases schema with
      | bool allowed => cases allowed <;> exact .pure _
      | object inner => exact (Traverses.node ⟨.object inner, scope⟩).map
      | _ => exact .pure Additional.allowed

private theorem objectInside_of_not_limits {additional : Option Json}
    (noLimit : limitsAdditional additional = false) : objectInside additional scope = [] := by
  unfold objectInside
  split
  next => cases noLimit
  next => rfl

private theorem traverses_compileMembers :
    Traverses compile (membersInside members scope)
      (∀ entry ∈ table members "patternProperties", (Regex.ofString? entry.1).isSome = true)
      (compileMembers compile members scope) := by
  have declared : Traverses compile _ True
      (compileDeclared compile (table members "properties") scope) := traverses_compileDeclared _
  unfold compileMembers membersInside
  dsimp only
  change Traverses compile _ _ (if (table members "patternProperties").isEmpty && _ then _ else _)
  split
  next unlimited =>
    rw [Bool.and_eq_true, List.isEmpty_iff, Bool.not_eq_true'] at unlimited
    obtain ⟨noPatterns, noLimit⟩ := unlimited
    rw [noPatterns, objectInside_of_not_limits noLimit, List.map_nil, List.append_nil,
      List.append_nil]
    split
    next noneDeclared =>
      rw [List.isEmpty_iff] at noneDeclared
      change table members "properties" = [] at noneDeclared
      rw [noneDeclared]
      exact (Traverses.pure none).of_iff (by simp)
    next => exact declared.map.of_iff (by simp)
  next limited =>
    refine declared.seq fun rules => Traverses.of_iff ?_ (iff_of_eq (and_true _))
    refine (traverses_compilePatterns _).bind fun patternRules => ?_
    exact (traverses_compileAdditional _).map

private theorem traverses_compileDependencies (entries : List (String × Json)) :
    Traverses compile (entries.flatMap fun entry => objectInside (some entry.2) scope) True
      (compileDependencies compile scope entries) := by
  induction entries with
  | nil => exact .pure []
  | cons entry rest ih =>
      obtain ⟨name, dependency⟩ := entry
      unfold compileDependencies
      rw [List.flatMap_cons]
      cases dependency with
      | object inner =>
          simp only [pure_bind]
          exact (Traverses.node ⟨.object inner, scope⟩).seq fun rule => ih.map
      | array names =>
          simp only [pure_bind]
          exact ih.map
      | _ =>
          simp only [pure_bind]
          exact ih.map

theorem traverses_compileKeyword (keyword : Keyword) (value : Json) :
    Traverses compile (keywordInside members scope keyword value)
      (KeywordReads members keyword value)
      (compiler.compileKeyword compile members scope keyword value) := by
  cases keyword with
  | pattern =>
      cases value with
      | string source =>
          refine Traverses.of_iff (traverses_readPattern .pattern source).map ?_
          simp [KeywordReads]
      | _ => exact (Traverses.pure none).of_iff (by simp [KeywordReads])
  | format =>
      unfold compileKeyword
      dsimp only
      split
      next name =>
        split
        next => exact .pure none
        next => exact .pure _
      next => exact .pure none
  | additionalItems =>
      unfold compileKeyword
      dsimp only
      split <;> exact .pure _
  | uniqueItems =>
      unfold compileKeyword
      dsimp only
      split <;> exact .pure _
  | items => exact traverses_compileItems value
  | properties | patternProperties | additionalProperties => exact traverses_compileMembers
  | dependencies =>
      cases value with
      | object entries => exact (traverses_compileDependencies entries).map
      | _ => exact .pure none
  | allOf => exact (traverses_compileBranches value).map
  | anyOf => exact (traverses_compileBranches value).map
  | oneOf => exact (traverses_compileBranches value).map
  | not =>
      cases value with
      | object inner => exact (Traverses.node ⟨.object inner, scope⟩).map
      | _ => exact .pure none
  | _ => exact .pure _

theorem traverses_compileKeywords (keywords : List Keyword) :
    Traverses compile
      (keywords.flatMap fun keyword =>
        ((members.lookup keyword.name).map (keywordInside members scope keyword)).getD [])
      (∀ keyword ∈ keywords, ∀ value, members.lookup keyword.name = some value →
        KeywordReads members keyword value)
      (compiler.compileKeywords compile members scope keywords) := by
  induction keywords with
  | nil => exact (Traverses.pure []).of_iff (by simp)
  | cons keyword rest ih =>
      unfold compileKeywords
      rw [List.flatMap_cons]
      cases found : members.lookup keyword.name with
      | none =>
          simp only [pure_bind]
          exact ih.map.of_iff (by simp [found])
      | some value =>
          dsimp only
          refine Traverses.of_iff
            ((traverses_compileKeyword keyword value).bind fun check => ih.map) ?_
          rw [List.forall_mem_cons, found]
          simp

end Node

/-- A node that is no reference is compiled by compiling the nodes inside it. -/
theorem traverses_compileNode {compiler : Compiler} {members : List (String × Json)} {scope : Scope}
    (noReference : members.lookup "$ref" = none) :
    Traverses compile (nodesInside members scope) (Reads members)
      (compiler.compileNode compile (.object members) scope) := by
  unfold compileNode
  dsimp only
  rw [noReference]
  exact (traverses_compileKeywords _).map

/-! ### What a run at one node can do -/

def keys (slots : Array Slot) : List (Scope × String) :=
  slots.toList.map fun slot => (slot.scope, slot.reference)

@[simp] theorem keys_push (slots : Array Slot) (slot : Slot) :
    keys (slots.push slot) = keys slots ++ [(slot.scope, slot.reference)] := by
  simp [keys]

@[simp] theorem keys_fill (slots : Array Slot) (index : Nat) (body : Rule) :
    keys (fill slots index body) = keys slots := by
  apply List.ext_getElem?
  intro place
  simp only [keys, List.getElem?_map, Array.getElem?_toList, getElem?_fill]
  split
  next => cases slots[place]? <;> rfl
  next => rfl

private theorem mem_keys_iff {slots : Array Slot} {scope : Scope} {name : String} :
    (scope, name) ∈ keys slots ↔
      ∃ slot ∈ slots, slot.scope = scope ∧ slot.reference = name := by
  simp [keys]

private theorem findIdx?_eq_none_iff_not_mem_keys {slots : Array Slot} {scope : Scope} {name : String} :
    slots.findIdx? (fun slot => slot.scope = scope ∧ slot.reference = name) = none ↔
      (scope, name) ∉ keys slots := by
  rw [mem_keys_iff, Array.findIdx?_eq_none_iff]
  simp

inductive Step (compiler : Compiler) (compile : Json → Scope → Compiling Rule) :
    SchemaNode → Array Slot → Array Slot → Prop where
  | free {node : SchemaNode} {slots : Array Slot} (noObject : node.schema.isObject = false) :
      Step compiler compile node slots slots
  | inside {members : List (String × Json)} {scope : Scope} {earlier later : Array Slot}
      (noReference : members.lookup "$ref" = none) (reads : Reads members)
      (walks : Walks compile (nodesInside members scope) earlier later) :
      Step compiler compile ⟨.object members, scope⟩ earlier later
  | known {members : List (String × Json)} {scope : Scope} {name : String} {slots : Array Slot}
      (named : members.lookup "$ref" = some (.string name)) (old : (scope, name) ∈ keys slots) :
      Step compiler compile ⟨.object members, scope⟩ slots slots
  | nothing {members : List (String × Json)} {scope : Scope} {name : String} {slots : Array Slot}
      (named : members.lookup "$ref" = some (.string name)) (new : (scope, name) ∉ keys slots)
      (resolved : compiler.documents.resolve (.object members) scope = .ok none) :
      Step compiler compile ⟨.object members, scope⟩ slots
        (fill (slots.push ⟨scope, name, none⟩) slots.size .free)
  | target {members : List (String × Json)} {scope targetScope : Scope} {name : String}
      {target : Json} {slots inside : Array Slot} {body : Rule}
      (named : members.lookup "$ref" = some (.string name)) (new : (scope, name) ∉ keys slots)
      (resolved : compiler.documents.resolve (.object members) scope =
        .ok (some (target, targetScope)))
      (ran : compile target targetScope (slots.push ⟨scope, name, none⟩) = .ok (body, inside)) :
      Step compiler compile ⟨.object members, scope⟩ slots (fill inside slots.size body)

inductive Stops (compiler : Compiler) (compile : Json → Scope → Compiling Rule) :
    SchemaNode → Array Slot → CompileStop → Prop where
  | inside {members : List (String × Json)} {scope : Scope} {slots : Array Slot}
      {stop : CompileStop} (noReference : members.lookup "$ref" = none)
      (fails : Fails compile (nodesInside members scope) slots stop) :
      Stops compiler compile ⟨.object members, scope⟩ slots stop
  | pattern {members : List (String × Json)} {scope : Scope} {slots : Array Slot}
      {keyword : Keyword} {source : String} (noReference : members.lookup "$ref" = none)
      (unreadable : ¬Reads members) :
      Stops compiler compile ⟨.object members, scope⟩ slots
        (.setup (.invalidPattern keyword source))
  | noText {members : List (String × Json)} {scope : Scope} {slots : Array Slot} {reference : Json}
      (named : members.lookup "$ref" = some reference) (noText : reference.string? = none) :
      Stops compiler compile ⟨.object members, scope⟩ slots
        (.setup (.resolve (.malformed reference.render)))
  | unresolved {members : List (String × Json)} {scope : Scope} {name : String}
      {slots : Array Slot} {error : ResolveError}
      (named : members.lookup "$ref" = some (.string name)) (new : (scope, name) ∉ keys slots)
      (resolved : compiler.documents.resolve (.object members) scope = .error error) :
      Stops compiler compile ⟨.object members, scope⟩ slots (.setup (.resolve error))
  | target {members : List (String × Json)} {scope targetScope : Scope} {name : String}
      {target : Json} {slots : Array Slot} {stop : CompileStop}
      (named : members.lookup "$ref" = some (.string name)) (new : (scope, name) ∉ keys slots)
      (resolved : compiler.documents.resolve (.object members) scope =
        .ok (some (target, targetScope)))
      (failed : compile target targetScope (slots.push ⟨scope, name, none⟩) = .error stop) :
      Stops compiler compile ⟨.object members, scope⟩ slots stop

section Node

variable {compiler : Compiler} {members : List (String × Json)} {scope : Scope}
  {slots later : Array Slot} {rule : Rule} {stop : CompileStop}

theorem compileNode_reference {reference : Json}
    (named : members.lookup "$ref" = some reference) :
    compiler.compileNode compile (.object members) scope =
      compiler.compileReference compile (.object members) reference scope := by
  unfold compileNode
  dsimp only
  rw [named]

private theorem step_and_stops (compile : Json → Scope → Compiling Rule) (node : SchemaNode)
    (slots : Array Slot) :
    (∀ rule later, compiler.compileNode compile node.schema node.scope slots = .ok (rule, later) →
      Step compiler compile node slots later) ∧
    ∀ stop, compiler.compileNode compile node.schema node.scope slots = .error stop →
      Stops compiler compile node slots stop := by
  obtain ⟨schema, scope⟩ := node
  cases schema with
  | object members =>
      cases named : members.lookup "$ref" with
      | none =>
          have traverses := @traverses_compileNode compile compiler members scope named
          constructor
          · intro rule later ran
            obtain ⟨reads, walks⟩ := traverses.ends slots rule later ran
            exact .inside named reads walks
          · intro stop ran
            rcases traverses.stops slots stop ran with ⟨unreadable, keyword, source, rfl⟩ | fails
            · exact .pattern named unreadable
            · exact .inside named fails
      | some reference =>
          dsimp only
          rw [compileNode_reference named]
          cases reference with
          | string name =>
              cases found : slots.findIdx? fun slot => slot.scope = scope ∧ slot.reference = name with
              | some index =>
                  rw [compileReference_found found]
                  refine ⟨?_, nofun⟩
                  rintro _ _ ⟨⟩
                  refine .known named ?_
                  by_contra new
                  rw [findIdx?_eq_none_iff_not_mem_keys.mpr new] at found
                  cases found
              | none =>
                  have new := findIdx?_eq_none_iff_not_mem_keys.mp found
                  rw [compileReference_new found]
                  cases resolved : compiler.documents.resolve (.object members) scope with
                  | error error =>
                      refine ⟨nofun, ?_⟩
                      rintro _ ⟨⟩
                      exact .unresolved named new resolved
                  | ok target =>
                      cases target with
                      | none =>
                          refine ⟨?_, nofun⟩
                          rintro _ _ ⟨⟩
                          exact .nothing named new resolved
                      | some target =>
                          obtain ⟨target, targetScope⟩ := target
                          dsimp only
                          split
                          next failed =>
                            refine ⟨nofun, ?_⟩
                            rintro _ ⟨⟩
                            exact .target named new resolved failed
                          next body inside ranInside =>
                            refine ⟨?_, nofun⟩
                            rintro _ _ ⟨⟩
                            exact .target named new resolved ranInside
          | _ =>
              refine ⟨nofun, ?_⟩
              rintro _ ⟨⟩
              exact .noText named rfl
  | _ =>
      refine ⟨?_, nofun⟩
      rintro _ _ ⟨⟩
      exact .free rfl

theorem step_of_ok {node : SchemaNode}
    (ran : compiler.compileNode compile node.schema node.scope slots = .ok (rule, later)) :
    Step compiler compile node slots later :=
  (step_and_stops compile node slots).1 _ _ ran

theorem stops_of_error {node : SchemaNode}
    (ran : compiler.compileNode compile node.schema node.scope slots = .error stop) :
    Stops compiler compile node slots stop :=
  (step_and_stops compile node slots).2 _ ran

end Node

end Compiler

end JsonSchema
