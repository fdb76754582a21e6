import JsonSchema.Proofs.Building.Keeping

set_option autoImplicit false

/-! Defaults of properties. Wherever a node completes an object by its properties, each property with a
default gets a member, and the member stays unless some node drops it or what it is in. For schemas
without references, whose building always ends, this is `Validator.build_populates`. -/

namespace JsonSchema

namespace Builder

variable {builder : Builder} {visit node : Visit} {budget : Nat}

/-! ### Runs that end -/

section Ends

variable {build : Json → Scope → Site → Option Json → Except Exhausted Built}

private theorem runTasks_ends {tasks : List Task}
    (ends : ∀ task ∈ tasks, ∀ current, ∃ built,
      build task.schema node.scope (task.site node.site) (task.part current) = .ok built)
    (whole : Option Json) : ∃ done, runTasks build node tasks whole = .ok done := by
  induction tasks generalizing whole with
  | nil => exact ⟨_, runTasks_nil⟩
  | cons task rest ih =>
      obtain ⟨endsFirst, endsRest⟩ := List.forall_mem_cons.mp ends
      obtain ⟨built, ranTask⟩ := endsFirst whole
      obtain ⟨done, ranRest⟩ := ih endsRest (task.putBack whole built.value)
      rw [runTasks, bind_of_ends ranTask, bind_of_ends ranRest]
      exact ⟨_, rfl⟩

private theorem runTasks_append_cases {before rest : List Task} {whole final : Option Json}
    {undeclared : List String}
    (ran : runTasks build node (before ++ rest) whole = .ok (final, undeclared)) :
    ∃ current marks more, runTasks build node before whole = .ok (current, marks) ∧
      runTasks build node rest current = .ok (final, more) := by
  induction before generalizing whole undeclared with
  | nil => exact ⟨whole, [], undeclared, runTasks_nil, ran⟩
  | cons task others ih =>
      obtain ⟨built, _, ranTask, ranOthers, rfl⟩ := runTasks_cons_cases ran
      obtain ⟨current, marks, more, ranBefore, ranRest⟩ := ih ranOthers
      refine ⟨current, built.undeclared ++ marks, more, ?_, ranRest⟩
      rw [runTasks, bind_of_ends ranTask, bind_of_ends ranBefore]
      rfl

private theorem runTasks_rest {before rest : List Task} {whole current final : Option Json}
    {undeclared marks : List String}
    (ran : runTasks build node (before ++ rest) whole = .ok (final, undeclared))
    (ranBefore : runTasks build node before whole = .ok (current, marks)) :
    ∃ more, runTasks build node rest current = .ok (final, more) := by
  obtain ⟨same, _, more, ranSame, ranRest⟩ := runTasks_append_cases ran
  obtain ⟨rfl, _⟩ := Prod.mk.inj (Except.ok.inj (ranBefore.symm.trans ranSame))
  exact ⟨more, ranRest⟩

end Ends

theorem Enters.schema_eq (enters : builder.Enters visit node)
    (noReference : visit.schema.field? "$ref" = none) : node.schema = visit.schema := by
  cases enters with
  | plain named _ resolved => exact Documents.resolve_plain named resolved
  | reference named =>
      rw [noReference] at named
      cases named

/-- Without references each call goes to a smaller schema. -/
theorem build_ends
    (noReference : ∀ schema scope, builder.documents.ComesTo schema scope →
      schema.field? "$ref" = none)
    (comes : builder.documents.ComesTo visit.schema visit.scope)
    (enough : visit.schema.weight ≤ budget) :
    ∃ built, builder.build budget visit.schema visit.scope visit.site visit.value = .ok built := by
  induction budget generalizing visit with
  | zero =>
      have positive := visit.schema.weight_pos
      omega
  | succ budget ih =>
      by_cases works : ∃ node, builder.Enters visit node
      · obtain ⟨node, enters⟩ := works
        have same := enters.schema_eq (noReference _ _ comes)
        obtain ⟨done, ranTasks⟩ : ∃ done,
            runTasks (builder.build budget) node node.tasks node.given = .ok done := by
          apply runTasks_ends
          intro task isTask current
          have smaller := (Visit.isTask_of_mem isTask).holdsInside.weight_lt
          rw [same] at smaller
          let inner : Visit := task.visit node current
          have comesInner : builder.documents.ComesTo inner.schema inner.scope :=
            enters.task_comesTo comes isTask
          have enoughInner : inner.schema.weight ≤ budget := by
            change task.schema.weight ≤ budget
            omega
          exact ih comesInner enoughInner
        rw [build_of_enters enters, bind_of_ends ranTasks]
        exact ⟨_, rfl⟩
      · have none : ∀ node, ¬builder.Enters visit node := fun node enters => works ⟨node, enters⟩
        rw [build, buildNode_of_not_enters none]
        exact ⟨_, rfl⟩

/-! ### What is there stays there -/

def Task.Fits (task : Task) (current : Option Json) : Prop :=
  ∀ step, task.place = some step → ∃ value, current = some value ∧ value.takes step = true

theorem Task.putBack_at? {task : Task} {current : Option Json} {part : Json} {location : List Step}
    (fits : task.Fits current) (there : (part.at? location).isSome = true) :
    ∃ whole, task.putBack current (some part) = some whole ∧
      (whole.at? (task.place.toList ++ location)).isSome = true := by
  obtain ⟨place, schema⟩ := task
  cases place with
  | none => exact ⟨part, rfl, there⟩
  | some step =>
      obtain ⟨value, rfl, takes⟩ := fits step rfl
      refine ⟨value.put step part, ?_, ?_⟩
      · unfold putBack
        dsimp only
        cases (Task.mk (some step) schema).part (some value) <;> rfl
      · change ((value.put step part).at? (step :: location)).isSome = true
        rw [Json.at?, Json.part?_put part takes]
        exact there

/-- A run leaves something at a location, unless the location is lost. -/
def Fills (builder : Builder) (budget : Nat) (visit : Visit) (location : List Step) : Prop :=
  ∀ built, builder.build budget visit.schema visit.scope visit.site visit.value = .ok built →
    (∃ final, built.value = some final ∧ (final.at? location).isSome = true) ∨
      Losses.Reach (builder.Drops budget visit) location

section Fills

variable (distinct : builder.documents.keysDistinct = true) (proper : builder.Proper visit)
  (enters : builder.Enters visit node)

include distinct proper enters

private theorem fills_of_tasks {before rest : List Task} {value : Json} {marks : List String}
    (split : node.tasks = before ++ rest)
    (ranBefore : runTasks (builder.build budget) node before node.given = .ok (some value, marks))
    {location : List Step} (there : (value.at? location).isSome = true) :
    builder.Fills (budget + 1) visit location := by
  intro built ran
  rw [build_of_enters enters] at ran
  obtain ⟨⟨final, undeclared⟩, ranTasks, result⟩ := ends_of_bind ran
  obtain rfl := Except.ok.inj result
  have ranAll := ranTasks
  rw [split] at ranAll
  obtain ⟨more, ranRest⟩ := runTasks_rest ranAll ranBefore
  have all : before ++ rest <+: node.tasks := by rw [split]
  obtain ⟨later, rfl, keptByTasks⟩ :=
    runTasks_keeps distinct proper enters (fun _ => build_keeps distinct) all ranBefore ranRest
  obtain ⟨last, isLast, keptAtEnd⟩ := finish_keeps distinct proper enters ranTasks
  obtain ⟨part, found⟩ := Option.isSome_iff_exists.mp there
  rcases (keptByTasks.trans keptAtEnd).at? found with ⟨stays, atLast⟩ | lost
  · left
    exact ⟨last, isLast, Option.isSome_iff_exists.mpr ⟨stays, atLast⟩⟩
  · exact .inr lost

private theorem task_fits {before after : List Task} {task : Task} {current : Option Json}
    {marks : List String} (split : node.tasks = before ++ task :: after)
    (ranBefore : runTasks (builder.build budget) node before node.given = .ok (current, marks)) :
    task.Fits current := by
  intro step place
  have isTask := Visit.mem_of_split split
  obtain ⟨value, given, takes⟩ := Visit.given_takes isTask place
  have first : [] ++ before <+: node.tasks := by
    rw [split]
    exact List.prefix_append _ _
  have start : runTasks (builder.build budget) node [] node.given = .ok (some value, []) := by
    rw [given, runTasks_nil]
  rw [given] at ranBefore
  obtain ⟨later, isLater, kept⟩ :=
    runTasks_keeps distinct proper enters (fun _ => build_keeps distinct) first start ranBefore
  exact ⟨later, isLater, (kept.takes_eq step).trans takes⟩

private theorem fills_of_task {before after : List Task} {task : Task} {current : Option Json}
    {marks : List String} (split : node.tasks = before ++ task :: after)
    (ranBefore : runTasks (builder.build budget) node before node.given = .ok (current, marks))
    {location : List Step} (fills : builder.Fills budget (task.visit node current) location) :
    builder.Fills (budget + 1) visit (task.place.toList ++ location) := by
  intro built ran
  have ranAll := ran
  rw [build_of_enters enters] at ranAll
  obtain ⟨⟨final, undeclared⟩, ranTasks, _⟩ := ends_of_bind ranAll
  rw [split] at ranTasks
  obtain ⟨_, ranRest⟩ := runTasks_rest ranTasks ranBefore
  obtain ⟨builtPart, _, ranTask, _, _⟩ := runTasks_cons_cases ranRest
  have fits := task_fits distinct proper enters split ranBefore
  rcases fills builtPart ranTask with ⟨part, isPart, there⟩ | lost
  · obtain ⟨whole, isWhole, thereInWhole⟩ := Task.putBack_at? fits there
    have ranWith := runTasks_snoc ranBefore ranTask
    rw [isPart, isWhole] at ranWith
    have splitWith : node.tasks = (before ++ [task]) ++ after := by
      rw [split, List.append_assoc, List.singleton_append]
    exact fills_of_tasks distinct proper enters splitWith ranWith thereInWhole built ran
  · right
    exact lost.inside fun _ _ drops => .of_task enters split ranBefore drops

omit enters in
private theorem fills_of_default {default : Json} (found : visit.schema.field? "default" = some default)
    (noReference : visit.schema.field? "$ref" = none) : builder.Fills budget visit [] := by
  intro built ran
  left
  have named : (visit.schema.field? "$ref").bind Json.string? = none := by
    rw [noReference]
    rfl
  have enters : builder.Enters visit visit :=
    .plain named (isObject_of_field found) (Documents.resolve_eq_self noReference visit.scope)
  cases budget with
  | zero => cases ran
  | succ budget =>
      rw [build_of_enters enters] at ran
      obtain ⟨⟨final, undeclared⟩, ranTasks, result⟩ := ends_of_bind ran
      obtain rfl := Except.ok.inj result
      have given : ∃ value, visit.given = some value := by
        unfold Visit.given
        cases visit.value with
        | some value => exact ⟨value, rfl⟩
        | none => exact ⟨default, found⟩
      obtain ⟨value, given⟩ := given
      obtain ⟨later, isLater, _⟩ :=
        node_keeps distinct proper enters (fun _ => build_keeps distinct) given ranTasks
      exact ⟨later, isLater, rfl⟩

/-- A property with a default gets a member, which stays unless it is dropped. -/
theorem fills_property {properties : List (String × Json)} {key : String} {property default : Json}
    (way : node.way = .members properties) (isProperty : (key, property) ∈ properties)
    (found : property.field? "default" = some default)
    (noReference : property.field? "$ref" = none) :
    builder.Fills (budget + 1) visit [.member key] := by
  intro built ran
  obtain ⟨front, back, splitProperties⟩ := List.append_of_mem isProperty
  have split : node.tasks = front.map .member ++ .member (key, property) :: back.map .member := by
    unfold Visit.tasks
    rw [way, splitProperties]
    simp
  have ranAll := ran
  rw [build_of_enters enters] at ranAll
  obtain ⟨⟨final, undeclared⟩, ranTasks, _⟩ := ends_of_bind ranAll
  rw [split] at ranTasks
  obtain ⟨current, marks, more, ranBefore, ranRest⟩ := runTasks_append_cases ranTasks
  have properTask := task_proper distinct proper enters split ranBefore
  have fills : builder.Fills budget ((Task.member (key, property)).visit node current) [] :=
    fills_of_default distinct properTask found noReference
  exact fills_of_task distinct proper enters split ranBefore fills built ran

omit enters in
/-- Wherever a run applies a node, the properties of the node that have a default get their members. -/
theorem Applies.fills {inner : Visit} {location : List Step}
    (applies : builder.Applies budget visit location inner)
    (noReference : ∀ schema scope, builder.documents.ComesTo schema scope →
      schema.field? "$ref" = none)
    {properties : List (String × Json)} {key : String} {property default : Json}
    (way : inner.way = .members properties) (isProperty : (key, property) ∈ properties)
    (found : property.field? "default" = some default) :
    builder.Fills budget visit (location ++ [.member key]) := by
  have isMember : Task.member (key, property) ∈ inner.tasks := by
    unfold Visit.tasks
    rw [way]
    exact List.mem_map.mpr ⟨_, isProperty, rfl⟩
  induction applies with
  | here enters =>
      have comes := enters.task_comesTo proper.comes isMember
      exact fills_property distinct proper enters way isProperty found (noReference _ _ comes)
  | @inside _ _ node _ location task before _ current _ enters split ran _ ih =>
      have fills := ih (task_proper distinct proper enters split ran) way isMember
      rw [List.append_assoc]
      exact fills_of_task distinct proper enters split ran fills

end Fills

end Builder

theorem Builder.weight_le_budget (builder : Builder) (value : Option Json) :
    builder.documents.main.weight ≤ builder.budget value := by
  have inDocuments : builder.documents.main.weight ≤ builder.documents.weight + 2 := by
    unfold Documents.weight
    omega
  calc builder.documents.main.weight
      ≤ builder.documents.weight + 2 := inDocuments
    _ ≤ (builder.documents.weight + 2) ^ 4 := Nat.le_self_pow (by omega) _
    _ ≤ builder.budget value := Nat.le_mul_of_pos_right _ (Nat.succ_pos _)

/-- Building populates the defaults of properties. For a schema without references building ends, and
wherever it applies a node to an object that the node completes by its properties, a member is there for
each property with a default, unless the member itself or one on the way to it is dropped. -/
theorem Validator.build_populates {validator : Validator} {members : List (String × Json)}
    {additionalAllowed : Bool} (distinct : validator.documents.keysDistinct = true)
    (ofMembers : (Json.object members).keysDistinct = true)
    (noReference : ∀ schema scope, validator.documents.ComesTo schema scope →
      schema.field? "$ref" = none) :
    let builder : Builder := ⟨validator.documents, additionalAllowed⟩
    let given : Option Json := some (.object members)
    let start : Visit := ⟨validator.documents.main, .main, .start, given⟩
    ∃ final, validator.build given additionalAllowed = .ok (some final) ∧
      ∀ location node properties key property default,
        builder.Applies (builder.budget given) start location node →
        node.way = .members properties → (key, property) ∈ properties →
        property.field? "default" = some default →
        (final.at? (location ++ [.member key])).isSome = true ∨
          Losses.Reach (builder.Drops (builder.budget given) start) (location ++ [.member key]) := by
  intro builder given start
  have proper : builder.Proper start := ⟨.main, Json.distinctIn_some ofMembers⟩
  obtain ⟨built, ran⟩ := Builder.build_ends noReference proper.comes (builder.weight_le_budget given)
  obtain ⟨final, isFinal, _⟩ := Builder.build_keeps distinct proper built (.object members) ran rfl
  refine ⟨final, ?_, ?_⟩
  · change Builder.run builder given = _
    unfold Builder.run
    rw [bind_of_ends ran, isFinal]
    rfl
  · intro location node properties key property default applies way isProperty found
    have fills := applies.fills distinct proper noReference way isProperty found
    rcases fills built ran with ⟨same, isSame, there⟩ | lost
    · left
      obtain rfl := Option.some.inj (isFinal.symm.trans isSame)
      exact there
    · exact .inr lost

def defaultBranch : Json :=
  .object [("properties", .object [("a", .object [("default", .string "x")])])]

def closingBranch (key : String) : Json :=
  .object [("properties", .object [(key, .object [])]), ("additionalProperties", .bool false)]

def closedNodes : List Json :=
  [.object [("allOf", .array [defaultBranch, closingBranch "b", closingBranch "c"])], defaultBranch,
    closingBranch "b", closingBranch "c", .object [("default", .string "x")], .object []]

def closedDocuments : Documents := ⟨closedNodes.headD .null, [], false⟩

/-- The first branch puts its default in the object, and the others have it dropped. -/
theorem Validator.build_drops_default :
    ∃ validator, Validator.compile closedDocuments.main .default = .ok validator ∧
      (∀ schema scope, validator.documents.ComesTo schema scope → schema.field? "$ref" = none) ∧
      let builder : Builder := ⟨validator.documents, true⟩
      let given : Option Json := some (.object [])
      let start : Visit := ⟨validator.documents.main, .main, .start, given⟩
      ∃ node properties property default,
        builder.Applies (builder.budget given) start [] node ∧ node.way = .members properties ∧
        ("a", property) ∈ properties ∧ property.field? "default" = some default ∧
        validator.build given true = .ok (some (.object [])) := by
  obtain ⟨validator, compiled, documents⟩ :=
    Validator.exists_of_isOk closedDocuments.main .default (by decide +kernel)
  have isClosed : validator.documents = closedDocuments := documents
  refine ⟨validator, compiled, ?_⟩
  rw [isClosed]
  constructor
  · intro schema scope comes
    have plain : ∀ node ∈ closedNodes, node.field? "$ref" = none := by decide +kernel
    apply plain
    exact (comes.mem (by decide +kernel) (by decide +kernel) (by decide +kernel)).1
  · intro builder given start
    have ran : Builder.run ⟨closedDocuments, true⟩ given = .ok (some (.object [])) := rfl
    rw [← isClosed] at ran
    have enough : 2 ≤ builder.budget given := by decide +kernel
    obtain ⟨budget, isBudget⟩ : ∃ budget, builder.budget given = budget + 1 + 1 :=
      ⟨builder.budget given - 2, by omega⟩
    let branch : Visit := ⟨defaultBranch, .main, Site.start.branch, given⟩
    have entersWhole : builder.Enters start start := .plain rfl rfl rfl
    have entersBranch : builder.Enters branch branch := .plain rfl rfl rfl
    have split : start.tasks = [] ++ .branch defaultBranch ::
        [.branch (closingBranch "b"), .branch (closingBranch "c")] := rfl
    have applies : builder.Applies (budget + 1 + 1) start [] branch :=
      .inside entersWhole split Builder.runTasks_nil (.here entersBranch)
    rw [isBudget]
    exact ⟨branch, _, _, _, applies, rfl, List.mem_cons_self, rfl, ran⟩

def serverNodes : List Json :=
  let host := .object [("default", .string "localhost")]
  let port := .object [("default", .string "80")]
  let hosted := .object [("properties", .object [("host", host)])]
  let ported := .object [("properties", .object [("port", port)])]
  let server := .object [("allOf", .array [hosted, ported])]
  let servers := .object [("default", .array [.object []]), ("items", server)]
  [.object [("properties", .object [("servers", servers)])], servers, server, hosted, ported, host,
    port]

def serverDocuments : Documents := ⟨serverNodes.headD .null, [], false⟩

theorem Validator.build_populates_servers :
    ∃ validator, Validator.compile serverDocuments.main .default = .ok validator ∧
      let builder : Builder := ⟨validator.documents, true⟩
      let given : Option Json := some (.object [])
      let start : Visit := ⟨validator.documents.main, .main, .start, given⟩
      let final : Json := .object [("servers",
        .array [.object [("host", .string "localhost"), ("port", .string "80")]])]
      validator.build given true = .ok (some final) ∧
        ∀ location node properties key property default,
          builder.Applies (builder.budget given) start location node →
          node.way = .members properties → (key, property) ∈ properties →
          property.field? "default" = some default →
          (final.at? (location ++ [.member key])).isSome = true := by
  obtain ⟨validator, compiled, documents⟩ :=
    Validator.exists_of_isOk serverDocuments.main .default (by decide +kernel)
  have isServer : validator.documents = serverDocuments := documents
  refine ⟨validator, compiled, ?_⟩
  intro builder given start final
  have ran : Builder.run ⟨serverDocuments, true⟩ given = .ok (some final) := rfl
  rw [← isServer] at ran
  have atNodes : ∀ node ∈ serverNodes, node.field? "$ref" = none ∧
      node.field? "additionalProperties" = none := by decide +kernel
  have plain : ∀ node scope, validator.documents.ComesTo node scope →
      node.field? "$ref" = none ∧ node.field? "additionalProperties" = none := by
    intro node scope comes
    rw [isServer] at comes
    apply atNodes
    exact (comes.mem (by decide +kernel) (by decide +kernel) (by decide +kernel)).1
  have distinct : validator.documents.keysDistinct = true := by
    rw [isServer]
    decide +kernel
  have noReference : ∀ node scope, validator.documents.ComesTo node scope →
      node.field? "$ref" = none := fun node scope comes => (plain node scope comes).1
  obtain ⟨same, ranSame, populated⟩ :=
    @Validator.build_populates validator [] true distinct rfl noReference
  obtain rfl : same = final := Option.some.inj (Except.ok.inj (ranSame.symm.trans ran))
  refine ⟨ran, ?_⟩
  intro location node properties key property default applies way isProperty found
  rcases populated location node properties key property default applies way isProperty found with
    there | ⟨before, name, after, _, drops⟩
  · exact there
  · refine absurd drops (Builder.not_drops .main ?_)
    intro node scope comes
    rw [(plain node scope comes).2]
    nofun

end JsonSchema
