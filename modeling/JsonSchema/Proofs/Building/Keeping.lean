import JsonSchema.Proofs.Building.Applying

set_option autoImplicit false

/-! What building keeps. A value that is there grows task by task, and the only members it can lose are
those that some node drops: this is `Builder.build_keeps`. For it the keys of an object have to be
distinct, since of several branches each may mark a key only once. -/

namespace JsonSchema

namespace Json

def DistinctIn (value : Option Json) : Prop := ∀ present ∈ value, present.keysDistinct = true

theorem distinctIn_some {value : Json} (distinct : value.keysDistinct = true) :
    DistinctIn (some value) := by
  intro present isPresent
  rwa [← Option.some.inj isPresent]

private theorem keysDistinct_filter {members : List (String × Json)}
    (distinct : (object members).keysDistinct = true) (kept : String × Json → Bool) :
    (object (members.filter kept)).keysDistinct = true := by
  obtain ⟨names, each⟩ := keysDistinct_object_iff.mp distinct
  refine keysDistinct_object_iff.mpr ⟨?_, ?_⟩
  · exact names.sublist (List.filter_sublist.map _)
  · intro member isMember
    exact each member (List.mem_filter.mp isMember).1

end Json

open Json (DistinctIn)

namespace Builder

variable {builder : Builder} {visit node : Visit} {budget : Nat}

/-! ### Tasks one after the other -/

section Tasks

variable {build : Json → Scope → Site → Option Json → Except Exhausted Built} {task : Task}
  {rest before tasks : List Task} {whole current final : Option Json}
  {undeclared marks : List String}

@[simp] theorem runTasks_nil : runTasks build node [] whole = .ok (whole, []) := rfl

theorem runTasks_cons_cases
    (ran : runTasks build node (task :: rest) whole = .ok (final, undeclared)) :
    ∃ built more, build task.schema node.scope (task.site node.site) (task.part whole) = .ok built ∧
      runTasks build node rest (task.putBack whole built.value) = .ok (final, more) ∧
      undeclared = built.undeclared ++ more := by
  obtain ⟨built, ranTask, ran⟩ := ends_of_bind ran
  obtain ⟨⟨last, more⟩, ranRest, result⟩ := ends_of_bind ran
  obtain ⟨rfl, rfl⟩ := Prod.mk.inj (Except.ok.inj result)
  exact ⟨built, more, ranTask, ranRest, rfl⟩

theorem runTasks_snoc {built : Built}
    (ranBefore : runTasks build node before whole = .ok (current, marks))
    (ranTask : build task.schema node.scope (task.site node.site) (task.part current) = .ok built) :
    runTasks build node (before ++ [task]) whole =
      .ok (task.putBack current built.value, marks ++ built.undeclared) := by
  induction before generalizing whole marks with
  | nil =>
      obtain ⟨rfl, rfl⟩ := Prod.mk.inj (Except.ok.inj ranBefore)
      rw [List.nil_append, runTasks, bind_of_ends ranTask]
      change Except.ok (_, built.undeclared ++ []) = _
      rw [List.append_nil]
      rfl
  | cons first others ih =>
      obtain ⟨builtFirst, more, ranFirst, ranOthers, rfl⟩ := runTasks_cons_cases ranBefore
      rw [List.cons_append, runTasks, bind_of_ends ranFirst, bind_of_ends (ih ranOthers),
        List.append_assoc]
      rfl

/-- What holds before some task of a run, and is preserved by each task from there on, holds at the end of
the run. -/
theorem runTasks_induction (Holds : List Task → Option Json → List String → Prop)
    (step : ∀ before task after current marks built, tasks = before ++ task :: after →
      runTasks build node before whole = .ok (current, marks) →
      build task.schema node.scope (task.site node.site) (task.part current) = .ok built →
      Holds before current marks →
      Holds (before ++ [task]) (task.putBack current built.value) (marks ++ built.undeclared))
    {more : List String} (split : tasks = before ++ rest)
    (ranBefore : runTasks build node before whole = .ok (current, marks))
    (holds : Holds before current marks)
    (ran : runTasks build node rest current = .ok (final, more)) :
    Holds tasks final (marks ++ more) := by
  induction rest generalizing before current marks more with
  | nil =>
      obtain ⟨rfl, rfl⟩ := Prod.mk.inj (Except.ok.inj ran)
      rw [split, List.append_nil, List.append_nil]
      exact holds
  | cons task rest ih =>
      obtain ⟨built, others, ranTask, ranRest, rfl⟩ := runTasks_cons_cases ran
      rw [← List.append_assoc]
      refine ih ?_ (runTasks_snoc ranBefore ranTask) ?_ ranRest
      · rw [split, List.append_assoc, List.singleton_append]
      · exact step before task rest current marks built split ranBefore ranTask holds

end Tasks

/-! ### Distinct keys -/

/-- A visit to a node of the documents, over a value with distinct keys. -/
structure Proper (builder : Builder) (visit : Visit) : Prop where
  comes : builder.documents.ComesTo visit.schema visit.scope
  distinct : DistinctIn visit.value

theorem Task.part_distinct {whole : Option Json} (task : Task) (distinct : DistinctIn whole) :
    DistinctIn (task.part whole) := by
  intro present isPart
  unfold part at isPart
  split at isPart
  next step _ =>
    obtain ⟨value, isWhole, found⟩ := Option.bind_eq_some_iff.mp isPart
    exact Json.keysDistinct_of_part? (distinct value isWhole) found
  next => exact distinct present isPart

theorem Task.putBack_distinct {whole result : Option Json} (task : Task)
    (distinct : DistinctIn whole) (ofResult : DistinctIn result) :
    DistinctIn (task.putBack whole result) := by
  have putDistinct (step : Step) {part : Json} (ofPart : part.keysDistinct = true) :
      DistinctIn (whole.map fun value => value.put step part) := by
    intro present isPut
    obtain ⟨value, isWhole, rfl⟩ := Option.map_eq_some_iff.mp isPut
    exact Json.keysDistinct_put (distinct value isWhole) ofPart
  unfold putBack
  cases task.place with
  | none => exact ofResult
  | some step =>
      cases task.part whole with
      | some old =>
          apply putDistinct
          cases result with
          | none => rfl
          | some part => exact ofResult part rfl
      | none =>
          cases result with
          | none => exact distinct
          | some part => exact putDistinct step (ofResult part rfl)

section Distinct

variable (distinct : builder.documents.keysDistinct = true)

theorem Proper.enters (proper : builder.Proper visit) (enters : builder.Enters visit node) :
    builder.Proper node := by
  refine ⟨enters.comesTo proper.comes, ?_⟩
  rw [enters.value_eq]
  exact proper.distinct

theorem Proper.task (proper : builder.Proper visit) (enters : builder.Enters visit node) {task : Task}
    (isTask : task ∈ node.tasks) {current : Option Json} (ofCurrent : DistinctIn current) :
    builder.Proper (task.visit node current) :=
  ⟨enters.task_comesTo proper.comes isTask, task.part_distinct ofCurrent⟩

include distinct

theorem Proper.given (proper : builder.Proper node) : DistinctIn node.given := by
  intro present isGiven
  unfold Visit.given at isGiven
  cases isValue : node.value with
  | some value =>
      rw [isValue] at isGiven
      exact proper.distinct present (isValue.trans isGiven)
  | none =>
      rw [isValue] at isGiven
      have ofSchema := Documents.keysDistinct_of_holds distinct proper.comes.holds
      exact (Json.Part.of_field isGiven).keysDistinct ofSchema

omit distinct in
private theorem finish_distinct {final : Option Json} (ofFinal : DistinctIn final)
    (undeclared : List String) :
    DistinctIn (builder.finish node final undeclared).value ∧
      (builder.finish node final undeclared).undeclared.Nodup := by
  unfold finish
  split
  next properties _ =>
    unfold close
    split
    next completed =>
      have ofCompleted := ofFinal _ rfl
      split
      next => exact ⟨ofFinal, List.nodup_nil⟩
      next =>
        split
        next =>
          exact ⟨ofFinal, (Json.nodup_names rfl ofCompleted).filter _⟩
        next =>
          exact ⟨Json.distinctIn_some (Json.keysDistinct_filter ofCompleted _), List.nodup_nil⟩
    next => exact ⟨ofFinal, List.nodup_nil⟩
  next => exact ⟨ofFinal, List.nodup_nil⟩
  next =>
    refine ⟨?_, List.nodup_nil⟩
    unfold dropUndeclared
    split
    next completed => exact Json.distinctIn_some (Json.keysDistinct_filter (ofFinal _ rfl) _)
    next => exact ofFinal

private theorem runTasks_distinct_of
    (each : ∀ inner built, builder.Proper inner →
      builder.build budget inner.schema inner.scope inner.site inner.value = .ok built →
      DistinctIn built.value)
    (proper : builder.Proper visit) (enters : builder.Enters visit node) {before : List Task}
    {current : Option Json} {marks : List String} (first : before <+: node.tasks)
    (ran : runTasks (builder.build budget) node before node.given = .ok (current, marks)) :
    DistinctIn current := by
  refine runTasks_induction (fun _ current _ => DistinctIn current) ?_
    (List.nil_append _).symm runTasks_nil ((proper.enters enters).given distinct) ran
  intro earlier task after current marks built split _ ranTask ofCurrent
  have isTask : task ∈ node.tasks := by
    apply first.subset
    rw [split]
    exact List.mem_append_right _ List.mem_cons_self
  exact task.putBack_distinct ofCurrent (each _ _ (proper.task enters isTask ofCurrent) ranTask)

private theorem build_distinct {built : Built} (proper : builder.Proper visit)
    (ran : builder.build budget visit.schema visit.scope visit.site visit.value = .ok built) :
    DistinctIn built.value ∧ built.undeclared.Nodup := by
  induction budget generalizing visit built with
  | zero => cases ran
  | succ budget ih =>
      rcases build_cases ran with ⟨node, final, undeclared, enters, ranTasks, rfl⟩ | ⟨_, rfl⟩
      · apply finish_distinct
        refine runTasks_distinct_of distinct ?_ proper enters (List.prefix_refl _) ranTasks
        intro inner built properInner ranInner
        exact (ih properInner ranInner).1
      · exact ⟨proper.distinct, List.nodup_nil⟩

private theorem runTasks_distinct (proper : builder.Proper visit) (enters : builder.Enters visit node)
    {before : List Task} {current : Option Json} {marks : List String}
    (first : before <+: node.tasks)
    (ran : runTasks (builder.build budget) node before node.given = .ok (current, marks)) :
    DistinctIn current := by
  refine runTasks_distinct_of distinct ?_ proper enters first ran
  intro inner built properInner ranInner
  exact (build_distinct distinct properInner ranInner).1

/-- A task starts with distinct keys, whatever the tasks before it have come to. -/
theorem task_proper (proper : builder.Proper visit) (enters : builder.Enters visit node)
    {before after : List Task} {task : Task} {current : Option Json} {marks : List String}
    (split : node.tasks = before ++ task :: after)
    (ran : runTasks (builder.build budget) node before node.given = .ok (current, marks)) :
    builder.Proper (task.visit node current) := by
  refine proper.task enters (Visit.mem_of_split split) ?_
  refine runTasks_distinct distinct proper enters ?_ ran
  rw [split]
  exact List.prefix_append _ _

end Distinct

/-! ### Marks -/

private theorem forbids_of_enters (enters : builder.Enters visit node) (name : String) :
    builder.forbids visit.scope name visit.schema = builder.excludes name node.schema := by
  unfold forbids
  rw [enters.resolved]

private theorem mem_undeclared (visit : Visit) {built : Built} {name : String}
    (ran : builder.build budget visit.schema visit.scope visit.site visit.value = .ok built)
    (marked : name ∈ built.undeclared) :
    ∃ node properties, builder.Applies budget visit [] node ∧ node.way = .members properties ∧
      builder.excludes name node.schema = true ∧
      builder.forbids visit.scope name visit.schema = true := by
  obtain ⟨less, rfl⟩ : ∃ less, budget = less + 1 := by
    cases budget with
    | zero => cases ran
    | succ less => exact ⟨less, rfl⟩
  rcases build_cases ran with ⟨node, final, undeclared, enters, _, rfl⟩ | ⟨_, rfl⟩
  · unfold finish at marked
    cases way : node.way with
    | members properties =>
        rw [way] at marked
        rw [forbids_of_enters enters]
        refine ⟨node, properties, .here enters, way, (and_self_iff.mpr ?_)⟩
        obtain ⟨declared, _⟩ := Visit.way_eq_members way
        unfold excludes
        rw [declared]
        unfold close at marked
        dsimp only at marked ⊢
        split at marked
        next completed =>
          cases drops : builder.dropsUndeclared node.schema with
          | false =>
              rw [drops] at marked
              cases marked
          | true =>
              rw [drops] at marked
              cases inBranch : node.site.inBranch with
              | true =>
                  rw [inBranch] at marked
                  exact (List.mem_filter.mp marked).2
              | false =>
                  rw [inBranch] at marked
                  cases marked
        next => cases marked
    | elements items =>
        rw [way] at marked
        cases marked
    | branches branches =>
        rw [way] at marked
        cases marked
  · cases marked

private theorem count_undeclared_le {branches : List Json} {final : Option Json} {undeclared : List String}
    (distinct : builder.documents.keysDistinct = true) (proper : builder.Proper visit)
    (enters : builder.Enters visit node) (way : node.way = .branches branches)
    (ran : runTasks (builder.build budget) node node.tasks node.given = .ok (final, undeclared))
    (name : String) :
    undeclared.count name ≤ branches.countP (builder.forbids node.scope name) := by
  have bound : DistinctIn final ∧ undeclared.count name ≤
      node.tasks.countP fun task => builder.forbids node.scope name task.schema := by
    refine runTasks_induction (fun before current marks => DistinctIn current ∧ marks.count name ≤
        before.countP fun task => builder.forbids node.scope name task.schema) ?_
      (List.nil_append _).symm runTasks_nil ⟨(proper.enters enters).given distinct, Nat.le_refl _⟩ ran
    rintro before task after current marks built split _ ranTask ⟨ofCurrent, fewMarks⟩
    have isTask := Visit.mem_of_split split
    have properTask := proper.task enters isTask ofCurrent
    obtain ⟨ofBuilt, once⟩ := build_distinct distinct properTask ranTask
    refine ⟨task.putBack_distinct ofCurrent ofBuilt, ?_⟩
    rw [List.count_append, List.countP_append, List.countP_singleton]
    have atMostOnce : built.undeclared.count name ≤ 1 := List.nodup_iff_count_le_one.mp once name
    split
    next => omega
    next notForbidden =>
      have unmarked : built.undeclared.count name = 0 := by
        apply List.count_eq_zero.mpr
        intro marked
        obtain ⟨_, _, _, _, _, forbidden⟩ := mem_undeclared (task.visit node current) ranTask marked
        exact notForbidden forbidden
      omega
  have tasks : node.tasks = branches.map .branch := by
    unfold Visit.tasks
    rw [way]
  rw [tasks, List.countP_map] at bound
  exact bound.2

/-- A key that has been marked was found by a branch that is applied. -/
theorem applies_of_marked {branches : List Json} {final : Option Json} {undeclared : List String}
    (enters : builder.Enters visit node) (way : node.way = .branches branches)
    (ran : runTasks (builder.build budget) node node.tasks node.given = .ok (final, undeclared))
    {name : String} (marked : name ∈ undeclared) :
    ∃ inner properties, builder.Applies (budget + 1) visit [] inner ∧
      inner.way = .members properties ∧ builder.excludes name inner.schema = true := by
  refine runTasks_induction (fun _ _ marks => name ∈ marks → ∃ inner properties,
      builder.Applies (budget + 1) visit [] inner ∧ inner.way = .members properties ∧
        builder.excludes name inner.schema = true) ?_
    (List.nil_append _).symm runTasks_nil nofun ran marked
  intro before task after current marks built split ranBefore ranTask earlier isMark
  rcases List.mem_append.mp isMark with isEarlier | isNew
  · exact earlier isEarlier
  · obtain ⟨inner, properties, applies, wayInner, excludes, _⟩ :=
      mem_undeclared (task.visit node current) ranTask isNew
    have isTask := Visit.mem_of_split split
    unfold Visit.tasks at isTask
    rw [way] at isTask
    obtain ⟨branch, _, rfl⟩ := List.mem_map.mp isTask
    exact ⟨inner, properties, .inside enters split ranBefore applies, wayInner, excludes⟩

/-! ### What is kept -/

def Task.losses (task : Task) (losses : Losses) : Losses :=
  fun location name => losses (task.place.toList ++ location) name

theorem Task.putBack_keeps {task : Task} {losses : Losses} {value : Json} {result : Option Json}
    (kept : ∀ part, task.part (some value) = some part →
      ∃ later, result = some later ∧ part.KeptIn (task.losses losses) later) :
    ∃ later, task.putBack (some value) result = some later ∧ value.KeptIn losses later := by
  obtain ⟨place, schema⟩ := task
  cases place with
  | none => exact kept value rfl
  | some step =>
      unfold putBack
      dsimp only
      cases found : value.part? step with
      | some part =>
          have isPart : (Task.mk (some step) schema).part (some value) = some part := found
          obtain ⟨later, rfl, keptPart⟩ := kept part isPart
          rw [isPart]
          exact ⟨_, rfl, .put found keptPart⟩
      | none =>
          have noPart : (Task.mk (some step) schema).part (some value) = none := found
          rw [noPart]
          cases result with
          | none => exact ⟨value, rfl, .refl losses value⟩
          | some part => exact ⟨_, rfl, .put_new found part⟩

/-- A run keeps the value of a visit but for what it drops. -/
def Keeps (builder : Builder) (budget : Nat) (visit : Visit) : Prop :=
  ∀ built value, builder.build budget visit.schema visit.scope visit.site visit.value = .ok built →
    visit.value = some value →
    ∃ final, built.value = some final ∧ value.KeptIn (builder.Drops budget visit) final

section Keeps

variable (distinct : builder.documents.keysDistinct = true) (proper : builder.Proper visit)
  (enters : builder.Enters visit node)

include distinct proper enters

theorem runTasks_keeps (keeps : ∀ inner, builder.Proper inner → builder.Keeps budget inner)
    {before rest : List Task} {value : Json} {final : Option Json} {marks more : List String}
    (first : before ++ rest <+: node.tasks)
    (ranBefore : runTasks (builder.build budget) node before node.given = .ok (some value, marks))
    (ran : runTasks (builder.build budget) node rest (some value) = .ok (final, more)) :
    ∃ later, final = some later ∧ value.KeptIn (builder.Drops (budget + 1) visit) later := by
  have ofValue : DistinctIn (some value) :=
    runTasks_distinct distinct proper enters ((List.prefix_append _ _).trans first) ranBefore
  refine (runTasks_induction (fun _ current _ => DistinctIn current ∧ ∃ later, current = some later ∧
      value.KeptIn (builder.Drops (budget + 1) visit) later) ?_ rfl ranBefore
    ⟨ofValue, value, rfl, .refl _ value⟩ ran).2
  rintro earlier task after _ marks built split ranEarlier ranTask ⟨ofCurrent, current, rfl, kept⟩
  obtain ⟨last, all⟩ := first
  have splitAll : node.tasks = earlier ++ task :: (after ++ last) := by
    rw [← all, split, List.append_assoc, List.cons_append]
  have isTask := Visit.mem_of_split splitAll
  have properTask := proper.task enters isTask ofCurrent
  refine ⟨task.putBack_distinct ofCurrent (build_distinct distinct properTask ranTask).1, ?_⟩
  obtain ⟨later, isLater, keptByTask⟩ : ∃ later,
      task.putBack (some current) built.value = some later ∧
        current.KeptIn (builder.Drops (budget + 1) visit) later := by
    apply Task.putBack_keeps
    intro part isPart
    obtain ⟨final, isFinal, keptPart⟩ := keeps _ properTask built part ranTask isPart
    exact ⟨final, isFinal, keptPart.mono fun location name => .of_task enters splitAll ranEarlier⟩
  exact ⟨later, isLater, kept.trans keptByTask⟩

theorem finish_keeps {value : Json} {undeclared : List String}
    (ran : runTasks (builder.build budget) node node.tasks node.given =
      .ok (some value, undeclared)) :
    ∃ later, (builder.finish node (some value) undeclared).value = some later ∧
      value.KeptIn (builder.Drops (budget + 1) visit) later := by
  unfold finish
  cases way : node.way with
  | elements items => exact ⟨value, rfl, .refl _ value⟩
  | members properties =>
      dsimp only
      unfold close
      split
      next completed isObject =>
        obtain rfl := Option.some.inj isObject
        cases drops : builder.dropsUndeclared node.schema with
        | false => exact ⟨_, rfl, .refl _ _⟩
        | true =>
            cases inBranch : node.site.inBranch with
            | true => exact ⟨_, rfl, .refl _ _⟩
            | false =>
                refine ⟨_, rfl, .filter ?_⟩
                intro name _ undeclared
                have excludes : builder.excludes name node.schema = true := by
                  unfold excludes
                  rw [(Visit.way_eq_members way).1]
                  dsimp only
                  rw [drops, undeclared]
                  rfl
                exact .alone (.here enters) way excludes inBranch
      next => exact ⟨value, rfl, .refl _ value⟩
  | branches branches =>
      dsimp only [Built.plain]
      unfold dropUndeclared
      split
      next completed isObject =>
        obtain rfl := Option.some.inj isObject
        let kept (name : String) : Bool := undeclared.count name ≤ 1
        have lost : ∀ name ∈ Entries.names completed, kept name = false →
            builder.Drops (budget + 1) visit [] name := by
          intro name _ notKept
          have several : 2 ≤ undeclared.count name := by
            have many := of_decide_eq_false notKept
            omega
          have marked : name ∈ undeclared := List.count_pos_iff.mp (by omega)
          obtain ⟨inner, properties, applies, wayInner, excludes⟩ :=
            applies_of_marked enters way ran marked
          have bound := count_undeclared_le distinct proper enters way ran name
          exact .together (.here enters) way (Nat.le_trans several bound) applies wayInner excludes
        exact ⟨_, rfl, .filter lost⟩
      next => exact ⟨value, rfl, .refl _ value⟩

theorem node_keeps (keeps : ∀ inner, builder.Proper inner → builder.Keeps budget inner) {value : Json}
    (given : node.given = some value) {final : Option Json} {undeclared : List String}
    (ran : runTasks (builder.build budget) node node.tasks node.given = .ok (final, undeclared)) :
    ∃ later, (builder.finish node final undeclared).value = some later ∧
      value.KeptIn (builder.Drops (budget + 1) visit) later := by
  have start : runTasks (builder.build budget) node [] node.given = .ok (some value, []) := by
    rw [given, runTasks_nil]
  have ranAll := ran
  rw [given] at ranAll
  obtain ⟨later, rfl, keptByTasks⟩ :=
    runTasks_keeps distinct proper enters keeps (List.prefix_refl _) start ranAll
  obtain ⟨last, isLast, keptAtEnd⟩ := finish_keeps distinct proper enters ran
  exact ⟨last, isLast, keptByTasks.trans keptAtEnd⟩

end Keeps

/-- What a run keeps, by induction on the budget. -/
theorem build_keeps (distinct : builder.documents.keysDistinct = true)
    (proper : builder.Proper visit) : builder.Keeps budget visit := by
  induction budget generalizing visit with
  | zero =>
      intro built value ran
      cases ran
  | succ budget ih =>
      intro built value ran present
      rcases build_cases ran with ⟨node, final, undeclared, enters, ranTasks, rfl⟩ | ⟨_, rfl⟩
      · have given : node.given = some value := by
          unfold Visit.given
          rw [enters.value_eq, present]
          rfl
        exact node_keeps distinct proper enters (fun _ => ih) given ranTasks
      · exact ⟨value, present, .refl _ value⟩

end Builder

end JsonSchema
