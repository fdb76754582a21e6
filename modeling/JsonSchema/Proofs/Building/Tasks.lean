import JsonSchema.Proofs.Building.Calls
import JsonSchema.Proofs.Locations

set_option autoImplicit false

/-! Building a node as a list of tasks. Each task builds a part of the value, or the whole of it for a
branch of `allOf`, and puts back what has been built; what the tasks leave is finished by dropping or by
marking members. The main statement is `Builder.buildTarget_eq`: for every node this is what building it
comes to. -/

namespace JsonSchema

structure Visit where
  schema : Json
  scope : Scope
  site : Site
  value : Option Json

namespace Builder

namespace Task

def part (task : Task) (whole : Option Json) : Option Json :=
  match task.place with
  | some step => whole.bind (Json.part? step)
  | none => whole

/-- The whole after a task. Where there was a part there is one again. -/
def putBack (task : Task) (whole result : Option Json) : Option Json :=
  match task.place with
  | some step =>
      match task.part whole, result with
      | some _, result => whole.map fun value => value.put step (result.getD .null)
      | none, some result => whole.map fun value => value.put step result
      | none, none => whole
  | none => result

def visit (task : Task) (node : Visit) (whole : Option Json) : Visit :=
  ⟨task.schema, node.scope, task.site node.site, task.part whole⟩

end Task

end Builder

inductive Way where
  | members (properties : List (String × Json))
  | elements (items : Json)
  | branches (branches : List Json)

namespace Visit

def given (node : Visit) : Option Json := node.value <|> node.schema.field? "default"

def way (node : Visit) : Way :=
  match node.given, (node.schema.field? "properties").bind Json.members?,
      Builder.arrayOrObject? (node.schema.field? "items") with
  | some (.object _), some properties, _ => .members properties
  | some (.array _), _, some items => .elements items
  | _, _, _ => .branches (((node.schema.field? "allOf").bind Json.elements?).getD [])

def additionalTasks (node : Visit) (first last : Nat) : List Builder.Task :=
  match node.schema.field? "additionalItems" with
  | some (.object inner) => (List.range' first (last - first)).map (.element (.object inner))
  | _ => []

def elementTasks (node : Visit) (items : Json) (count : Nat) : List Builder.Task :=
  match items with
  | .array tuple =>
      (tuple.zipIdx.map fun entry => .element entry.1 entry.2) ++
        node.additionalTasks tuple.length count
  | each => (List.range' 0 count).map (.element each)

def tasks (node : Visit) : List Builder.Task :=
  match node.way with
  | .members properties => properties.map .member
  | .elements items => node.elementTasks items ((node.given.bind Json.elements?).getD []).length
  | .branches branches => branches.map .branch

end Visit

namespace Builder

/-- Drops or marks the members of an object that its properties do not declare. -/
def close (builder : Builder) (node : Visit) (properties : List (String × Json)) :
    Option Json → Built
  | some (.object completed) =>
      if !builder.dropsUndeclared node.schema then .plain (some (.object completed))
      else if node.site.inBranch then
        ⟨some (.object completed),
          (Entries.names completed).filter fun key => !Entries.hasKey properties key⟩
      else
        .plain (some (.object (completed.filter fun member => Entries.hasKey properties member.1)))
  | final => .plain final

def finish (builder : Builder) (node : Visit) (final : Option Json) (undeclared : List String) :
    Built :=
  match node.way with
  | .members properties => builder.close node properties final
  | .elements _ => .plain final
  | .branches _ => .plain (dropUndeclared undeclared final)

variable (build : Json → Scope → Site → Option Json → Except Exhausted Built)

/-- Does one task after the other, and gathers the keys that they found undeclared. -/
def runTasks (node : Visit) :
    List Task → Option Json → Except Exhausted (Option Json × List String)
  | [], whole => pure (whole, [])
  | task :: rest, whole => do
      let built ← build task.schema node.scope (task.site node.site) (task.part whole)
      let (final, undeclared) ← runTasks node rest (task.putBack whole built.value)
      return (final, built.undeclared ++ undeclared)

variable (node : Visit) {Result : Type}

/-! ### The tasks of each kind of node -/

private theorem runTasks_cons (task : Task) (rest : List Task) (whole : Option Json)
    (next : Option Json → Except Exhausted Result) :
    (runTasks build node (task :: rest) whole >>= fun done => next done.1) =
      build task.schema node.scope (task.site node.site) (task.part whole) >>= fun built =>
        runTasks build node rest (task.putBack whole built.value) >>= fun done => next done.1 := by
  simp only [runTasks, bind_assoc, pure_bind]

private theorem runTasks_append (front back : List Task) (whole : Option Json)
    (next : Option Json → Except Exhausted Result) :
    (runTasks build node (front ++ back) whole >>= fun done => next done.1) =
      runTasks build node front whole >>= fun middle =>
        runTasks build node back middle.1 >>= fun done => next done.1 := by
  induction front generalizing whole with
  | nil => rfl
  | cons task rest ih =>
      rw [List.cons_append, runTasks_cons]
      simp only [ih, runTasks, bind_assoc, pure_bind]

private theorem runTasks_members (properties members : List (String × Json))
    (next : Option Json → Except Exhausted Result) :
    (runTasks build node (properties.map .member) (some (.object members)) >>= fun done =>
        next done.1) =
      completeMembers build node.scope node.site.inside properties members >>= fun completed =>
        next (some (.object completed)) := by
  induction properties generalizing members with
  | nil => rfl
  | cons property rest ih =>
      obtain ⟨key, property⟩ := property
      rw [List.map_cons, runTasks_cons, completeMembers]
      cases found : members.lookup key with
      | some value =>
          have atKey : (Task.member (key, property)).part (some (.object members)) = some value :=
            found
          have putBack (result : Option Json) :
              (Task.member (key, property)).putBack (some (.object members)) result =
                some (.object (Entries.insert members key (result.getD .null))) := by
            unfold Task.putBack
            rw [atKey]
            rfl
          simp only [atKey, putBack, ih, rebuild, bind_assoc, pure_bind]
          rfl
      | none =>
          have atKey : (Task.member (key, property)).part (some (.object members)) = none := found
          have putBack (result : Option Json) :
              (Task.member (key, property)).putBack (some (.object members)) result =
                some (.object (result.elim members (Entries.insert members key))) := by
            unfold Task.putBack
            rw [atKey]
            cases result <;> rfl
          simp only [atKey, putBack, ih, bind_assoc]
          refine bind_congr fun built => ?_
          cases built.value <;> rfl

private theorem runTasks_tuple (items elements : List Json) (start : Nat)
    (next : Option Json → Except Exhausted Result) :
    (runTasks build node ((items.zipIdx start).map fun entry => .element entry.1 entry.2)
        (some (.array elements)) >>= fun done => next done.1) =
      completeTuple build node.scope node.site.inside start items elements >>= fun completed =>
        next (some (.array completed)) := by
  induction items generalizing elements start with
  | nil => rfl
  | cons item rest ih =>
      rw [List.zipIdx_cons, List.map_cons, runTasks_cons, completeTuple]
      cases found : elements[start]? with
      | some value =>
          have atIndex : (Task.element item start).part (some (.array elements)) = some value := found
          obtain ⟨inRange, _⟩ := List.getElem?_eq_some_iff.mp found
          have putBack (result : Option Json) :
              (Task.element item start).putBack (some (.array elements)) result =
                some (.array (elements.set start (result.getD .null))) := by
            unfold Task.putBack
            rw [atIndex]
            exact congrArg some (if_pos inRange)
          simp only [atIndex, putBack, ih, rebuild, bind_assoc, pure_bind]
          rfl
      | none =>
          have atIndex : (Task.element item start).part (some (.array elements)) = none := found
          have beyond : ¬start < elements.length :=
            Nat.not_lt.mpr (List.getElem?_eq_none_iff.mp found)
          have putBack (result : Option Json) :
              (Task.element item start).putBack (some (.array elements)) result =
                some (.array (result.elim elements fun value =>
                  elements ++ List.replicate (start - elements.length) .null ++ [value])) := by
            unfold Task.putBack
            rw [atIndex]
            cases result with
            | none => rfl
            | some value => exact congrArg some (if_neg beyond)
          simp only [atIndex, putBack, ih, bind_assoc]
          refine bind_congr fun built => ?_
          cases built.value <;> rfl

private theorem runTasks_each (each : Json) (before elements : List Json)
    (next : Option Json → Except Exhausted Result) :
    (runTasks build node
        ((List.range' before.length elements.length).map (.element each))
        (some (.array (before ++ elements))) >>= fun done => next done.1) =
      elements.mapM (rebuild build each node.scope node.site.inside) >>= fun completed =>
        next (some (.array (before ++ completed))) := by
  induction elements generalizing before with
  | nil => rfl
  | cons value rest ih =>
      have atIndex : (Task.element each before.length).part (some (.array (before ++ value :: rest))) =
          some value := by
        change (before ++ value :: rest)[before.length]? = some value
        rw [List.getElem?_append_right (Nat.le_refl _), Nat.sub_self, List.getElem?_cons_zero]
      have inRange : before.length < (before ++ value :: rest).length := by
        rw [List.length_append, List.length_cons]
        omega
      have putBack (result : Option Json) :
          (Task.element each before.length).putBack (some (.array (before ++ value :: rest))) result =
            some (.array ((before ++ [result.getD .null]) ++ rest)) := by
        unfold Task.putBack
        rw [atIndex]
        refine congrArg some ((if_pos inRange).trans (congrArg Json.array ?_))
        rw [List.set_append_right _ _ (Nat.le_refl _), Nat.sub_self, List.set_cons_zero,
          List.append_assoc, List.singleton_append]
      have onward (result : Json) :
          (runTasks build node ((List.range' (before.length + 1) rest.length).map (.element each))
              (some (.array ((before ++ [result]) ++ rest))) >>= fun done => next done.1) =
            rest.mapM (rebuild build each node.scope node.site.inside) >>= fun completed =>
              next (some (.array (before ++ result :: completed))) := by
        have longer : (before ++ [result]).length = before.length + 1 := List.length_append
        rw [← longer, ih]
        refine bind_congr fun completed => ?_
        rw [List.append_assoc, List.singleton_append]
      rw [List.length_cons, List.range'_succ, List.map_cons, runTasks_cons, List.mapM_cons]
      simp only [atIndex, putBack, onward, rebuild, bind_assoc, pure_bind]
      rfl

private theorem runTasks_branches (branches : List Json) (whole : Option Json) :
    runTasks build node (branches.map .branch) whole =
      buildBranches build node.scope node.site.branch branches whole := by
  induction branches generalizing whole with
  | nil => rfl
  | cons branch rest ih =>
      rw [List.map_cons, runTasks, buildBranches]
      refine bind_congr fun built => ?_
      rw [← ih]
      rfl

variable {build} in
theorem completeTuple_length {scope : Scope} {site : Site} {start : Nat}
    {items elements completed : List Json}
    (ran : completeTuple build scope site start items elements = .ok completed) :
    elements.length ≤ completed.length ∧
      completed.length ≤ max elements.length (start + items.length) := by
  induction items generalizing start elements with
  | nil =>
      obtain rfl := Except.ok.inj ran
      omega
  | cons item rest ih =>
      have onward {middle : List Json}
          (ranRest : completeTuple build scope site (start + 1) rest middle = .ok completed)
          (longer : elements.length ≤ middle.length)
          (bound : middle.length ≤ max elements.length (start + 1)) :
          elements.length ≤ completed.length ∧
            completed.length ≤ max elements.length (start + (item :: rest).length) := by
        have later := ih ranRest
        rw [List.length_cons]
        omega
      unfold completeTuple at ran
      cases found : elements[start]? with
      | some value =>
          rw [found] at ran
          obtain ⟨final, _, ranRest⟩ := ends_of_bind ran
          have same : (elements.set start final).length = elements.length := List.length_set
          exact onward ranRest (by omega) (by omega)
      | none =>
          rw [found] at ran
          obtain ⟨built, _, ranRest⟩ := ends_of_bind ran
          have beyond : elements.length ≤ start := List.getElem?_eq_none_iff.mp found
          cases known : built.value with
          | none =>
              rw [known] at ranRest
              exact onward ranRest (by omega) (by omega)
          | some value =>
              rw [known] at ranRest
              refine onward ranRest ?_ ?_
              all_goals simp only [List.length_append, List.length_replicate, List.length_singleton]
              all_goals omega

private theorem runTasks_elements (items : Json) (elements : List Json)
    (next : Option Json → Except Exhausted Result) :
    (runTasks build node (node.elementTasks items elements.length) (some (.array elements)) >>=
        fun done => next done.1) =
      buildArray build node.schema node.scope node.site.inside items elements >>= fun completed =>
        next (some (.array completed)) := by
  unfold Visit.elementTasks buildArray
  cases items with
  | array tuple =>
      dsimp only
      rw [runTasks_append, bind_assoc]
      let additional (middle : Option Json) : Except Exhausted Result := do
        let done ← runTasks build node (node.additionalTasks tuple.length elements.length) middle
        next done.1
      refine (runTasks_tuple build node tuple elements 0 additional).trans ?_
      cases ran : completeTuple build node.scope node.site.inside 0 tuple elements with
      | error stop => rfl
      | ok completed =>
          rw [bind_of_ends rfl, bind_of_ends rfl]
          dsimp only [additional, Visit.additionalTasks]
          cases node.schema.field? "additionalItems" with
          | none => rfl
          | some written =>
              cases written with
              | object inner =>
                  obtain ⟨longer, bound⟩ := completeTuple_length ran
                  have atAdditional := runTasks_each build node (.object inner)
                    (completed.take tuple.length) (completed.drop tuple.length) next
                  have positions : List.range' (completed.take tuple.length).length
                        (completed.drop tuple.length).length =
                      List.range' tuple.length (elements.length - tuple.length) := by
                    rw [List.length_take, List.length_drop]
                    by_cases long : tuple.length ≤ elements.length
                    · have same : completed.length = elements.length := by omega
                      rw [same, Nat.min_eq_left long]
                    · have none : completed.length - tuple.length = 0 := by omega
                      have noneGiven : elements.length - tuple.length = 0 := by omega
                      rw [none, noneGiven, List.range'_zero, List.range'_zero]
                  rw [List.take_append_drop, positions] at atAdditional
                  refine atAdditional.trans ?_
                  simp only [bind_assoc, pure_bind]
              | _ => rfl
  | _ => exact runTasks_each build node _ [] elements next

variable {build node} {builder : Builder}

private theorem buildObject_eq {members properties : List (String × Json)}
    (isGiven : node.given = some (.object members)) (way : node.way = .members properties) :
    builder.buildObject build node.schema node.scope node.site properties members = do
      let (final, undeclared) ← runTasks build node node.tasks node.given
      return builder.finish node final undeclared := by
  simp only [finish, Visit.tasks, way, isGiven]
  rw [runTasks_members build node properties members fun final =>
    pure (builder.close node properties final)]
  unfold buildObject
  refine bind_congr fun completed => ?_
  unfold close
  dsimp only
  split
  next => rfl
  next => split <;> rfl

private theorem buildArray_eq {items : Json} {elements : List Json}
    (isGiven : node.given = some (.array elements)) (way : node.way = .elements items) :
    (do return .plain (some (.array (← buildArray build node.schema node.scope node.site.inside items
        elements)))) = do
      let (final, undeclared) ← runTasks build node node.tasks node.given
      return builder.finish node final undeclared := by
  simp only [finish, Visit.tasks, way, isGiven]
  exact (runTasks_elements build node items elements fun final => pure (Built.plain final)).symm

private theorem buildAllOf_eq
    (way : node.way = .branches (((node.schema.field? "allOf").bind Json.elements?).getD [])) :
    (match node.schema.field? "allOf" with
      | some (.array branches) => do
          let (value, undeclared) ← buildBranches build node.scope node.site.branch branches node.given
          return .plain (dropUndeclared undeclared value)
      | _ => return .plain node.given) = do
      let (final, undeclared) ← runTasks build node node.tasks node.given
      return builder.finish node final undeclared := by
  have nothing : Built.plain (dropUndeclared [] node.given) = .plain node.given := by
    cases node.given with
    | none => rfl
    | some value =>
        cases value with
        | object members =>
            unfold dropUndeclared
            simp only [List.count_nil, Nat.zero_le, decide_true, List.filter_true]
        | _ => rfl
  simp only [finish, Visit.tasks, way]
  rw [runTasks_branches]
  cases node.schema.field? "allOf" with
  | none => exact congrArg pure nothing.symm
  | some written =>
      cases written with
      | array branches => rfl
      | _ => exact congrArg pure nothing.symm

/-- A node builds its value by its tasks. -/
theorem buildTarget_eq (builder : Builder) (node : Visit) :
    builder.buildTarget build node.schema node.scope node.site node.value = do
      let (final, undeclared) ← runTasks build node node.tasks node.given
      return builder.finish node final undeclared := by
  unfold buildTarget
  have given : (node.value <|> node.schema.field? "default") = node.given := rfl
  rw [given]
  dsimp only
  split
  next isGiven declared =>
    apply buildObject_eq isGiven
    unfold Visit.way
    rw [isGiven, declared]
  next isGiven read =>
    apply buildArray_eq isGiven
    unfold Visit.way
    rw [isGiven, read]
  next noMembers noElements =>
    apply buildAllOf_eq
    unfold Visit.way
    split
    next isGiven declared => exact absurd declared (noMembers _ _ isGiven)
    next isGiven read => exact absurd read (noElements _ _ isGiven)
    next => rfl

end Builder

end JsonSchema
