import JsonSchema.Proofs.Building.Presence

set_option autoImplicit false

/-! The members of an object that has been built. The object grows while its properties are gone through,
but a property is built from the member of its own name alone, which no other property touches; so each
is built as if it were the only one, from the object that was given. The main statement is
`Builder.members_of_build`, which tells the keys of the result in their order, and what each of them
holds. -/

namespace JsonSchema

/-- What a call has built, if it ends and there is a value. -/
def Built.result (call : Except Exhausted Built) : Option Json := call.toOption.bind Built.value

theorem Built.result_of_ends {call : Except Exhausted Built} {built : Built}
    (ends : call = .ok built) : Built.result call = built.value := by
  rw [ends]
  rfl

namespace Builder

/-! ### Properties one after the other -/

section Completing

variable {build : Json → Scope → Site → Option Json → Except Exhausted Built} {scope : Scope}
  {site : Site} {properties members completed : List (String × Json)}

def KeepsPresent (build : Json → Scope → Site → Option Json → Except Exhausted Built) : Prop :=
  ∀ schema scope site value built, build schema scope site (some value) = .ok built →
    ∃ final, built.value = some final

theorem keepsPresent_build (builder : Builder) (budget : Nat) :
    KeepsPresent (builder.build budget) := by
  intro schema scope site value built ran
  obtain ⟨final, isFinal, _⟩ := (build_stays ran).exists_eq
  exact ⟨final, isFinal⟩

theorem rebuild_eq_ok_iff (keeps : KeepsPresent build) {schema value final : Json} :
    rebuild build schema scope site value = .ok final ↔
      Built.result (build schema scope site (some value)) = some final := by
  rw [rebuild]
  cases ran : build schema scope site (some value) with
  | error stop =>
      constructor
      · intro same; cases same
      · intro same; cases same
  | ok built =>
      obtain ⟨own, isOwn⟩ := keeps _ _ _ _ _ ran
      rw [bind_of_ends rfl, Built.result_of_ends rfl, isOwn, Option.some_inj]
      constructor
      · intro same; exact Except.ok.inj same
      · rintro rfl; rfl

def propertyCall (build : Json → Scope → Site → Option Json → Except Exhausted Built) (scope : Scope)
    (site : Site) (members : List (String × Json)) (property : String × Json) : Except Exhausted Built :=
  build property.2 scope site (members.lookup property.1)

def withResult (members : List (String × Json)) (key : String) (result : Option Json) :
    List (String × Json) :=
  result.elim members (Entries.insert members key)

/-- A property does the same whether or not it has a member: it is built, and what there is of it is put
under its key. -/
theorem completeMembers_next (keeps : KeepsPresent build) (property : String × Json)
    (rest members : List (String × Json)) :
    completeMembers build scope site (property :: rest) members =
      propertyCall build scope site members property >>= fun built =>
        completeMembers build scope site rest (withResult members property.1 built.value) := by
  obtain ⟨key, schema⟩ := property
  rw [completeMembers, propertyCall]
  cases found : members.lookup key with
  | none =>
      refine bind_congr fun built => ?_
      cases built.value <;> rfl
  | some value =>
      simp only [rebuild, bind_assoc, pure_bind]
      cases ran : build schema scope site (some value) with
      | error stop => rfl
      | ok built =>
          obtain ⟨final, isFinal⟩ := keeps _ _ _ _ _ ran
          rw [bind_of_ends rfl, bind_of_ends rfl, isFinal]
          rfl

private theorem ne_of_notMem_names {key : String} {other : String × Json}
    (isNew : key ∉ Entries.names properties) (isOther : other ∈ properties) : other.1 ≠ key := by
  rintro rfl
  exact isNew (List.mem_map.mpr ⟨other, isOther, rfl⟩)

private theorem lookup_withResult_of_ne {key other : String} (different : other ≠ key)
    (result : Option Json) : (withResult members key result).lookup other = members.lookup other := by
  cases result with
  | none => rfl
  | some value => simp [withResult, different]

private theorem propertyCall_withResult {property other : String × Json} (different : other.1 ≠ property.1)
    (result : Option Json) :
    propertyCall build scope site (withResult members property.1 result) other =
      propertyCall build scope site members other := by
  unfold propertyCall
  rw [lookup_withResult_of_ne different]

/-- The members are completed by the results of the properties: the keys that were there stay in their
order, and behind them come those of the other properties that have a result. -/
structure CompletedBy (result : String × Json → Option Json)
    (properties members completed : List (String × Json)) : Prop where
  names : Entries.names completed = Entries.names members ++
    Entries.names (properties.filter fun property =>
      !Entries.hasKey members property.1 && (result property).isSome)
  declared : ∀ property ∈ properties, completed.lookup property.1 = result property
  others : ∀ name, name ∉ Entries.names properties → completed.lookup name = members.lookup name

theorem CompletedBy.of_same {result other : String × Json → Option Json}
    (completes : CompletedBy other properties members completed)
    (same : ∀ property ∈ properties, other property = result property) :
    CompletedBy result properties members completed := by
  constructor
  · rw [completes.names]
    congr 2
    refine List.filter_congr fun property isProperty => ?_
    rw [same property isProperty]
  · intro property isProperty
    rw [completes.declared property isProperty, same property isProperty]
  · exact completes.others

theorem CompletedBy.cons {result : String × Json → Option Json} {property : String × Json}
    {rest : List (String × Json)} (isNew : property.1 ∉ Entries.names rest)
    (present : Entries.hasKey members property.1 = true → ∃ value, result property = some value)
    (completes : CompletedBy result rest (withResult members property.1 (result property)) completed) :
    CompletedBy result (property :: rest) members completed := by
  obtain ⟨key, schema⟩ := property
  have atKey : completed.lookup key = result (key, schema) := by
    rw [completes.others key isNew]
    cases isResult : result (key, schema) with
    | some value => simp [withResult]
    | none =>
        cases absent : members.lookup key with
        | none => exact absent
        | some value =>
            obtain ⟨final, isFinal⟩ := present (Option.isSome_iff_exists.mpr ⟨value, absent⟩)
            cases isResult.symm.trans isFinal
  have sameRest : (rest.filter fun property =>
        !Entries.hasKey (withResult members key (result (key, schema))) property.1 &&
          (result property).isSome) =
      rest.filter fun property => !Entries.hasKey members property.1 && (result property).isSome := by
    refine List.filter_congr fun other isOther => ?_
    rw [Entries.hasKey, lookup_withResult_of_ne (ne_of_notMem_names isNew isOther), Entries.hasKey]
  constructor
  · rw [completes.names, sameRest, List.filter_cons]
    dsimp only
    cases isResult : result (key, schema) with
    | none =>
        rw [Option.isSome_none, Bool.and_false, if_neg Bool.false_ne_true]
        rfl
    | some value =>
        cases there : Entries.hasKey members key <;> simp [withResult, there]
  · exact List.forall_mem_cons.mpr ⟨atKey, completes.declared⟩
  · intro name absent
    obtain ⟨notKey, notRest⟩ := not_or.mp (mt List.mem_cons.mpr absent)
    rw [completes.others name notRest, lookup_withResult_of_ne notKey]

/-- Completing an object ends exactly if the call for each property does, and is done by their results. -/
theorem completeMembers_ends_iff (keeps : KeepsPresent build)
    (distinct : (Entries.names properties).Nodup) (members : List (String × Json)) :
    (∃ completed, completeMembers build scope site properties members = .ok completed) ↔
      ∀ property ∈ properties, ∃ built, propertyCall build scope site members property = .ok built := by
  induction properties generalizing members with
  | nil => exact ⟨fun _ => nofun, fun _ => ⟨members, rfl⟩⟩
  | cons property rest ih =>
      obtain ⟨isNew, distinctRest⟩ := List.nodup_cons.mp distinct
      have sameCalls (result : Option Json) :
          (∀ other ∈ rest, ∃ built, propertyCall build scope site
            (withResult members property.1 result) other = .ok built) ↔
          ∀ other ∈ rest, ∃ built, propertyCall build scope site members other = .ok built := by
        refine forall₂_congr fun other isOther => ?_
        rw [propertyCall_withResult (ne_of_notMem_names isNew isOther)]
      rw [completeMembers_next keeps, List.forall_mem_cons]
      constructor
      · rintro ⟨completed, ran⟩
        obtain ⟨built, ranFirst, ranRest⟩ := ends_of_bind ran
        exact ⟨⟨built, ranFirst⟩, (sameCalls _).mp ((ih distinctRest _).mp ⟨completed, ranRest⟩)⟩
      · rintro ⟨⟨built, ranFirst⟩, others⟩
        rw [bind_of_ends ranFirst]
        exact (ih distinctRest _).mpr ((sameCalls _).mpr others)

private theorem completedBy_of_completeMembers (keeps : KeepsPresent build)
    (distinct : (Entries.names properties).Nodup)
    (ran : completeMembers build scope site properties members = .ok completed) :
    CompletedBy (fun property => Built.result (propertyCall build scope site members property))
      properties members completed := by
  induction properties generalizing members with
  | nil =>
      cases ran
      exact ⟨(List.append_nil _).symm, nofun, fun _ _ => rfl⟩
  | cons property rest ih =>
      obtain ⟨isNew, distinctRest⟩ := List.nodup_cons.mp distinct
      rw [completeMembers_next keeps] at ran
      obtain ⟨built, ranFirst, ranRest⟩ := ends_of_bind ran
      have isResult := Built.result_of_ends ranFirst
      refine .cons isNew ?_ ?_
      · intro present
        obtain ⟨value, found⟩ := Option.isSome_iff_exists.mp present
        have ranPresent := ranFirst
        rw [propertyCall, found] at ranPresent
        rw [isResult]
        exact keeps _ _ _ _ _ ranPresent
      · rw [isResult]
        refine (ih distinctRest ranRest).of_same fun other isOther => ?_
        rw [propertyCall_withResult (ne_of_notMem_names isNew isOther)]

end Completing

/-! ### Nodes that complete objects -/

/-- A node is closed when its `additionalProperties` is false, or when members that are not declared are
disallowed and its `additionalProperties` is neither true nor an object. -/
def Closed (builder : Builder) (schema : Json) : Prop :=
  schema.field? "additionalProperties" = some (.bool false) ∨
    builder.additionalAllowed = false ∧ schema.field? "additionalProperties" ≠ some (.bool true) ∧
      ∀ inner, schema.field? "additionalProperties" ≠ some (.object inner)

private theorem dropsUndeclared_iff {builder : Builder} {schema : Json} :
    builder.dropsUndeclared schema = true ↔ builder.Closed schema := by
  unfold dropsUndeclared Closed
  split
  next isFalse => simp [isFalse]
  next isTrue => simp [isTrue]
  next inner isObject => simp [isObject]
  next notFalse notTrue noObject =>
    rw [Bool.not_eq_true', or_iff_right notFalse]
    exact ⟨fun disallowed => ⟨disallowed, notTrue, noObject⟩, And.left⟩

section Node

variable {builder : Builder} {visit node : Visit} {properties members : List (String × Json)}

theorem Enters.inBranch_eq (enters : builder.Enters visit node) :
    node.site.inBranch = visit.site.inBranch := by
  cases enters <;> rfl

def closedMembers (builder : Builder) (schema : Json)
    (properties completed : List (String × Json)) : List (String × Json) :=
  if builder.dropsUndeclared schema then
    completed.filter fun member => Entries.hasKey properties member.1
  else completed

private theorem closedMembers_of_closed {schema : Json} {completed : List (String × Json)}
    (closed : builder.Closed schema) : builder.closedMembers schema properties completed =
      completed.filter fun member => Entries.hasKey properties member.1 :=
  if_pos (dropsUndeclared_iff.mpr closed)

private theorem closedMembers_of_not_closed {schema : Json} {completed : List (String × Json)}
    (notClosed : ¬builder.Closed schema) :
    builder.closedMembers schema properties completed = completed :=
  if_neg (mt dropsUndeclared_iff.mp notClosed)

private theorem lookup_closedMembers {schema : Json} {completed : List (String × Json)} {name : String}
    (declared : Entries.hasKey properties name = true) :
    (builder.closedMembers schema properties completed).lookup name = completed.lookup name := by
  unfold closedMembers
  split
  next => exact Entries.lookup_filter _ declared
  next => rfl

private theorem hasKey_of_mem {property : String × Json} (isProperty : property ∈ properties) :
    Entries.hasKey properties property.1 = true :=
  (Entries.hasKey_iff_mem_names properties property.1).mpr (List.mem_map.mpr ⟨property, isProperty, rfl⟩)

private theorem build_object (enters : builder.Enters visit node) (noBranch : visit.site.inBranch = false)
    (declared : (node.schema.field? "properties").bind Json.members? = some properties)
    (given : node.given = some (.object members)) (budget : Nat) :
    builder.build (budget + 1) visit.schema visit.scope visit.site visit.value =
      completeMembers (builder.build budget) node.scope node.site.inside properties members >>=
        fun completed => pure (.plain (some (.object
          (builder.closedMembers node.schema properties completed)))) := by
  rw [build, buildNode_of_enters enters, buildTarget]
  dsimp only
  rw [show (node.value <|> node.schema.field? "default") = some (.object members) from given, declared]
  refine bind_congr fun completed => ?_
  rw [enters.inBranch_eq, noBranch, closedMembers]
  cases builder.dropsUndeclared node.schema <;> rfl

/-- What an object is built to, by any node that has `properties` and is no branch of `allOf`, at whatever
depth and whatever references are being expanded. Building it ends exactly if for each property the
building from the member of its name, or from absence, does. Then the keys of the result are those that the
object had, in their order and without those that a closed node does not declare, and behind them, in
the order of the schema, those of the other properties for which there is a result. Each property
has as its value what has been built for it, and every other key that is kept has the value it had. -/
theorem members_of_build (enters : builder.Enters visit node) (noBranch : visit.site.inBranch = false)
    (declared : (node.schema.field? "properties").bind Json.members? = some properties)
    (given : node.given = some (.object members)) (distinct : (Entries.names properties).Nodup)
    (budget : Nat) :
    let whole := builder.build (budget + 1) visit.schema visit.scope visit.site visit.value
    let call (property : String × Json) :=
      builder.build budget property.2 node.scope node.site.inside (members.lookup property.1)
    let added := properties.filter fun property =>
      !Entries.hasKey members property.1 && (Built.result (call property)).isSome
    ((∃ built, whole = .ok built) ↔ ∀ property ∈ properties, ∃ built, call property = .ok built) ∧
      ∀ built, whole = .ok built → ∃ final, built = .plain (some (.object final)) ∧
        (builder.Closed node.schema → Entries.names final =
          (Entries.names members).filter (Entries.hasKey properties) ++ Entries.names added) ∧
        (¬builder.Closed node.schema →
          Entries.names final = Entries.names members ++ Entries.names added) ∧
        (∀ property ∈ properties, final.lookup property.1 = Built.result (call property)) ∧
        ∀ name ∈ Entries.names final, name ∉ Entries.names properties →
          final.lookup name = members.lookup name := by
  intro whole call added
  have keeps := keepsPresent_build builder budget
  have ranWhole : whole = _ := build_object enters noBranch declared given budget
  constructor
  · rw [ranWhole]
    refine Iff.trans ?_ (completeMembers_ends_iff keeps distinct members)
    constructor
    · rintro ⟨built, ran⟩
      obtain ⟨completed, ranMembers, _⟩ := ends_of_bind ran
      exact ⟨completed, ranMembers⟩
    · rintro ⟨completed, ranMembers⟩
      exact ⟨_, bind_of_ends ranMembers⟩
  · intro built ran
    rw [ranWhole] at ran
    obtain ⟨completed, ranMembers, isFinal⟩ := ends_of_bind ran
    have completes := completedBy_of_completeMembers keeps distinct ranMembers
    have ofAdded : ∀ name ∈ Entries.names added, Entries.hasKey properties name = true := by
      intro name isAdded
      obtain ⟨property, isProperty, rfl⟩ := List.mem_map.mp isAdded
      exact hasKey_of_mem (List.mem_filter.mp isProperty).1
    refine ⟨_, (Except.ok.inj isFinal).symm, ?_, ?_, ?_, ?_⟩
    · intro closed
      rw [closedMembers_of_closed closed, Entries.names_filter, completes.names, List.filter_append]
      exact congrArg _ (List.filter_eq_self.mpr ofAdded)
    · intro notClosed
      rw [closedMembers_of_not_closed notClosed]
      exact completes.names
    · intro property isProperty
      rw [lookup_closedMembers (hasKey_of_mem isProperty)]
      exact completes.declared property isProperty
    · intro name isKept undeclared
      by_cases closed : builder.Closed node.schema
      · rw [closedMembers_of_closed closed, Entries.names_filter] at isKept
        have isDeclared := (List.mem_filter.mp isKept).2
        exact absurd ((Entries.hasKey_iff_mem_names properties name).mp isDeclared) undeclared
      · rw [closedMembers_of_not_closed closed]
        exact completes.others name undeclared

def serversSchema : Json :=
  .object
    [("$ref", .string "#/definitions/server"),
      ("definitions", .object
        [("path", .object [("default", .string "/")]),
          ("server", .object
            [("default", .object [("note", .null), ("port", .bool false)]),
              ("properties", .object
                [("host", .object []), ("path", .object [("$ref", .string "#/definitions/path")]),
                  ("port", .object [("default", .bool true)])])])])]

theorem members_of_build_server :
    let builder : Builder := ⟨⟨serversSchema, [], false⟩, false⟩
    ∃ final, builder.build 3 serversSchema .main .start none = .ok (.plain (some (.object final))) ∧
      Entries.names final = ["port", "path"] ∧ final.lookup "port" = some (.bool false) := by
  intro builder
  let visit : Visit := ⟨serversSchema, .main, .start, none⟩
  have enters : builder.Enters visit _ := .reference rfl rfl (by rfl)
  have ran : builder.build 3 visit.schema visit.scope visit.site visit.value =
      .ok (.plain (some (.object [("port", .bool false), ("path", .string "/")]))) := by rfl
  obtain ⟨-, complete⟩ := members_of_build enters rfl rfl rfl (by decide) 2
  obtain ⟨final, isFinal, closed, -, declared, -⟩ := complete _ ran
  refine ⟨final, ran.trans (congrArg _ isFinal), ?_, ?_⟩
  · exact closed (.inr ⟨rfl, by decide, fun inner => by nofun⟩)
  · exact declared ("port", .object [("default", .bool true)]) (by decide)

end Node

end Builder

end JsonSchema
