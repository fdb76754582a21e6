import JsonSchema.Proofs.Building.Descent
import JsonSchema.Proofs.Distinct

set_option autoImplicit false

/-! Completing an object or an array that has been completed. A run of a node leaves a value as it is when
it gives back that value; from the runs for the members and the elements that a first run made and a second
one leaves, the lemmas here tell that an object and an array are left as well. What the first run inserted
the second one finds; what the first left out, the second leaves out again; and where the first run padded
an array the second finds a null. -/

namespace JsonSchema

namespace Builder

/-! ### Two runs of one node -/

section Runs

variable (first : Option Json → Except Exhausted Built)
  (second : Option Json → Except Interruption Built)

def Gives (final : Option Json) : Prop := ∃ value built, first value = .ok built ∧ built.value = final

def Leaves (value : Option Json) : Prop := second value = .ok (.plain value)

/-- What a first run has built at a depth of the value is left as it is by a second one that may go so
deep. A node that made nothing of an absent value has nothing to do for a null either. -/
def Repeats (depth limit : Nat) : Prop :=
  ∀ value built, first value = .ok built →
    (∃ final, built.value = some final ∧
      (depth + final.depth ≤ limit → Leaves second (some final))) ∨
    (built.value = none ∧ value = none ∧
      (depth ≤ limit → Leaves second none ∧ Leaves second (some .null)))

variable {first second} {depth limit : Nat}

theorem Repeats.present (repeats : Repeats first second depth limit) {final : Json}
    (gives : Gives first (some final)) (inLimit : depth + final.depth ≤ limit) :
    Leaves second (some final) := by
  obtain ⟨value, built, ran, known⟩ := gives
  rcases repeats value built ran with ⟨other, isOther, leaves⟩ | ⟨nothing, _⟩
  · rw [known] at isOther
    obtain rfl := Option.some.inj isOther
    exact leaves inLimit
  · rw [known] at nothing
    cases nothing

theorem Repeats.absent (repeats : Repeats first second depth limit) (gives : Gives first none)
    (inLimit : depth ≤ limit) : Leaves second none ∧ Leaves second (some .null) := by
  obtain ⟨value, built, ran, known⟩ := gives
  rcases repeats value built ran with ⟨final, isFinal, _⟩ | ⟨_, _, leaves⟩
  · rw [known] at isFinal
    cases isFinal
  · exact leaves inLimit

theorem Repeats.of_eq {other : Option Json → Except Exhausted Built}
    {otherSecond : Option Json → Except Interruption Built}
    (sameFirst : ∀ value, first value = other value)
    (sameSecond : ∀ value, second value = otherSecond value)
    (repeats : Repeats other otherSecond depth limit) : Repeats first second depth limit := by
  rw [funext sameFirst, funext sameSecond]
  exact repeats

theorem repeats_of_leaves (sameFirst : ∀ value, first value = .ok (.plain value))
    (sameSecond : ∀ value, Leaves second value) : Repeats first second depth limit := by
  intro value built ran
  rw [sameFirst] at ran
  obtain rfl := Except.ok.inj ran
  cases value with
  | none => exact .inr ⟨rfl, rfl, fun _ => ⟨sameSecond none, sameSecond (some .null)⟩⟩
  | some value => exact .inl ⟨value, rfl, fun _ => sameSecond (some value)⟩

end Runs

variable {build : Json → Scope → Site → Option Json → Except Exhausted Built}
  {again : Json → Scope → Site → Option Json → Except Interruption Built}
  {scope : Scope} {site : Site} {limit : Nat}

private theorem gives_of_rebuild {schema value final : Json}
    (repeats : Repeats (build schema scope site) (again schema scope site) site.depth limit)
    (ran : rebuild build schema scope site value = .ok final) :
    Gives (build schema scope site) (some final) := by
  obtain ⟨built, made, result⟩ := ends_of_bind ran
  obtain rfl := Except.ok.inj result
  rcases repeats (some value) built made with ⟨final, known, _⟩ | ⟨_, impossible, _⟩
  · exact ⟨some value, built, made, by rw [known, Option.getD_some]⟩
  · cases impossible

private theorem rebuild_of_leaves {schema value : Json}
    (leaves : Leaves (again schema scope site) (some value)) :
    rebuild again schema scope site value = .ok value := by
  unfold rebuild
  rw [leaves]
  rfl

/-! ### Members -/

section Members

variable {properties members completed : List (String × Json)}

private theorem completeMembers_cons {key : String} {property : Json}
    (repeats : Repeats (build property scope site) (again property scope site) site.depth limit)
    (ran : completeMembers build scope site ((key, property) :: properties) members =
      .ok completed) :
    ∃ middle, completeMembers build scope site properties middle = .ok completed ∧
      ((∃ value, Gives (build property scope site) (some value) ∧
          middle = Entries.insert members key value) ∨
        (Gives (build property scope site) none ∧ members.lookup key = none ∧
          middle = members)) := by
  unfold completeMembers at ran
  cases found : members.lookup key with
  | some value =>
      rw [found] at ran
      obtain ⟨final, rebuilt, rest⟩ := ends_of_bind ran
      exact ⟨_, rest, .inl ⟨final, gives_of_rebuild repeats rebuilt, rfl⟩⟩
  | none =>
      rw [found] at ran
      obtain ⟨built, made, rest⟩ := ends_of_bind ran
      have gives : Gives (build property scope site) built.value := ⟨none, built, made, rfl⟩
      cases known : built.value with
      | some final =>
          rw [known] at rest gives
          exact ⟨_, rest, .inl ⟨final, gives, rfl⟩⟩
      | none =>
          rw [known] at rest gives
          exact ⟨_, rest, .inr ⟨gives, rfl, rfl⟩⟩

def UniqueAt (members : List (String × Json)) (key : String) : Prop :=
  ∀ value, members.lookup key = some value → ∀ entry ∈ members, entry.1 = key → entry.2 = value

private theorem completeMembers_other {key : String}
    (repeats : ∀ key property, (key, property) ∈ properties →
      Repeats (build property scope site) (again property scope site) site.depth limit)
    (ran : completeMembers build scope site properties members = .ok completed)
    (other : key ∉ Entries.names properties) :
    completed.lookup key = members.lookup key ∧
      ∀ entry ∈ completed, entry.1 = key → entry ∈ members := by
  induction properties generalizing members with
  | nil =>
      obtain rfl := Except.ok.inj ran
      exact ⟨rfl, fun _ member _ => member⟩
  | cons first rest ih =>
      obtain ⟨name, property⟩ := first
      obtain ⟨different, later⟩ := not_or.mp (List.mem_cons.not.mp other)
      obtain ⟨middle, ranRest, step⟩ :=
        completeMembers_cons (repeats name property List.mem_cons_self) ran
      obtain ⟨sameLookup, sameEntries⟩ := ih
        (fun key property member => repeats key property (List.mem_cons_of_mem _ member))
        ranRest later
      rcases step with ⟨value, _, rfl⟩ | ⟨_, _, rfl⟩
      · simp only [Entries.lookup_insert, different, if_false] at sameLookup
        refine ⟨sameLookup, ?_⟩
        intro entry member named
        rcases Entries.mem_insert (sameEntries entry member named) with rfl | ⟨_, old⟩
        · exact absurd named.symm different
        · exact old
      · exact ⟨sameLookup, sameEntries⟩

/-- After a run every property has been built to what stands there. -/
theorem completeMembers_gives
    (repeats : ∀ key property, (key, property) ∈ properties →
      Repeats (build property scope site) (again property scope site) site.depth limit)
    (ran : completeMembers build scope site properties members = .ok completed)
    (distinct : (Entries.names properties).Nodup) {key : String} {property : Json}
    (isProperty : (key, property) ∈ properties) :
    Gives (build property scope site) (completed.lookup key) ∧ UniqueAt completed key := by
  induction properties generalizing members with
  | nil => cases isProperty
  | cons first rest ih =>
      obtain ⟨name, firstProperty⟩ := first
      obtain ⟨notLater, distinctRest⟩ := List.nodup_cons.mp distinct
      have repeatsRest : ∀ key property, (key, property) ∈ rest →
          Repeats (build property scope site) (again property scope site) site.depth limit :=
        fun key property member => repeats key property (List.mem_cons_of_mem _ member)
      obtain ⟨middle, ranRest, step⟩ :=
        completeMembers_cons (repeats name firstProperty List.mem_cons_self) ran
      rcases List.mem_cons.mp isProperty with isFirst | isLater
      · obtain ⟨rfl, rfl⟩ := Prod.mk.inj isFirst
        obtain ⟨sameLookup, sameEntries⟩ := completeMembers_other repeatsRest ranRest notLater
        rcases step with ⟨value, gives, rfl⟩ | ⟨gives, absent, rfl⟩
        · simp only [Entries.lookup_insert, if_true] at sameLookup
          refine ⟨sameLookup ▸ gives, ?_⟩
          intro found isFound entry member named
          rw [sameLookup] at isFound
          obtain rfl := Option.some.inj isFound
          rcases Entries.mem_insert (sameEntries entry member named) with rfl | ⟨otherName, _⟩
          · rfl
          · exact absurd named otherName
        · rw [absent] at sameLookup
          refine ⟨sameLookup ▸ gives, ?_⟩
          intro found isFound
          rw [sameLookup] at isFound
          cases isFound
      · exact ih repeatsRest ranRest distinctRest isLater

/-- A run that leaves the value of every property as it is leaves all members as they are. -/
theorem completeMembers_leaves
    (leaves : ∀ key property, (key, property) ∈ properties →
      Leaves (again property scope site) (members.lookup key) ∧ UniqueAt members key) :
    completeMembers again scope site properties members = .ok members := by
  induction properties with
  | nil => rfl
  | cons first rest ih =>
      obtain ⟨key, property⟩ := first
      obtain ⟨left, unique⟩ := leaves key property List.mem_cons_self
      have others := ih fun key property member => leaves key property (List.mem_cons_of_mem _ member)
      unfold completeMembers
      cases found : members.lookup key with
      | some value =>
          rw [found] at left
          have same := Entries.insert_eq_self found (unique value found)
          dsimp only
          rw [bind_of_ends (rebuild_of_leaves left), pure_bind, same, others]
      | none =>
          rw [found] at left
          dsimp only
          rw [left]
          exact others

/-- A second run finds the members, as many of them as are kept, as the first one left them. -/
theorem completeMembers_repeats (distinct : (Entries.names properties).Nodup)
    (repeats : ∀ key property, (key, property) ∈ properties →
      Repeats (build property scope site) (again property scope site) site.depth limit)
    (ran : completeMembers build scope site properties members = .ok completed)
    (kept : String → Bool) (keeps : ∀ key ∈ Entries.names properties, kept key = true)
    {final : List (String × Json)} (isFinal : completed.filter (fun member => kept member.1) = final)
    (inLimit : site.depth + Json.membersDepth final ≤ limit) :
    completeMembers again scope site properties final = .ok final := by
  apply completeMembers_leaves
  intro key property isProperty
  obtain ⟨gives, unique⟩ := completeMembers_gives repeats ran distinct isProperty
  have sameLookup : final.lookup key = completed.lookup key := by
    rw [← isFinal]
    exact Entries.lookup_filter kept (keeps key (List.mem_map.mpr ⟨_, isProperty, rfl⟩))
  rw [← sameLookup] at gives
  constructor
  · cases found : final.lookup key with
    | some value =>
        rw [found] at gives
        have bound : value.depth ≤ Json.membersDepth final :=
          Json.depth_le_membersDepth (Entries.mem_of_lookup found)
        exact (repeats key property isProperty).present gives (by omega)
    | none =>
        rw [found] at gives
        exact ((repeats key property isProperty).absent gives (by omega)).1
  · intro value found entry isEntry
    rw [sameLookup] at found
    rw [← isFinal] at isEntry
    exact unique value found entry (List.mem_filter.mp isEntry).1

theorem buildObject_repeats {builder : Builder} {schema : Json} {built : Built}
    (noBranch : site.inBranch = false) (distinct : (Entries.names properties).Nodup)
    (repeats : ∀ key property, (key, property) ∈ properties →
      Repeats (build property scope site.inside) (again property scope site.inside)
        site.inside.depth limit)
    (ran : builder.buildObject build schema scope site properties members = .ok built) :
    ∃ final, built.value = some (.object final) ∧
      (site.inside.depth + Json.membersDepth final ≤ limit →
        builder.buildObject again schema scope site properties final =
          .ok (.plain (some (.object final)))) := by
  obtain ⟨completed, ranMembers, result⟩ := ends_of_bind ran
  have second := completeMembers_repeats distinct repeats ranMembers
  dsimp only at result
  split at result
  next keepsAll =>
    obtain rfl := Except.ok.inj result
    refine ⟨completed, rfl, fun inLimit => ?_⟩
    unfold buildObject
    rw [bind_of_ends (second (fun _ => true) (fun _ _ => rfl) (List.filter_true completed) inLimit)]
    dsimp only
    rw [if_pos keepsAll]
    rfl
  next drops =>
    rw [noBranch] at result
    obtain rfl := Except.ok.inj result
    refine ⟨_, rfl, fun inLimit => ?_⟩
    have declared : ∀ key ∈ Entries.names properties, Entries.hasKey properties key = true :=
      fun key => (Entries.hasKey_iff_mem_names properties key).mpr
    unfold buildObject
    rw [bind_of_ends (second (Entries.hasKey properties) declared rfl inLimit)]
    dsimp only
    rw [if_neg drops, noBranch, List.filter_filter]
    simp only [Bool.and_self]
    rfl

end Members

/-! ### Elements -/

section Elements

variable {items elements completed : List Json} {index : Nat}

/-- One item schema: its element is rebuilt or made, or there is none. Elements before it stay, or are
padded. -/
theorem completeTuple_cons {item : Json}
    (repeats : Repeats (build item scope site) (again item scope site) site.depth limit)
    (ran : completeTuple build scope site index (item :: items) elements = .ok completed) :
    ∃ middle, completeTuple build scope site (index + 1) items middle = .ok completed ∧
      (∀ position, position < index → middle[position]? = elements[position]? ∨
        elements[position]? = none ∧ middle[position]? = some .null) ∧
      Gives (build item scope site) middle[index]? := by
  unfold completeTuple at ran
  cases found : elements[index]? with
  | some value =>
      rw [found] at ran
      obtain ⟨final, rebuilt, rest⟩ := ends_of_bind ran
      obtain ⟨inRange, _⟩ := List.getElem?_eq_some_iff.mp found
      refine ⟨_, rest, ?_, ?_⟩
      · intro position before
        exact .inl (List.getElem?_set_ne (Nat.ne_of_gt before))
      · rw [List.getElem?_set_self inRange]
        exact gives_of_rebuild repeats rebuilt
  | none =>
      rw [found] at ran
      obtain ⟨built, made, rest⟩ := ends_of_bind ran
      have short : elements.length ≤ index := List.getElem?_eq_none_iff.mp found
      cases known : built.value with
      | some final =>
          rw [known] at rest
          refine ⟨_, rest, ?_, ?_⟩
          · intro position before
            by_cases inside : position < elements.length
            · rw [List.append_assoc, List.getElem?_append_left inside]
              exact .inl rfl
            · have behind : elements.length ≤ position := Nat.le_of_not_lt inside
              refine .inr ⟨List.getElem?_eq_none behind, ?_⟩
              rw [List.append_assoc, List.getElem?_append_right behind,
                List.getElem?_append_left (by rw [List.length_replicate]; omega),
                List.getElem?_replicate, if_pos (by omega)]
          · have last : (elements ++ List.replicate (index - elements.length) Json.null).length =
                index := by
              rw [List.length_append, List.length_replicate]
              omega
            rw [List.getElem?_append_right (by omega), last, Nat.sub_self]
            exact ⟨none, built, made, known⟩
      | none =>
          rw [known] at rest
          refine ⟨_, rest, fun _ _ => .inl rfl, ?_⟩
          rw [found]
          exact ⟨none, built, made, known⟩

private theorem completeTuple_before
    (repeats : ∀ item ∈ items,
      Repeats (build item scope site) (again item scope site) site.depth limit)
    (ran : completeTuple build scope site index items elements = .ok completed) {position : Nat}
    (before : position < index) :
    completed[position]? = elements[position]? ∨
      elements[position]? = none ∧ completed[position]? = some .null := by
  induction items generalizing index elements with
  | nil =>
      obtain rfl := Except.ok.inj ran
      exact .inl rfl
  | cons item rest ih =>
      obtain ⟨middle, ranRest, stays, _⟩ := completeTuple_cons (repeats item List.mem_cons_self) ran
      have later := ih (fun item member => repeats item (List.mem_cons_of_mem _ member)) ranRest
        (Nat.lt_succ_of_lt before)
      rcases stays position before with same | ⟨missing, padded⟩
      · rwa [same] at later
      · refine .inr ⟨missing, ?_⟩
        rcases later with same | ⟨impossible, _⟩
        · rw [same, padded]
        · rw [padded] at impossible
          cases impossible

/-- After a run every item schema has been built to what stands in its place, or to nothing where a null
pads it. -/
theorem completeTuple_gives
    (repeats : ∀ item ∈ items,
      Repeats (build item scope site) (again item scope site) site.depth limit)
    (ran : completeTuple build scope site index items elements = .ok completed) {offset : Nat}
    {item : Json} (isItem : items[offset]? = some item) :
    Gives (build item scope site) completed[index + offset]? ∨
      Gives (build item scope site) none ∧ completed[index + offset]? = some .null := by
  induction items generalizing index elements offset with
  | nil => cases isItem
  | cons first rest ih =>
      have repeatsRest : ∀ item ∈ rest,
          Repeats (build item scope site) (again item scope site) site.depth limit :=
        fun item member => repeats item (List.mem_cons_of_mem _ member)
      obtain ⟨middle, ranRest, _, gives⟩ :=
        completeTuple_cons (repeats first List.mem_cons_self) ran
      cases offset with
      | zero =>
          obtain rfl := Option.some.inj isItem
          rcases completeTuple_before repeatsRest ranRest (Nat.lt_succ_self index) with
            same | ⟨missing, padded⟩
          · exact .inl (same ▸ gives)
          · exact .inr ⟨missing ▸ gives, padded⟩
      | succ offset =>
          have later := ih repeatsRest ranRest isItem
          rwa [Nat.add_right_comm, Nat.add_assoc] at later

private theorem completeTuple_leaves
    (leaves : ∀ (offset : Nat) (item : Json), items[offset]? = some item →
      Leaves (again item scope site) elements[index + offset]?) :
    completeTuple again scope site index items elements = .ok elements := by
  induction items generalizing index with
  | nil => rfl
  | cons item rest ih =>
      have left : Leaves (again item scope site) elements[index]? := leaves 0 item rfl
      have others : completeTuple again scope site (index + 1) rest elements = .ok elements := by
        apply ih
        intro offset later isItem
        have left := leaves (offset + 1) later isItem
        rwa [Nat.add_comm offset, ← Nat.add_assoc] at left
      unfold completeTuple
      cases found : elements[index]? with
      | some value =>
          rw [found] at left
          dsimp only
          obtain ⟨inRange, rfl⟩ := List.getElem?_eq_some_iff.mp found
          rw [bind_of_ends (rebuild_of_leaves left), pure_bind, List.set_getElem_self, others]
      | none =>
          rw [found] at left
          dsimp only
          rw [left]
          exact others

private theorem completeTuple_repeats {final : List Json}
    (repeats : ∀ item ∈ items,
      Repeats (build item scope site) (again item scope site) site.depth limit)
    (ran : completeTuple build scope site 0 items elements = .ok completed)
    (kept : final.take items.length = completed.take items.length)
    (inLimit : site.depth + Json.elementsDepth final ≤ limit) :
    completeTuple again scope site 0 items final = .ok final := by
  apply completeTuple_leaves
  intro offset item isItem
  obtain ⟨isPosition, _⟩ := List.getElem?_eq_some_iff.mp isItem
  have samePosition : final[offset]? = completed[offset]? := by
    rw [← List.getElem?_take_of_lt isPosition, kept, List.getElem?_take_of_lt isPosition]
  have atItem := repeats item (List.mem_of_getElem? isItem)
  have gives := completeTuple_gives repeats ran isItem
  rw [Nat.zero_add] at gives ⊢
  rw [← samePosition] at gives
  rcases gives with gives | ⟨gives, padded⟩
  · cases found : final[offset]? with
    | some value =>
        rw [found] at gives
        have bound := Json.depth_le_elementsDepth (List.mem_of_getElem? found)
        exact atItem.present gives (by omega)
    | none =>
        rw [found] at gives
        exact (atItem.absent gives (by omega)).1
  · rw [padded]
    exact (atItem.absent gives (by omega)).2

theorem mapM_rebuild_length {each : Json}
    (ran : elements.mapM (rebuild build each scope site) = .ok completed) :
    completed.length = elements.length := by
  induction elements generalizing completed with
  | nil =>
      obtain rfl := Except.ok.inj ran
      rfl
  | cons first rest ih =>
      rw [List.mapM_cons] at ran
      obtain ⟨final, _, ran⟩ := ends_of_bind ran
      obtain ⟨others, ranRest, result⟩ := ends_of_bind ran
      obtain rfl := Except.ok.inj result
      exact congrArg Nat.succ (ih ranRest)

private theorem mapM_rebuild_repeats {each : Json}
    (repeats : Repeats (build each scope site) (again each scope site) site.depth limit)
    (ran : elements.mapM (rebuild build each scope site) = .ok completed)
    (inLimit : site.depth + Json.elementsDepth completed ≤ limit) :
    completed.mapM (rebuild again each scope site) = .ok completed := by
  induction elements generalizing completed with
  | nil =>
      obtain rfl := Except.ok.inj ran
      rfl
  | cons first rest ih =>
      rw [List.mapM_cons] at ran
      obtain ⟨final, rebuilt, ran⟩ := ends_of_bind ran
      obtain ⟨others, ranRest, result⟩ := ends_of_bind ran
      obtain rfl := Except.ok.inj result
      have gives := gives_of_rebuild repeats rebuilt
      rw [Json.elementsDepth] at inLimit
      rw [List.mapM_cons, rebuild_of_leaves (repeats.present gives (by omega)),
        ih ranRest (by omega)]
      rfl

theorem take_drop_append {Item : Type} {kept more : List Item} {count : Nat}
    (rest : more.length = kept.length - count) :
    (kept.take count ++ more).take count = kept.take count ∧
      (kept.take count ++ more).drop count = more := by
  by_cases long : count ≤ kept.length
  · have exact : (kept.take count).length = count := List.length_take_of_le long
    exact ⟨List.take_left' exact, List.drop_left' exact⟩
  · have nothing : more = [] := List.length_eq_zero_iff.mp (by omega)
    rw [nothing, List.append_nil, List.take_of_length_le (by omega : kept.length ≤ count)]
    exact ⟨List.take_of_length_le (by omega), List.drop_eq_nil_of_le (by omega)⟩

theorem buildArray_repeats {schema items : Json}
    (atItems : Repeats (build items scope site) (again items scope site) site.depth limit)
    (atPositions : ∀ tuple, items = .array tuple → ∀ item ∈ tuple,
      Repeats (build item scope site) (again item scope site) site.depth limit)
    (atAdditional : ∀ additional, schema.field? "additionalItems" = some additional →
      Repeats (build additional scope site) (again additional scope site) site.depth limit)
    (ran : buildArray build schema scope site items elements = .ok completed)
    (inLimit : site.depth + Json.elementsDepth completed ≤ limit) :
    buildArray again schema scope site items completed = .ok completed := by
  cases items with
  | array tuple =>
      have atTuple := atPositions tuple rfl
      obtain ⟨middle, ranTuple, ran⟩ := ends_of_bind ran
      have unchanged (sameMiddle : middle = completed) :
          completeTuple again scope site 0 tuple completed = .ok completed :=
        completeTuple_repeats atTuple ranTuple (by rw [sameMiddle]) inLimit
      unfold buildArray
      dsimp only
      cases additional : schema.field? "additionalItems" with
      | none =>
          rw [additional] at ran
          rw [unchanged (Except.ok.inj ran)]
          rfl
      | some written =>
          rw [additional] at ran
          cases written with
          | object inner =>
              obtain ⟨more, ranMore, result⟩ := ends_of_bind ran
              obtain rfl := Except.ok.inj result
              have rest := mapM_rebuild_length ranMore
              rw [List.length_drop] at rest
              obtain ⟨sameTake, sameDrop⟩ := take_drop_append rest
              have bound : Json.elementsDepth more ≤
                  Json.elementsDepth (middle.take tuple.length ++ more) :=
                Json.elementsDepth_le fun value member =>
                  Json.depth_le_elementsDepth (List.mem_append_right _ member)
              have others := mapM_rebuild_repeats (atAdditional _ additional) ranMore (by omega)
              rw [bind_of_ends (completeTuple_repeats atTuple ranTuple sameTake inLimit)]
              dsimp only
              rw [sameDrop, bind_of_ends others, sameTake]
              rfl
          | _ =>
              rw [unchanged (Except.ok.inj ran)]
              rfl
  | _ => exact mapM_rebuild_repeats atItems ran inLimit

end Elements

end Builder

end JsonSchema
