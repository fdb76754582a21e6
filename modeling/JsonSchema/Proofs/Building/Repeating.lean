import JsonSchema.Proofs.Building.Completing

set_option autoImplicit false

/-! Building a value that has been built. Without `allOf` a node leaves what it has once built as it is:
its object and its array are completed as before, and no node works on a null. The main statement is
`Validator.build_idempotent`. -/

namespace JsonSchema

theorem Site.reenters_of_present {site : Site} {scope : Scope} {reference : String} {present : Json}
    (reenters : site.reenters scope reference (some present) = true) (value : Option Json) :
    site.reenters scope reference value = true := by
  obtain ⟨⟨activeScope, active, depth⟩, member, entered⟩ := List.any_eq_true.mp reenters
  refine List.any_eq_true.mpr ⟨_, member, ?_⟩
  simp only [Bool.and_eq_true, Bool.or_eq_true, Option.isNone_some, Bool.false_eq_true,
    false_or] at entered ⊢
  exact ⟨entered.1, .inr entered.2⟩

/-! ### The nodes that building comes to -/

/-- The main schema, what references stand for, and the nodes for members and elements in those that are
no references. -/
inductive Documents.Reaches (documents : Documents) : Json → Scope → Prop where
  | main : documents.Reaches documents.main .main
  | target {schema target : Json} {scope targetScope : Scope}
      (reaches : documents.Reaches schema scope)
      (resolved : documents.resolve schema scope = .ok (some (target, targetScope))) :
      documents.Reaches target targetScope
  | property {schema property : Json} {scope : Scope} {key : String}
      {properties : List (String × Json)} (reaches : documents.Reaches schema scope)
      (noReference : schema.field? "$ref" = none)
      (declared : (schema.field? "properties").bind Json.members? = some properties)
      (isProperty : (key, property) ∈ properties) : documents.Reaches property scope
  | items {schema each : Json} {scope : Scope} (reaches : documents.Reaches schema scope)
      (noReference : schema.field? "$ref" = none) (found : schema.field? "items" = some each) :
      documents.Reaches each scope
  | position {schema item : Json} {scope : Scope} {tuple : List Json}
      (reaches : documents.Reaches schema scope) (noReference : schema.field? "$ref" = none)
      (found : schema.field? "items" = some (.array tuple)) (isItem : item ∈ tuple) :
      documents.Reaches item scope
  | additionalItems {schema additional : Json} {scope : Scope}
      (reaches : documents.Reaches schema scope) (noReference : schema.field? "$ref" = none)
      (found : schema.field? "additionalItems" = some additional) :
      documents.Reaches additional scope

theorem Documents.Reaches.holds {documents : Documents} {node : Json} {scope : Scope}
    (reaches : documents.Reaches node scope) : documents.Holds node scope := by
  induction reaches with
  | main => exact .refl
  | target _ resolved ih => exact Documents.holds_of_resolve ih resolved
  | property _ _ declared isProperty ih =>
      obtain ⟨written, found, isObject⟩ := Option.bind_eq_some_iff.mp declared
      exact (Relation.ReflTransGen.tail ih ⟨_, .of_field found⟩).tail ⟨_, .member isObject isProperty⟩
  | items _ _ found ih => exact Relation.ReflTransGen.tail ih ⟨_, .of_field found⟩
  | position _ _ found isItem ih =>
      obtain ⟨index, atIndex⟩ := List.mem_iff_getElem?.mp isItem
      exact (Relation.ReflTransGen.tail ih ⟨_, .of_field found⟩).tail ⟨_, .element rfl atIndex⟩
  | additionalItems _ _ found ih => exact Relation.ReflTransGen.tail ih ⟨_, .of_field found⟩

namespace Builder

variable {build : Json → Scope → Site → Option Json → Except Exhausted Built}
  {again : Json → Scope → Site → Option Json → Except Interruption Built}
  {scope : Scope} {site : Site} {limit : Nat}

/-! ### Nodes -/

section Target

variable {Computing : Type → Type} [Monad Computing] {builder : Builder} {target : Json}
  {visit : Json → Scope → Site → Option Json → Computing Built}

private theorem buildTarget_default (value : Option Json) :
    builder.buildTarget visit target scope site value =
      builder.buildTarget visit target scope site (value <|> target.field? "default") := by
  unfold buildTarget
  cases value with
  | some value => rfl
  | none => cases target.field? "default" <;> rfl

private theorem buildTarget_object {properties members : List (String × Json)}
    (declared : (target.field? "properties").bind Json.members? = some properties) :
    builder.buildTarget visit target scope site (some (.object members)) =
      builder.buildObject visit target scope site properties members := by
  unfold buildTarget
  rw [declared]
  rfl

private theorem buildTarget_array {items : Json} {elements : List Json}
    (read : arrayOrObject? (target.field? "items") = some items) :
    builder.buildTarget visit target scope site (some (.array elements)) = do
      return .plain (some (.array (← buildArray visit target scope site.inside items elements))) := by
  unfold buildTarget
  rw [read]
  rfl

private theorem buildTarget_other {value : Json} (plain : target.field? "allOf" = none)
    (noProperties : value.isObject = true →
      (target.field? "properties").bind Json.members? = none)
    (noItems : value.elements?.isSome = true → arrayOrObject? (target.field? "items") = none) :
    builder.buildTarget visit target scope site (some value) = pure (.plain (some value)) := by
  unfold buildTarget
  rw [plain]
  cases value with
  | object members =>
      rw [noProperties rfl]
      rfl
  | array elements =>
      rw [noItems rfl]
      rfl
  | _ => rfl

private theorem buildTarget_nothing (plain : target.field? "allOf" = none)
    (noDefault : target.field? "default" = none) :
    builder.buildTarget visit target scope site none = pure (.plain none) := by
  unfold buildTarget
  rw [plain, noDefault]
  rfl

end Target

section Node

variable {builder : Builder}

private theorem buildTarget_object_repeats {target : Json} {properties members : List (String × Json)}
    {built : Built} (noBranch : site.inBranch = false)
    (declared : (target.field? "properties").bind Json.members? = some properties)
    (distinct : (Entries.names properties).Nodup)
    (repeats : ∀ key property, (key, property) ∈ properties →
      Repeats (build property scope site.inside) (again property scope site.inside)
        site.inside.depth limit)
    (ran : builder.buildTarget build target scope site (some (.object members)) = .ok built) :
    ∃ final, built.value = some final ∧ (site.depth + final.depth ≤ limit →
      Leaves (builder.buildTarget again target scope site) (some final)) := by
  rw [buildTarget_object declared] at ran
  obtain ⟨final, known, second⟩ := buildObject_repeats noBranch distinct repeats ran
  refine ⟨.object final, known, fun inLimit => ?_⟩
  have inside : site.inside.depth + Json.membersDepth final ≤ limit := by
    have deeper : site.inside.depth = site.depth + 1 := rfl
    rw [Json.depth] at inLimit
    omega
  rw [Leaves, buildTarget_object declared, second inside]

private theorem buildTarget_array_repeats {target items : Json} {elements : List Json} {built : Built}
    (read : arrayOrObject? (target.field? "items") = some items)
    (noReference : target.field? "$ref" = none) (reaches : builder.documents.Reaches target scope)
    (repeats : ∀ child, builder.documents.Reaches child scope →
      Repeats (build child scope site.inside) (again child scope site.inside) site.inside.depth
        limit)
    (ran : builder.buildTarget build target scope site (some (.array elements)) = .ok built) :
    ∃ final, built.value = some final ∧ (site.depth + final.depth ≤ limit →
      Leaves (builder.buildTarget again target scope site) (some final)) := by
  rw [buildTarget_array read] at ran
  obtain ⟨final, ranArray, result⟩ := ends_of_bind ran
  obtain rfl := Except.ok.inj result
  have found := arrayOrObject?_eq_some read
  refine ⟨.array final, rfl, fun inLimit => ?_⟩
  have inside : site.inside.depth + Json.elementsDepth final ≤ limit := by
    have deeper : site.inside.depth = site.depth + 1 := rfl
    rw [Json.depth] at inLimit
    omega
  have second : buildArray again target scope site.inside items final = .ok final := by
    apply buildArray_repeats (repeats items (.items reaches noReference found)) _ _ ranArray inside
    · rintro tuple rfl item isItem
      exact repeats item (.position reaches noReference found isItem)
    · intro additional written
      exact repeats additional (.additionalItems reaches noReference written)
  rw [Leaves, buildTarget_array read, bind_of_ends second]
  rfl

private theorem buildTarget_repeats {target : Json} (noBranch : site.inBranch = false)
    (plain : target.field? "allOf" = none)
    (distinct : ∀ properties, (target.field? "properties").bind Json.members? = some properties →
      (Entries.names properties).Nodup)
    (noReference : target.field? "$ref" = none) (reaches : builder.documents.Reaches target scope)
    (repeats : ∀ child, builder.documents.Reaches child scope →
      Repeats (build child scope site.inside) (again child scope site.inside) site.inside.depth
        limit) :
    Repeats (builder.buildTarget build target scope site)
      (builder.buildTarget again target scope site) site.depth limit := by
  intro value built ran
  rw [buildTarget_default] at ran
  generalize given : (value <|> target.field? "default") = start at ran
  cases start with
  | none =>
      have absent : value = none := by
        cases value with
        | none => rfl
        | some value => cases given
      subst absent
      rw [buildTarget_nothing plain given] at ran
      obtain rfl := Except.ok.inj ran
      have nothing : Leaves (builder.buildTarget again target scope site) none :=
        buildTarget_nothing plain given
      have noNull : Leaves (builder.buildTarget again target scope site) (some .null) :=
        buildTarget_other plain nofun nofun
      exact .inr ⟨rfl, rfl, fun _ => ⟨nothing, noNull⟩⟩
  | some start =>
      left
      have unchanged (noProperties : start.isObject = true →
            (target.field? "properties").bind Json.members? = none)
          (noItems : start.elements?.isSome = true →
            arrayOrObject? (target.field? "items") = none) :
          ∃ final, built.value = some final ∧ (site.depth + final.depth ≤ limit →
            Leaves (builder.buildTarget again target scope site) (some final)) := by
        rw [buildTarget_other plain noProperties noItems] at ran
        obtain rfl := Except.ok.inj ran
        exact ⟨start, rfl, fun _ => buildTarget_other plain noProperties noItems⟩
      cases start with
      | object members =>
          cases declared : (target.field? "properties").bind Json.members? with
          | none => exact unchanged (fun _ => declared) nofun
          | some properties =>
              exact buildTarget_object_repeats noBranch declared (distinct properties declared)
                (fun key property isProperty =>
                  repeats property (.property reaches noReference declared isProperty)) ran
      | array elements =>
          cases read : arrayOrObject? (target.field? "items") with
          | none => exact unchanged nofun (fun _ => read)
          | some items => exact buildTarget_array_repeats read noReference reaches repeats ran
      | _ => exact unchanged nofun nofun

theorem buildResolved_other {Computing : Type → Type} [Monad Computing]
    {visit : Json → Scope → Site → Option Json → Computing Built} {schema : Json}
    {value : Option Json}
    (noTarget : schema.isObject = true → ∀ target targetScope,
      builder.documents.resolve schema scope ≠ .ok (some (target, targetScope))) :
    builder.buildResolved visit schema scope site value = pure (.plain value) := by
  unfold buildResolved
  split
  next isObject =>
    have none := noTarget isObject
    split
    next target targetScope resolved => exact absurd resolved (none target targetScope)
    next => rfl
    next => rfl
  next => rfl

theorem buildResolved_target {Computing : Type → Type} [Monad Computing]
    {visit : Json → Scope → Site → Option Json → Computing Built} {schema target : Json}
    {targetScope : Scope} {value : Option Json} (isObject : schema.isObject = true)
    (resolved : builder.documents.resolve schema scope = .ok (some (target, targetScope))) :
    builder.buildResolved visit schema scope site value =
      builder.buildTarget visit target targetScope site value := by
  unfold buildResolved
  rw [if_pos isObject, resolved]

section Reached

variable (distinct : builder.documents.keysDistinct = true)
  (plain : ∀ node scope, builder.documents.Reaches node scope → node.field? "allOf" = none)

include plain

private theorem buildResolved_null {schema : Json} (reaches : builder.documents.Reaches schema scope) :
    Leaves (builder.buildResolved again schema scope site) (some .null) := by
  by_cases found : schema.isObject = true ∧ ∃ target targetScope,
      builder.documents.resolve schema scope = .ok (some (target, targetScope))
  · obtain ⟨isObject, target, targetScope, resolved⟩ := found
    rw [Leaves, buildResolved_target isObject resolved]
    exact buildTarget_other (plain target targetScope (.target reaches resolved)) nofun nofun
  · apply buildResolved_other
    intro isObject target targetScope resolved
    exact found ⟨isObject, target, targetScope, resolved⟩

include distinct

private theorem buildResolved_repeats {schema : Json} (noBranch : site.inBranch = false)
    (reaches : builder.documents.Reaches schema scope)
    (repeats : ∀ child childScope, builder.documents.Reaches child childScope →
      Repeats (build child childScope site.inside) (again child childScope site.inside)
        site.inside.depth limit) :
    Repeats (builder.buildResolved build schema scope site)
      (builder.buildResolved again schema scope site) site.depth limit := by
  by_cases found : schema.isObject = true ∧ ∃ target targetScope,
      builder.documents.resolve schema scope = .ok (some (target, targetScope))
  · obtain ⟨isObject, target, targetScope, resolved⟩ := found
    have reachesTarget : builder.documents.Reaches target targetScope := .target reaches resolved
    have distinctProperties : ∀ properties,
        (target.field? "properties").bind Json.members? = some properties →
        (Entries.names properties).Nodup := by
      intro properties declared
      obtain ⟨written, atProperties, isObject⟩ := Option.bind_eq_some_iff.mp declared
      have holds := Relation.ReflTransGen.tail reachesTarget.holds ⟨_, .of_field atProperties⟩
      exact Json.nodup_names isObject (Documents.keysDistinct_of_holds distinct holds)
    have sameTarget := buildTarget_repeats noBranch (plain target targetScope reachesTarget)
      distinctProperties (Documents.noReference_of_resolve resolved) reachesTarget
      fun child reachesChild => repeats child targetScope reachesChild
    exact .of_eq (fun _ => buildResolved_target isObject resolved)
      (fun _ => buildResolved_target isObject resolved) sameTarget
  · have noTarget : schema.isObject = true → ∀ target targetScope,
        builder.documents.resolve schema scope ≠ .ok (some (target, targetScope)) :=
      fun isObject target targetScope resolved => found ⟨isObject, target, targetScope, resolved⟩
    exact repeats_of_leaves (fun _ => buildResolved_other noTarget)
      fun _ => buildResolved_other noTarget

private theorem buildNode_repeats {schema : Json} (noBranch : site.inBranch = false)
    (reaches : builder.documents.Reaches schema scope)
    (repeats : ∀ child childScope childSite, builder.documents.Reaches child childScope →
      childSite.inBranch = false →
      Repeats (build child childScope childSite) (again child childScope childSite)
        childSite.depth limit) :
    Repeats (builder.buildNode build schema scope site) (builder.buildNode again schema scope site)
      site.depth limit := by
  have resolved (entered : Site) (noBranch : entered.inBranch = false) :
      Repeats (builder.buildResolved build schema scope entered)
        (builder.buildResolved again schema scope entered) entered.depth limit :=
    buildResolved_repeats distinct plain noBranch reaches fun child childScope reachesChild =>
      repeats child childScope entered.inside reachesChild rfl
  cases named : (schema.field? "$ref").bind Json.string? with
  | none =>
      have same {Computing : Type → Type} [Monad Computing]
          (visit : Json → Scope → Site → Option Json → Computing Built) (value : Option Json) :
          builder.buildNode visit schema scope site value =
            builder.buildResolved visit schema scope site value := by
        unfold buildNode
        rw [named]
      exact .of_eq (same build) (same again) (resolved site noBranch)
  | some reference =>
      have inner := resolved (site.expand scope reference) noBranch
      have kept {Computing : Type → Type} [Monad Computing]
          (visit : Json → Scope → Site → Option Json → Computing Built) {value : Option Json}
          (reenters : site.reenters scope reference value = true) :
          builder.buildNode visit schema scope site value = pure (.plain value) := by
        unfold buildNode
        rw [named]
        dsimp only
        rw [if_pos reenters]
      have expands {Computing : Type → Type} [Monad Computing]
          (visit : Json → Scope → Site → Option Json → Computing Built) {value : Option Json}
          (new : ¬site.reenters scope reference value = true) :
          builder.buildNode visit schema scope site value =
            builder.buildResolved visit schema scope (site.expand scope reference) value :=
        buildNode_reference named (eq_false_of_ne_true new)
      have null : Leaves (builder.buildNode again schema scope site) (some .null) := by
        by_cases reenters : site.reenters scope reference (some .null) = true
        · exact kept again reenters
        · rw [Leaves, expands again reenters]
          exact buildResolved_null plain reaches
      intro value built ran
      by_cases reenters : site.reenters scope reference value = true
      · rw [kept build reenters] at ran
        obtain rfl := Except.ok.inj ran
        cases value with
        | none => exact .inr ⟨rfl, rfl, fun _ => ⟨kept again reenters, null⟩⟩
        | some value => exact .inl ⟨value, rfl, fun _ => kept again reenters⟩
      · rw [expands build reenters] at ran
        rcases inner value built ran with ⟨final, known, leaves⟩ | ⟨nothing, rfl, leaves⟩
        · refine .inl ⟨final, known, fun inLimit => ?_⟩
          have new : ¬site.reenters scope reference (some final) = true :=
            fun present => reenters (Site.reenters_of_present present value)
          rw [Leaves, expands again new]
          exact leaves inLimit
        · refine .inr ⟨nothing, rfl, fun inLimit => ⟨?_, null⟩⟩
          rw [Leaves, expands again reenters]
          exact (leaves inLimit).1

/-- What has been built is left as it is, wherever building comes to. The induction is on the budget, which
both runs share. -/
theorem build_repeats {budget : Nat} {schema : Json} (noBranch : site.inBranch = false)
    (reaches : builder.documents.Reaches schema scope) :
    Repeats (builder.build budget schema scope site)
      (builder.buildWithin limit budget schema scope site) site.depth limit := by
  induction budget generalizing schema scope site with
  | zero =>
      intro value built ran
      cases ran
  | succ budget ih =>
      have atNode : Repeats (builder.buildNode (builder.build budget) schema scope site)
          (builder.buildNode (builder.buildWithin limit budget) schema scope site) site.depth limit :=
        buildNode_repeats distinct plain noBranch reaches
          fun child childScope childSite reachesChild noBranchThere => ih noBranchThere reachesChild
      intro value built ran
      rcases atNode value built ran with ⟨final, known, leaves⟩ | ⟨nothing, absent, leaves⟩
      · refine .inl ⟨final, known, fun inLimit => ?_⟩
        rw [Leaves, buildWithin_succ (by omega)]
        exact leaves inLimit
      · refine .inr ⟨nothing, absent, fun inLimit => ?_⟩
        rw [Leaves, Leaves, buildWithin_succ inLimit, buildWithin_succ inLimit]
        exact leaves inLimit

end Reached

end Node

/-! ### Whole runs -/

variable {builder : Builder} {value : Option Json} {built : Built}

/-- A run that stays within a limit ends with any budget for the steps that there are within it. -/
theorem build_of_buildWithin {budget enough : Nat}
    (ends : builder.buildWithin limit budget builder.documents.main .main .start value = .ok built)
    (steps : builder.steps limit ≤ enough) :
    builder.build enough builder.documents.main .main .start value = .ok built := by
  have holds : builder.documents.Holds builder.documents.main .main := .refl
  have less : builder.stepsLeft limit builder.documents.main .start < enough :=
    Nat.lt_of_lt_of_le (stepsLeft_lt_steps holds) steps
  have more : enough ≤ max budget enough := Nat.le_max_right budget enough
  obtain ⟨same, _⟩ : Settled
      (builder.buildWithin limit enough builder.documents.main .main .start value)
      (builder.buildWithin limit (max budget enough) builder.documents.main .main .start value) :=
    buildWithin_settled holds (Nat.zero_le limit) less (Nat.lt_of_lt_of_le less more)
  apply buildWithin_endsIn_build
  rw [same]
  rcases buildWithin_settlesIn (Nat.le_max_left budget enough) with exhausted | equal
  · rw [ends] at exhausted
    cases exhausted
  · rw [← equal, ends]

/-- The budget of a run suffices as long as the run goes no deeper than its value. -/
theorem steps_le_budget (builder : Builder) (value : Json) :
    builder.steps value.depth ≤ builder.budget (some value) := by
  have few : builder.documents.references.toFinset.card + 1 ≤ builder.documents.weight + 2 :=
    Nat.succ_le_succ (Nat.le_succ_of_le builder.documents.references_card_le)
  have perReference : builder.stepsPerReference ≤ builder.documents.weight + 2 := Nat.le_succ _
  have perLevel : builder.stepsPerLevel ≤ (builder.documents.weight + 2) ^ 2 := by
    rw [Nat.pow_two]
    exact Nat.mul_le_mul few perReference
  have power : (builder.documents.weight + 2) ^ 2 ≤ (builder.documents.weight + 2) ^ 4 :=
    Nat.pow_le_pow_right (Nat.succ_pos _) (by omega)
  calc builder.steps value.depth
      = builder.stepsPerLevel * (value.depth + 1) := Nat.mul_comm _ _
    _ ≤ (builder.documents.weight + 2) ^ 4 * (value.depth + 2) :=
        Nat.mul_le_mul (Nat.le_trans perLevel power) (Nat.le_succ _)

end Builder

/-- Building again changes nothing. For a schema none of whose nodes that building comes to has `allOf`,
whatever a run makes of a value, or of none, is left exactly as it is by the next run. The first run may
have taken any budget; the second ends within its own. -/
theorem Validator.build_idempotent {validator : Validator} {additionalAllowed : Bool}
    {value : Option Json} {budget : Nat} {built : Built} {final : Json}
    (distinct : validator.documents.keysDistinct = true)
    (plain : ∀ node scope, validator.documents.Reaches node scope → node.field? "allOf" = none)
    (ends : Builder.build ⟨validator.documents, additionalAllowed⟩ budget validator.documents.main
      .main .start value = .ok built)
    (gives : built.value = some final) :
    validator.build (some final) additionalAllowed = .ok (some final) := by
  let builder : Builder := ⟨validator.documents, additionalAllowed⟩
  have repeats : Builder.Repeats (builder.build budget builder.documents.main .main .start)
      (builder.buildWithin final.depth budget builder.documents.main .main .start)
      Site.start.depth final.depth :=
    Builder.build_repeats distinct plain rfl .main
  have inLimit : Site.start.depth + final.depth ≤ final.depth := by
    rw [Site.depth_start, Nat.zero_add]
  have second : Builder.Leaves
      (builder.buildWithin final.depth budget builder.documents.main .main .start) (some final) :=
    repeats.present ⟨value, built, ends, gives⟩ inLimit
  have ran := Builder.build_of_buildWithin second (builder.steps_le_budget final)
  change Builder.run builder (some final) = _
  unfold Builder.run
  rw [bind_of_ends ran]
  rfl

/-- A link with a name, a further link, and two ends. The reference is opened for a link that is there and
not for an absent one; the first end is made only as a null before the second. -/
def linkNodes : List Json :=
  let name := .object [("default", .string "link")]
  let next := .object [("$ref", .string "#")]
  let ends := .object [("default", .array []), ("items", .array [next, name])]
  let link := .object [("properties", .object [("name", name), ("next", next), ("ends", ends)]),
    ("additionalProperties", .bool false)]
  [link, name, next, ends, .array [next, name]]

def linkDocuments : Documents := ⟨linkNodes.headD .null, [], false⟩

private theorem mem_linkNodes {node : Json} {scope : Scope} (reaches : linkDocuments.Reaches node scope) :
    node ∈ linkNodes ∧ scope = .main := by
  have targets : ∀ node ∈ linkNodes,
      linkDocuments.resolve node .main = .ok (some (node, .main)) ∨
        linkDocuments.resolve node .main = .ok (some (linkDocuments.main, .main)) := by
    decide +kernel
  have properties : ∀ node ∈ linkNodes,
      ∀ members ∈ ((node.field? "properties").bind Json.members?).toList,
      ∀ member ∈ members, member.2 ∈ linkNodes := by decide +kernel
  have items : ∀ node ∈ linkNodes, ∀ each ∈ (node.field? "items").toList,
      each ∈ linkNodes ∧ ∀ item ∈ each.elements?.getD [], item ∈ linkNodes := by decide +kernel
  have noMore : ∀ node ∈ linkNodes, node.field? "additionalItems" = none := by decide +kernel
  induction reaches with
  | main => exact ⟨List.mem_cons_self, rfl⟩
  | target _ resolved ih =>
      obtain ⟨isNode, rfl⟩ := ih
      rcases targets _ isNode with itself | whole
      · rw [itself] at resolved
        cases resolved
        exact ⟨isNode, rfl⟩
      · rw [whole] at resolved
        cases resolved
        exact ⟨List.mem_cons_self, rfl⟩
  | property _ _ declared isProperty ih =>
      exact ⟨properties _ ih.1 _ (Option.mem_toList.mpr declared) _ isProperty, ih.2⟩
  | items _ _ found ih => exact ⟨(items _ ih.1 _ (Option.mem_toList.mpr found)).1, ih.2⟩
  | position _ _ found isItem ih =>
      exact ⟨(items _ ih.1 _ (Option.mem_toList.mpr found)).2 _ isItem, ih.2⟩
  | additionalItems _ _ found ih =>
      rw [noMore _ ih.1] at found
      cases found

theorem Validator.build_idempotent_link :
    ∃ validator, Validator.compile linkDocuments.main .default = .ok validator ∧
      let given : Json := .object [("next", .object [("other", .null)])]
      let link : List (String × Json) :=
        [("name", .string "link"), ("ends", .array [.null, .string "link"])]
      let final : Json := .object (("next", .object link) :: link)
      validator.build (some given) false = .ok (some final) ∧
        validator.build (some final) false = .ok (some final) := by
  have compiles : (Validator.compile linkDocuments.main .default).isOk = true := by decide +kernel
  cases compiled : Validator.compile linkDocuments.main .default with
  | error stop =>
      rw [compiled] at compiles
      cases compiles
  | ok validator =>
      obtain ⟨_, _, documents, _⟩ := Validator.compile_eq_ok compiled
      have isLink : validator.documents = linkDocuments := documents
      refine ⟨validator, rfl, ?_⟩
      intro given link final
      have first : Builder.run ⟨linkDocuments, false⟩ (some given) = .ok (some final) := rfl
      rw [← isLink] at first
      obtain ⟨built, ends, result⟩ := ends_of_bind first
      refine ⟨first, Validator.build_idempotent ?_ ?_ ends (Except.ok.inj result)⟩
      · rw [isLink]
        decide +kernel
      · intro node scope reaches
        rw [isLink] at reaches
        have plain : ∀ node ∈ linkNodes, node.field? "allOf" = none := by decide +kernel
        exact plain node (mem_linkNodes reaches).1

end JsonSchema
