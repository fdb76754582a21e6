import JsonSchema.Proofs.Building.Calls
import JsonSchema.Proofs.Building.References
import JsonSchema.Validator

set_option autoImplicit false

/-! When building ends. As long as it stays at one depth of the value, each call opens one reference
more or goes to a smaller schema, and the documents have only so many references. So a run that never
ends goes ever deeper into the value, which it has to make itself on the way, default by default. -/

namespace JsonSchema

namespace Site

@[simp] theorem depth_start : start.depth = 0 := rfl

/-- The references that are being expanded since the depth of the site was reached. -/
def expandingHere (site : Site) : List (Scope × String) :=
  site.expanding.filterMap fun (scope, reference, depth) =>
    if depth = site.depth then some (scope, reference) else none

@[simp] theorem mem_expandingHere {site : Site} {scope : Scope} {reference : String} :
    (scope, reference) ∈ site.expandingHere ↔ (scope, reference, site.depth) ∈ site.expanding := by
  simp [expandingHere]

@[simp] theorem expandingHere_expand (site : Site) (scope : Scope) (reference : String) :
    (site.expand scope reference).expandingHere = (scope, reference) :: site.expandingHere := by
  unfold expandingHere
  exact List.filterMap_cons_some (if_pos rfl)

end Site

namespace Builder

inductive Interruption where
  | tooDeep
  | exhausted

/-- Builds like `build`, but stops where it would go deeper into the value than the limit. -/
def buildWithin (builder : Builder) (limit : Nat) :
    Nat → Json → Scope → Site → Option Json → Except Interruption Built
  | 0, _, _, _, _ => .error .exhausted
  | budget + 1, schema, scope, site, value =>
      if limit < site.depth then .error .tooDeep
      else builder.buildNode (builder.buildWithin limit budget) schema scope site value

variable {builder : Builder} {schema child : Json} {scope childScope : Scope} {site childSite : Site}
  {value : Option Json} {limit : Nat}

theorem buildWithin_succ (inLimit : site.depth ≤ limit) (budget : Nat) :
    builder.buildWithin limit (budget + 1) schema scope site value =
      builder.buildNode (builder.buildWithin limit budget) schema scope site value := by
  rw [buildWithin, if_neg (Nat.not_lt.mpr inLimit)]

private theorem buildWithin_tooDeep {budget : Nat} (beyond : limit < site.depth) (positive : 0 < budget) :
    builder.buildWithin limit budget schema scope site value = .error .tooDeep := by
  cases budget with
  | zero => omega
  | succ budget => rw [buildWithin, if_pos beyond]

/-! ### What calls keep and what they use up -/

theorem Opens.depth_eq {target : Json} {targetScope : Scope} {entered : Site}
    (opens : builder.Opens schema scope site target targetScope entered) :
    entered.depth = site.depth := by
  cases opens with
  | plain => rfl
  | reference => rfl

theorem Calls.depth_le (calls : builder.Calls schema scope site child childScope childSite) :
    childSite.depth ≤ site.depth + 1 := by
  cases calls with
  | inside opens =>
      rw [← opens.depth_eq]
      exact Nat.le_refl _
  | branch opens =>
      rw [← opens.depth_eq]
      exact Nat.le_succ _

theorem Opens.holds {target : Json} {targetScope : Scope} {entered : Site}
    (holds : builder.documents.Holds schema scope)
    (opens : builder.Opens schema scope site target targetScope entered) :
    builder.documents.Holds target targetScope := Documents.holds_of_resolve holds opens.resolved

theorem Calls.holds (holds : builder.documents.Holds schema scope)
    (calls : builder.Calls schema scope site child childScope childSite) :
    builder.documents.Holds child childScope := by
  cases calls with
  | inside opens isInside => exact Relation.ReflTransGen.trans (opens.holds holds) isInside.to_reflTransGen
  | branch opens isInside => exact Relation.ReflTransGen.trans (opens.holds holds) isInside.to_reflTransGen

def referencesLeft (builder : Builder) (site : Site) : Nat :=
  leftOf builder.documents.references.toFinset site.expandingHere

def stepsPerReference (builder : Builder) : Nat := builder.documents.weight + 1

def stepsPerLevel (builder : Builder) : Nat :=
  (builder.documents.references.toFinset.card + 1) * builder.stepsPerReference

def steps (builder : Builder) (limit : Nat) : Nat := (limit + 1) * builder.stepsPerLevel

def stepsHere (builder : Builder) (schema : Json) (site : Site) : Nat :=
  builder.referencesLeft site * builder.stepsPerReference + schema.weight

def stepsLeft (builder : Builder) (limit : Nat) (schema : Json) (site : Site) : Nat :=
  (limit - site.depth) * builder.stepsPerLevel + builder.stepsHere schema site

private theorem referencesLeft_expand_lt {reference : String}
    (holds : builder.documents.Holds schema scope)
    (named : (schema.field? "$ref").bind Json.string? = some reference)
    (new : (scope, reference, site.depth) ∉ site.expanding) :
    builder.referencesLeft (site.expand scope reference) < builder.referencesLeft site := by
  unfold referencesLeft
  rw [Site.expandingHere_expand]
  apply leftOf_cons_lt
  · exact List.mem_toFinset.mpr (Documents.mem_references holds named)
  · exact fun member => new (Site.mem_expandingHere.mp member)

private theorem weight_lt_stepsPerReference (holds : builder.documents.Holds schema scope) :
    schema.weight < builder.stepsPerReference :=
  Nat.lt_succ_of_le (Documents.weight_le_of_holds holds)

private theorem stepsHere_lt (holds : builder.documents.Holds schema scope) :
    builder.stepsHere schema site < builder.stepsPerLevel := by
  have few : builder.referencesLeft site < builder.documents.references.toFinset.card + 1 :=
    Nat.lt_succ_of_le (leftOf_le _ _)
  have below : builder.stepsHere schema site < builder.stepsPerLevel + 0 :=
    digits_lt few (weight_lt_stepsPerReference holds)
  exact below

theorem stepsLeft_lt_steps (holds : builder.documents.Holds schema scope) :
    builder.stepsLeft limit schema site < builder.steps limit := by
  have few : limit - site.depth < limit + 1 := Nat.lt_succ_of_le (Nat.sub_le _ _)
  have below : builder.stepsLeft limit schema site < builder.steps limit + 0 :=
    digits_lt few (stepsHere_lt holds)
  exact below

/-- One level deeper the whole of a level is at hand, but one level less is left. -/
theorem stepsLeft_lt_of_inside {entered : Site} (sameDepth : entered.depth = site.depth)
    (inLimit : entered.inside.depth ≤ limit) (holds : builder.documents.Holds child childScope) :
    builder.stepsLeft limit child entered.inside < builder.stepsLeft limit schema site := by
  have deeper : entered.inside.depth = site.depth + 1 := congrArg Nat.succ sameDepth
  have fewer : limit - entered.inside.depth < limit - site.depth := by omega
  exact digits_lt fewer (stepsHere_lt holds)

/-- At the same depth either a reference has been opened or the child is a part of the node itself. -/
theorem stepsHere_lt_of_branch {target : Json} {targetScope : Scope} {entered : Site}
    (holds : builder.documents.Holds schema scope)
    (opens : builder.Opens schema scope site target targetScope entered)
    (isInside : target.HoldsInside child) :
    builder.stepsHere child entered.branch < builder.stepsHere schema site := by
  have smaller := isInside.weight_lt
  cases opens with
  | plain noReference resolved =>
      obtain rfl := Documents.resolve_plain noReference resolved
      exact Nat.add_lt_add_left smaller _
  | reference named new resolved =>
      have bound := weight_lt_stepsPerReference (Documents.holds_of_resolve holds resolved)
      exact digits_lt (referencesLeft_expand_lt holds named new) (Nat.lt_trans smaller bound)

theorem Calls.stepsLeft_lt (holds : builder.documents.Holds schema scope)
    (calls : builder.Calls schema scope site child childScope childSite)
    (inLimit : childSite.depth ≤ limit) :
    builder.stepsLeft limit child childSite < builder.stepsLeft limit schema site := by
  have childHolds := calls.holds holds
  cases calls with
  | inside opens isInside => exact stepsLeft_lt_of_inside opens.depth_eq inLimit childHolds
  | @branch target _ targetScope entered opens isInside =>
      have sameDepth : entered.branch.depth = site.depth := opens.depth_eq
      unfold stepsLeft
      rw [sameDepth]
      exact Nat.add_lt_add_left (stepsHere_lt_of_branch holds opens isInside) _

/-! ### Runs with and without a limit -/

/-- The first run is given up, or both come to the same. -/
def SettlesIn {Answer : Type} (left right : Except Interruption Answer) : Prop :=
  left = .error .exhausted ∨ left = right

private theorem compatible_settlesIn :
    Compatible (Except Interruption) (Except Interruption) @SettlesIn := by
  constructor
  · intro _ answer
    exact .inr rfl
  · intro _ _ left right leftNext rightNext settles next
    rcases settles with rfl | rfl
    · exact .inl rfl
    · cases left with
      | error stop => exact .inr rfl
      | ok answer => exact next answer

theorem buildWithin_settlesIn {budget larger : Nat} (enough : budget ≤ larger) :
    SettlesIn (builder.buildWithin limit budget schema scope site value)
      (builder.buildWithin limit larger schema scope site value) := by
  induction budget generalizing larger schema scope site value with
  | zero => exact .inl rfl
  | succ budget ih =>
      cases larger with
      | zero => omega
      | succ larger =>
          by_cases inLimit : site.depth ≤ limit
          · rw [buildWithin_succ inLimit, buildWithin_succ inLimit]
            apply buildNode_match compatible_settlesIn
            intro child childScope childSite _ value
            exact ih (Nat.le_of_succ_le_succ enough)
          · have beyond := Nat.lt_of_not_le inLimit
            rw [buildWithin_tooDeep beyond budget.succ_pos, buildWithin_tooDeep beyond larger.succ_pos]
            exact .inr rfl

/-- A run that ends within a limit does not go beyond it, however long it may go on. -/
theorem ne_tooDeep_of_ends {enough : Nat} {built : Built}
    (ends : builder.buildWithin limit enough schema scope site value = .ok built) (budget : Nat) :
    builder.buildWithin limit budget schema scope site value ≠ .error .tooDeep := by
  intro deep
  rcases Nat.le_total budget enough with less | more
  · rcases buildWithin_settlesIn less with exhausted | same
    · rw [deep] at exhausted
      cases exhausted
    · rw [deep, ends] at same
      cases same
  · rcases buildWithin_settlesIn more with exhausted | same
    · rw [ends] at exhausted
      cases exhausted
    · rw [ends, deep] at same
      cases same

def Settled {Answer : Type} (left right : Except Interruption Answer) : Prop :=
  left = right ∧ left ≠ .error .exhausted

private theorem compatible_settled :
    Compatible (Except Interruption) (Except Interruption) @Settled := by
  constructor
  · intro _ answer
    exact ⟨rfl, fun impossible => by cases impossible⟩
  · intro _ _ left right leftNext rightNext settled next
    obtain ⟨rfl, notExhausted⟩ := settled
    cases left with
    | error stop => exact ⟨rfl, fun exhausted => notExhausted (congrArg _ (Except.error.inj exhausted))⟩
    | ok answer => exact next answer

private theorem stepsLeft_pos : 0 < builder.stepsLeft limit schema site := by
  have weight := schema.weight_pos
  unfold stepsLeft stepsHere
  omega

/-- A run that may not go beyond a limit always comes to something: what is left to do gets less with
each call. -/
theorem buildWithin_settled {budget other : Nat} (holds : builder.documents.Holds schema scope)
    (inLimit : site.depth ≤ limit) (enough : builder.stepsLeft limit schema site < budget)
    (otherEnough : builder.stepsLeft limit schema site < other) :
    Settled (builder.buildWithin limit budget schema scope site value)
      (builder.buildWithin limit other schema scope site value) := by
  induction budget generalizing other schema scope site value with
  | zero => omega
  | succ budget ih =>
      cases other with
      | zero => omega
      | succ other =>
          rw [buildWithin_succ inLimit, buildWithin_succ inLimit]
          apply buildNode_match compatible_settled
          intro child childScope childSite calls value
          by_cases childInLimit : childSite.depth ≤ limit
          · have less := calls.stepsLeft_lt holds childInLimit
            exact ih (calls.holds holds) childInLimit (by omega) (by omega)
          · have beyond := Nat.lt_of_not_le childInLimit
            have positive : 0 < builder.stepsLeft limit schema site := stepsLeft_pos
            rw [buildWithin_tooDeep beyond (by omega), buildWithin_tooDeep beyond (by omega)]
            exact ⟨rfl, fun impossible => by cases impossible⟩

theorem buildWithin_endsIn_build (budget : Nat) :
    EndsIn (builder.buildWithin limit budget schema scope site value)
      (builder.build budget schema scope site value) := by
  induction budget generalizing schema scope site value with
  | zero =>
      intro built ends
      cases ends
  | succ budget ih =>
      by_cases inLimit : site.depth ≤ limit
      · rw [buildWithin_succ inLimit]
        apply buildNode_match compatible_endsIn
        intro child childScope childSite _ value
        exact ih
      · intro built ends
        rw [buildWithin_tooDeep (Nat.lt_of_not_le inLimit) budget.succ_pos] at ends
        cases ends

/-- A run goes no deeper than the calls that it has left. -/
theorem build_endsIn_buildWithin {budget : Nat} (shallow : site.depth + budget ≤ limit + 1) :
    EndsIn (builder.build budget schema scope site value)
      (builder.buildWithin limit budget schema scope site value) := by
  induction budget generalizing schema scope site value with
  | zero =>
      intro built ends
      cases ends
  | succ budget ih =>
      have inLimit : site.depth ≤ limit := by omega
      rw [buildWithin_succ inLimit]
      apply buildNode_match compatible_endsIn
      intro child childScope childSite calls value
      have depth := calls.depth_le
      exact ih (by omega)

/-- Building ends exactly if there is a depth of the value that it never goes beyond. -/
theorem build_ends_iff_stays_within (builder : Builder) (value : Option Json) :
    (∃ budget built, builder.build budget builder.documents.main .main .start value = .ok built) ↔
      ∃ limit, ∀ budget,
        builder.buildWithin limit budget builder.documents.main .main .start value ≠
          .error .tooDeep := by
  constructor
  · rintro ⟨enough, built, ends⟩
    refine ⟨enough, fun budget => ?_⟩
    have shallow : Site.start.depth + enough ≤ enough + 1 := by
      rw [Site.depth_start]
      omega
    exact ne_tooDeep_of_ends (build_endsIn_buildWithin shallow built ends) budget
  · rintro ⟨limit, shallow⟩
    have holds : builder.documents.Holds builder.documents.main .main := .refl
    have enough : builder.stepsLeft limit builder.documents.main .start < builder.steps limit :=
      stepsLeft_lt_steps holds
    have inLimit : Site.start.depth ≤ limit := Nat.zero_le limit
    cases run : builder.buildWithin limit (builder.steps limit) builder.documents.main .main .start
        value with
    | ok built => exact ⟨_, built, buildWithin_endsIn_build _ built run⟩
    | error stop =>
        cases stop with
        | tooDeep => exact absurd run (shallow _)
        | exhausted => exact absurd run (buildWithin_settled holds inLimit enough enough).2

/-! ### A default that grows again

The default of a property brings a member, and the schema of that member refers back to the schema that
has the property. Each time round the reference is entered two levels deeper, over a value that is
there, and so it does not count as entered again. -/

section Stops

variable {build : Json → Scope → Site → Option Json → Except Exhausted Built} {property : Json}
  {key : String} {properties members : List (String × Json)} {stop : Exhausted}

private theorem completeMembers_stops_absent (absent : members.lookup key = none)
    (stops : build property scope site none = .error stop) :
    completeMembers build scope site ((key, property) :: properties) members = .error stop := by
  unfold completeMembers
  rw [absent]
  dsimp only
  rw [stops]
  rfl

private theorem completeMembers_stops_present {member : Json} (present : members.lookup key = some member)
    (stops : build property scope site (some member) = .error stop) :
    completeMembers build scope site ((key, property) :: properties) members = .error stop := by
  unfold completeMembers rebuild
  rw [present]
  dsimp only
  rw [stops]
  rfl

private theorem buildObject_stops
    (stops : completeMembers build scope site.inside properties members = .error stop) :
    builder.buildObject build schema scope site properties members = .error stop := by
  unfold buildObject
  rw [stops]
  rfl

end Stops

theorem buildNode_reference {Computing : Type → Type} [Monad Computing]
    {visit : Json → Scope → Site → Option Json → Computing Built} {reference : String}
    (named : (schema.field? "$ref").bind Json.string? = some reference)
    (new : site.reenters scope reference value = false) :
    builder.buildNode visit schema scope site value =
      builder.buildResolved visit schema scope (site.expand scope reference) value := by
  unfold buildNode
  rw [named]
  dsimp only
  rw [new]
  rfl

def backReference : Json := .object [("$ref", .string "#")]

def growingProperty : Json :=
  .object [("default", .object [("k", .object [])]),
    ("properties", .object [("k", backReference)])]

def regrowing : Json := .object [("properties", .object [("p", growingProperty)])]

def EnteredAbove (site : Site) : Prop := ∀ entry ∈ site.expanding, entry.2.2 < site.depth

theorem EnteredAbove.inside {site : Site} (above : EnteredAbove site) : EnteredAbove site.inside := by
  intro entry member
  exact Nat.lt_succ_of_lt (above entry member)

theorem EnteredAbove.expand_inside {site : Site} (above : EnteredAbove site) (scope : Scope)
    (reference : String) : EnteredAbove (site.expand scope reference).inside := by
  intro entry member
  rcases List.mem_cons.mp member with rfl | earlier
  · exact Nat.lt_succ_self _
  · exact Nat.lt_succ_of_lt (above entry earlier)

theorem EnteredAbove.not_reenters {site : Site} (above : EnteredAbove site) (scope : Scope)
    (reference : String) (value : Json) : site.reenters scope reference (some value) = false := by
  apply List.any_eq_false.mpr
  intro entry member
  have different : entry.2.2 ≠ site.depth := Nat.ne_of_lt (above entry member)
  simp [different]

private theorem regrowing_goes_on (additionalAllowed : Bool) (budget : Nat) {site : Site}
    (above : EnteredAbove site) :
    build ⟨⟨regrowing, [], false⟩, additionalAllowed⟩ budget growingProperty .main site none =
        .error ⟨⟩ ∧
      build ⟨⟨regrowing, [], false⟩, additionalAllowed⟩ budget backReference .main site
        (some (.object [])) = .error ⟨⟩ := by
  induction budget generalizing site with
  | zero => exact ⟨rfl, rfl⟩
  | succ budget ih =>
      constructor
      · have again := (ih above.inside).2
        exact buildObject_stops (completeMembers_stops_present rfl again)
      · have again := (ih (above.expand_inside .main "#")).1
        have opened := above.not_reenters .main "#" (.object [])
        unfold build
        rw [buildNode_reference rfl opened]
        exact buildObject_stops (completeMembers_stops_absent rfl again)

theorem regrowing_never_ends :
    ∃ validator, Validator.compile regrowing .default = .ok validator ∧
      ∀ additionalAllowed budget, build ⟨validator.documents, additionalAllowed⟩ budget
        validator.documents.main .main .start (some (.object [])) = .error ⟨⟩ := by
  have compiles : (Validator.compile regrowing .default).isOk = true := by decide +kernel
  cases compiled : Validator.compile regrowing .default with
  | error stop =>
      rw [compiled] at compiles
      cases compiles
  | ok validator =>
      obtain ⟨_, _, documents, _⟩ := Validator.compile_eq_ok compiled
      refine ⟨validator, rfl, fun additionalAllowed budget => ?_⟩
      rw [documents]
      cases budget with
      | zero => rfl
      | succ budget =>
          have above : EnteredAbove Site.start.inside := fun entry member => by cases member
          have again := (regrowing_goes_on additionalAllowed budget above).1
          exact buildObject_stops (completeMembers_stops_absent rfl again)

end Builder

end JsonSchema
