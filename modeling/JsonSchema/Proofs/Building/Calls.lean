import JsonSchema.Building
import JsonSchema.Proofs.Compatible
import JsonSchema.Proofs.Locations

set_option autoImplicit false

/-! Which nodes the building of one node goes on to. What a node stands for is opened, with its reference,
if it has one, being expanded from there on; then nodes inside are built, one level deeper in the
value, or at the same level for branches of `allOf`. Nothing else is asked of the runs inside, which is
`Builder.buildNode_match`. -/

namespace JsonSchema

namespace Builder

/-- What building a node works on, and where. A reference that is being expanded at the same depth of the
value is never opened. -/
inductive Opens (builder : Builder) (schema : Json) (scope : Scope) (site : Site) :
    Json → Scope → Site → Prop where
  | plain {target : Json} {targetScope : Scope}
      (noReference : (schema.field? "$ref").bind Json.string? = none)
      (resolved : builder.documents.resolve schema scope = .ok (some (target, targetScope))) :
      Opens builder schema scope site target targetScope site
  | reference {reference : String} {target : Json} {targetScope : Scope}
      (named : (schema.field? "$ref").bind Json.string? = some reference)
      (new : (scope, reference, site.depth) ∉ site.expanding)
      (resolved : builder.documents.resolve schema scope = .ok (some (target, targetScope))) :
      Opens builder schema scope site target targetScope (site.expand scope reference)

theorem Opens.resolved {builder : Builder} {schema target : Json} {scope targetScope : Scope}
    {site entered : Site} (opens : builder.Opens schema scope site target targetScope entered) :
    builder.documents.resolve schema scope = .ok (some (target, targetScope)) := by
  cases opens with
  | plain _ resolved => exact resolved
  | reference _ _ resolved => exact resolved

/-! ### Tasks -/

/-- What is to be built with a node inside another one. It has a place in the value, except for a branch of
`allOf`, which works on the whole. -/
structure Task where
  place : Option Step
  schema : Json

namespace Task

def member (property : String × Json) : Task := ⟨some (.member property.1), property.2⟩

def element (schema : Json) (index : Nat) : Task := ⟨some (.element index), schema⟩

def branch (schema : Json) : Task := ⟨none, schema⟩

def site (task : Task) (site : Site) : Site :=
  match task.place with
  | some _ => site.inside
  | none => site.branch

end Task

inductive IsTask (schema : Json) : Task → Prop where
  | member {properties : List (String × Json)} {property : String × Json}
      (declared : (schema.field? "properties").bind Json.members? = some properties)
      (isProperty : property ∈ properties) : IsTask schema (.member property)
  | position {tuple : List Json} {item : Json} {index : Nat}
      (found : schema.field? "items" = some (.array tuple)) (isItem : tuple[index]? = some item) :
      IsTask schema (.element item index)
  | additional {tuple : List Json} {inner : List (String × Json)} {index : Nat}
      (found : schema.field? "items" = some (.array tuple))
      (written : schema.field? "additionalItems" = some (.object inner))
      (beyond : tuple.length ≤ index) : IsTask schema (.element (.object inner) index)
  | each {members : List (String × Json)} {index : Nat}
      (found : schema.field? "items" = some (.object members)) :
      IsTask schema (.element (.object members) index)
  | branch {branches : List Json} {branch : Json}
      (found : schema.field? "allOf" = some (.array branches)) (isBranch : branch ∈ branches) :
      IsTask schema (.branch branch)

theorem IsTask.holdsInside {schema : Json} {task : Task} (isTask : IsTask schema task) :
    schema.HoldsInside task.schema := by
  cases isTask with
  | member declared isProperty =>
      obtain ⟨written, found, isObject⟩ := Option.bind_eq_some_iff.mp declared
      exact .tail (.single ⟨_, .of_field found⟩) ⟨_, .member isObject isProperty⟩
  | position found isItem => exact .tail (.single ⟨_, .of_field found⟩) ⟨_, .element rfl isItem⟩
  | additional _ written _ => exact .single ⟨_, .of_field written⟩
  | each found => exact .single ⟨_, .of_field found⟩
  | branch found isBranch =>
      obtain ⟨index, atIndex⟩ := List.mem_iff_getElem?.mp isBranch
      exact .tail (.single ⟨_, .of_field found⟩) ⟨_, .element rfl atIndex⟩

theorem IsTask.ofObject {schema : Json} {task : Task} (isTask : IsTask schema task) :
    ∃ members, schema = .object members := by
  cases isTask with
  | member declared _ =>
      obtain ⟨_, found, _⟩ := Option.bind_eq_some_iff.mp declared
      exact Json.object_of_field found
  | position found _ => exact Json.object_of_field found
  | additional found _ _ => exact Json.object_of_field found
  | each found => exact Json.object_of_field found
  | branch found _ => exact Json.object_of_field found

/-! ### Calls -/

/-- The nodes that the building of a node may go on to. -/
inductive Calls (builder : Builder) (schema : Json) (scope : Scope) (site : Site) :
    Json → Scope → Site → Prop where
  | inside {target child : Json} {targetScope : Scope} {entered : Site}
      (opens : builder.Opens schema scope site target targetScope entered)
      (isInside : target.HoldsInside child) :
      Calls builder schema scope site child targetScope entered.inside
  | branch {target child : Json} {targetScope : Scope} {entered : Site}
      (opens : builder.Opens schema scope site target targetScope entered)
      (isInside : target.HoldsInside child) :
      Calls builder schema scope site child targetScope entered.branch

theorem Opens.calls {builder : Builder} {schema target : Json} {scope targetScope : Scope}
    {site entered : Site} (opens : builder.Opens schema scope site target targetScope entered)
    {task : Task} (isTask : IsTask target task) :
    builder.Calls schema scope site task.schema targetScope (task.site entered) := by
  have isInside := isTask.holdsInside
  cases isTask with
  | branch => exact .branch opens isInside
  | _ => exact .inside opens isInside

theorem arrayOrObject?_eq_some {found : Option Json} {items : Json}
    (read : arrayOrObject? found = some items) : found = some items := by
  unfold arrayOrObject? at read
  split at read
  next => exact read
  next => exact read
  next => cases read

private theorem notMem_of_not_reenters {site : Site} {scope : Scope} {reference : String}
    {value : Option Json}
    (new : ¬site.reenters scope reference value = true) :
    (scope, reference, site.depth) ∉ site.expanding := by
  intro member
  apply new
  unfold Site.reenters
  refine List.any_eq_true.mpr ⟨_, member, ?_⟩
  simp

section Match

variable {Left Right : Type → Type} [Monad Left] [Monad Right]
  {Match : ∀ {Answer : Type}, Left Answer → Right Answer → Prop}
  (compatible : Compatible Left Right Match)
  {left : Json → Scope → Site → Option Json → Left Built}
  {right : Json → Scope → Site → Option Json → Right Built} {scope : Scope} {site : Site}

include compatible

private theorem rebuild_match {schema value : Json}
    (same : ∀ value, Match (left schema scope site value) (right schema scope site value)) :
    Match (rebuild left schema scope site value) (rebuild right schema scope site value) :=
  compatible.bind (same (some value)) fun _ => compatible.known _

private theorem completeMembers_match {properties : List (String × Json)}
    (same : ∀ key property, (key, property) ∈ properties → ∀ value,
      Match (left property scope site value) (right property scope site value))
    (members : List (String × Json)) :
    Match (completeMembers left scope site properties members)
      (completeMembers right scope site properties members) := by
  induction properties generalizing members with
  | nil => exact compatible.known members
  | cons entry rest ih =>
      obtain ⟨key, property⟩ := entry
      have first := same key property List.mem_cons_self
      have others := ih fun key property member => same key property (List.mem_cons_of_mem _ member)
      unfold completeMembers
      cases members.lookup key with
      | some value =>
          refine compatible.bind (rebuild_match compatible first) fun completed => ?_
          exact compatible.bind (compatible.known _) others
      | none =>
          refine compatible.bind (first none) fun built => ?_
          cases built.value with
          | some value => exact compatible.bind (compatible.known _) others
          | none => exact compatible.bind (compatible.known _) others

private theorem completeTuple_match {items : List Json}
    (same : ∀ item ∈ items, ∀ value,
      Match (left item scope site value) (right item scope site value))
    (index : Nat) (elements : List Json) :
    Match (completeTuple left scope site index items elements)
      (completeTuple right scope site index items elements) := by
  induction items generalizing index elements with
  | nil => exact compatible.known elements
  | cons item rest ih =>
      have first := same item List.mem_cons_self
      have others := ih fun later member => same later (List.mem_cons_of_mem item member)
      unfold completeTuple
      cases elements[index]? with
      | some value =>
          refine compatible.bind (rebuild_match compatible first) fun completed => ?_
          exact compatible.bind (compatible.known _) (others (index + 1))
      | none =>
          refine compatible.bind (first none) fun built => ?_
          cases built.value with
          | some value => exact compatible.bind (compatible.known _) (others (index + 1))
          | none => exact compatible.bind (compatible.known _) (others (index + 1))

private theorem buildBranches_match {branches : List Json}
    (same : ∀ branch ∈ branches, ∀ value,
      Match (left branch scope site value) (right branch scope site value))
    (value : Option Json) :
    Match (buildBranches left scope site branches value)
      (buildBranches right scope site branches value) := by
  induction branches generalizing value with
  | nil => exact compatible.known (value, [])
  | cons branch rest ih =>
      have others := ih fun later member => same later (List.mem_cons_of_mem branch member)
      refine compatible.bind (same branch List.mem_cons_self value) fun built => ?_
      exact compatible.bind (others built.value) fun more => compatible.known _

private theorem buildObject_match {builder : Builder} {schema : Json}
    {properties members : List (String × Json)}
    (same : ∀ key property, (key, property) ∈ properties → ∀ value,
      Match (left property scope site.inside value) (right property scope site.inside value)) :
    Match (builder.buildObject left schema scope site properties members)
      (builder.buildObject right schema scope site properties members) := by
  refine compatible.bind (completeMembers_match compatible same members) fun completed => ?_
  dsimp only
  split
  next => exact compatible.known _
  next =>
    split
    next => exact compatible.known _
    next => exact compatible.known _

variable [LawfulMonad Left] [LawfulMonad Right]

private theorem buildArray_match {schema items : Json}
    (read : arrayOrObject? (schema.field? "items") = some items)
    (same : ∀ task, IsTask schema task → ∀ value,
      Match (left task.schema scope (task.site site) value)
        (right task.schema scope (task.site site) value))
    (elements : List Json) :
    Match (buildArray left schema scope site.inside items elements)
      (buildArray right schema scope site.inside items elements) := by
  have atItems := arrayOrObject?_eq_some read
  cases items with
  | array tuple =>
      refine compatible.bind (completeTuple_match compatible ?_ 0 elements) fun completed => ?_
      · intro item member
        obtain ⟨index, found⟩ := List.mem_iff_getElem?.mp member
        exact same _ (.position atItems found)
      · cases more : schema.field? "additionalItems" with
        | none => exact compatible.known completed
        | some additional =>
            cases additional with
            | object inner =>
                refine compatible.bind (compatible.mapM fun _ _ => rebuild_match compatible ?_)
                  fun rest => compatible.known _
                exact same _ (.additional atItems more (Nat.le_refl _))
            | _ => exact compatible.known completed
  | object members =>
      refine compatible.mapM fun _ _ => rebuild_match compatible ?_
      exact same (.element (.object members) 0) (.each atItems)
  | _ =>
      rw [atItems] at read
      cases read

private theorem buildTarget_match {builder : Builder} {target : Json} {value : Option Json}
    (same : ∀ task, IsTask target task → ∀ value,
      Match (left task.schema scope (task.site site) value)
        (right task.schema scope (task.site site) value)) :
    Match (builder.buildTarget left target scope site value)
      (builder.buildTarget right target scope site value) := by
  unfold buildTarget
  dsimp only
  split
  next members properties _ _ declared =>
    apply buildObject_match compatible
    intro key property member
    exact same _ (.member declared member)
  next items _ _ read =>
    exact compatible.bind (buildArray_match compatible read same _) fun built => compatible.known _
  next =>
    cases atBranches : target.field? "allOf" with
    | none => exact compatible.known _
    | some written =>
        cases written with
        | array branches =>
            refine compatible.bind (buildBranches_match compatible ?_ _)
              fun built => compatible.known _
            intro child member
            exact same _ (.branch atBranches member)
        | _ => exact compatible.known _

private theorem buildResolved_match {builder : Builder} {schema : Json} {value : Option Json}
    (same : ∀ target targetScope,
      builder.documents.resolve schema scope = .ok (some (target, targetScope)) →
      ∀ task, IsTask target task → ∀ value,
        Match (left task.schema targetScope (task.site site) value)
          (right task.schema targetScope (task.site site) value)) :
    Match (builder.buildResolved left schema scope site value)
      (builder.buildResolved right schema scope site value) := by
  unfold buildResolved
  split
  next =>
    cases resolved : builder.documents.resolve schema scope with
    | error error => exact compatible.known _
    | ok found =>
        cases found with
        | none => exact compatible.known _
        | some found =>
            obtain ⟨target, targetScope⟩ := found
            exact buildTarget_match compatible (same target targetScope resolved)
  next => exact compatible.known _

/-- Two ways to build the nodes inside that correspond for every task of what the node stands for make
ways to build the node that correspond. -/
theorem buildNode_match_of_tasks {builder : Builder} {schema : Json} {value : Option Json}
    (same : ∀ target targetScope entered,
      builder.Opens schema scope site target targetScope entered → ∀ task, IsTask target task →
      ∀ value, Match (left task.schema targetScope (task.site entered) value)
        (right task.schema targetScope (task.site entered) value)) :
    Match (builder.buildNode left schema scope site value)
      (builder.buildNode right schema scope site value) := by
  unfold buildNode
  cases named : (schema.field? "$ref").bind Json.string? with
  | some reference =>
      dsimp only
      split
      next => exact compatible.known _
      next new =>
        have isNew := notMem_of_not_reenters new
        apply buildResolved_match compatible
        intro target targetScope resolved
        exact same _ _ _ (.reference named isNew resolved)
  | none =>
      apply buildResolved_match compatible
      intro target targetScope resolved
      exact same _ _ _ (.plain named resolved)

theorem buildNode_match {builder : Builder} {schema : Json} {value : Option Json}
    (calls : ∀ child childScope childSite,
      builder.Calls schema scope site child childScope childSite → ∀ value,
        Match (left child childScope childSite value) (right child childScope childSite value)) :
    Match (builder.buildNode left schema scope site value)
      (builder.buildNode right schema scope site value) :=
  buildNode_match_of_tasks compatible fun _ _ _ opens _ isTask => calls _ _ _ (opens.calls isTask)

end Match

end Builder

end JsonSchema
