import JsonSchema.Proofs.Compiling.ReferenceTable

set_option autoImplicit false

/-! How the checks of a node are sorted. The compiler goes through the members of the node once, and
puts each check that a keyword emits behind those of the same kind. Nothing is lost and nothing is
doubled; the groups have an order of their own, that of their first checks. The main statements are
`Check.partition_grouped` and `Validator.sorted_of_compile`. -/

namespace JsonSchema

/-! ### Groups in their order -/

namespace Check

def firstOf (emitted : List (Keyword × Check)) (kind : Kind) : Nat :=
  emitted.findIdx fun entry => entry.1.kind? = some kind

/-- Checks are divided into groups. Each one is in the group of the kind that its keyword is limited to,
and nowhere else; a group keeps the order in which its checks were emitted, and the groups are ordered
by their first checks. -/
structure Partition (emitted : List (Keyword × Check)) (general : List Check)
    (guarded : List (Kind × List Check)) : Prop where
  distinct : (guarded.map (·.1)).Nodup
  order : guarded.Pairwise fun group later => firstOf emitted group.1 < firstOf emitted later.1
  unlimited : general = ofKind emitted none
  limited : ∀ kind group, (kind, group) ∈ guarded ↔ group = ofKind emitted (some kind) ∧ group ≠ []
  whole : (Rule.allChecks general guarded).Perm (emitted.map (·.2))

section Groups

variable {emitted : List (Keyword × Check)} {kind : Kind}

private theorem mem_kindsOf : kind ∈ kindsOf emitted ↔ ∃ entry ∈ emitted, entry.1.kind? = some kind := by
  unfold kindsOf
  rw [List.mem_eraseDups, List.mem_filterMap]

private theorem firstOf_lt (comesUp : kind ∈ kindsOf emitted) : firstOf emitted kind < emitted.length := by
  obtain ⟨entry, isEntry, limited⟩ := mem_kindsOf.mp comesUp
  exact List.findIdx_lt_length_of_exists ⟨entry, isEntry, decide_eq_true limited⟩

private theorem firstOf_append (comesUp : kind ∈ kindsOf emitted) (entry : Keyword × Check) :
    firstOf (emitted ++ [entry]) kind = firstOf emitted kind := by
  have before := firstOf_lt comesUp
  unfold firstOf at before ⊢
  rw [List.findIdx_append, if_pos before]

private theorem firstOf_append_new (isNew : kind ∉ kindsOf emitted) {entry : Keyword × Check}
    (limited : entry.1.kind? = some kind) : firstOf (emitted ++ [entry]) kind = emitted.length := by
  have none : ¬emitted.findIdx (fun entry => entry.1.kind? = some kind) < emitted.length := by
    rw [List.findIdx_lt_length]
    rintro ⟨other, isOther, otherLimited⟩
    exact isNew (mem_kindsOf.mpr ⟨other, isOther, of_decide_eq_true otherLimited⟩)
  unfold firstOf
  rw [List.findIdx_append, if_neg none, List.findIdx_singleton, if_pos (decide_eq_true limited),
    Nat.zero_add]

private theorem ofKind_ne_nil (comesUp : kind ∈ kindsOf emitted) : ofKind emitted (some kind) ≠ [] := by
  obtain ⟨entry, isEntry, limited⟩ := mem_kindsOf.mp comesUp
  unfold ofKind
  rw [Ne, List.map_eq_nil_iff]
  exact List.ne_nil_of_mem (List.mem_filter.mpr ⟨isEntry, decide_eq_true limited⟩)

private theorem pairwise_kindsOf (emitted : List (Keyword × Check)) :
    (kindsOf emitted).Pairwise fun kind later => firstOf emitted kind < firstOf emitted later := by
  induction emitted using List.reverseRecOn with
  | nil => exact .nil
  | append_singleton before entry ih =>
      have kept : (kindsOf before).Pairwise fun kind later =>
          firstOf (before ++ [entry]) kind < firstOf (before ++ [entry]) later := by
        refine ih.imp_of_mem ?_
        intro kind later isKind isLater earlier
        rwa [firstOf_append isKind, firstOf_append isLater]
      obtain ⟨keyword, check⟩ := entry
      cases limited : keyword.kind? with
      | none => rwa [kindsOf_append_general limited]
      | some kind =>
          rw [kindsOf_append_guarded limited]
          split
          next => exact kept
          next isNew =>
            refine List.pairwise_append.mpr ⟨kept, List.pairwise_singleton _ kind, ?_⟩
            intro other isOther last isLast
            obtain rfl := List.mem_singleton.mp isLast
            rw [firstOf_append isOther, firstOf_append_new isNew limited]
            exact firstOf_lt isOther

theorem partition_grouped (emitted : List (Keyword × Check)) :
    Partition emitted (grouped emitted).1 (grouped emitted).2 := by
  have perm := allChecks_perm emitted
  rw [grouped_eq] at perm ⊢
  constructor
  case distinct =>
    rw [List.map_map, Function.comp_def, List.map_id']
    exact nodup_kindsOf emitted
  case order => exact List.pairwise_map.mpr (pairwise_kindsOf emitted)
  case unlimited => rfl
  case limited =>
    intro kind group
    rw [List.mem_map]
    constructor
    · rintro ⟨own, comesUp, same⟩
      cases same
      exact ⟨rfl, ofKind_ne_nil comesUp⟩
    · rintro ⟨rfl, some⟩
      have comesUp : kind ∈ kindsOf emitted := by
        by_contra absent
        exact some (ofKind_eq_nil absent)
      exact ⟨kind, comesUp, rfl⟩
  case whole => exact perm

end Groups

end Check

/-! ### The checks that keywords emit -/

namespace Compiler

/-- If a run comes to a check, its keyword is limited to this kind. -/
def Limited (kind : Option Kind) (run : Compiling (Option Check)) : Prop :=
  ∀ earlier check later, run earlier = .ok (some check, later) → check.keyword.kind? = kind

namespace Limited

variable {kind : Option Kind}

private theorem nothing : Limited kind (pure none) := by
  intro earlier check later ran
  cases ran

private theorem one {check : Check} (own : check.keyword.kind? = kind) :
    Limited kind (pure (some check)) := by
  intro earlier emitted later ran
  cases ran
  exact own

private theorem optional {Constant : Type} {make : Constant → Check} (constant : Option Constant)
    (own : ∀ each, (make each).keyword.kind? = kind) : Limited kind (pure (constant.map make)) := by
  cases constant with
  | none => exact nothing
  | some each => exact one (own each)

private theorem bind {Answer : Type} {run : Compiling Answer} {next : Answer → Compiling (Option Check)}
    (each : ∀ answer, Limited kind (next answer)) : Limited kind (run >>= next) := by
  intro earlier check later ran
  obtain ⟨answer, middle, _, ended⟩ := Compiling.ok_of_bind ran
  exact each answer middle check later ended

end Limited

section Node

variable {compiler : Compiler} {compile : Json → Scope → Compiling Rule}
  {members : List (String × Json)} {scope : Scope} {earlier later : Array Slot}

private theorem limited_compileItems (items : Json) :
    Limited (some .array) (compileItems compile members scope items) := by
  cases items with
  | object inner => exact .bind fun rule => .one rfl
  | array tuple =>
      refine .bind fun declared => ?_
      dsimp only
      split
      next => exact .bind fun rule => .bind fun additional => .one rfl
      next => exact .bind fun additional => .one rfl
  | _ => exact .nothing

private theorem limited_compileMembers : Limited (some .object) (compileMembers compile members scope) := by
  unfold compileMembers
  dsimp only
  split
  next =>
    split
    next => exact .nothing
    next => exact .bind fun declared => .one rfl
  next => exact .bind fun declared => .bind fun patterns => .bind fun additional => .one rfl

/-- A check is limited to the kind that the keyword is limited to which emits it. Only for the keywords
about members may the keyword of the check be another one. -/
theorem limited_compileKeyword (keyword : Keyword) (value : Json) :
    Limited keyword.kind? (compiler.compileKeyword compile members scope keyword value) := by
  cases keyword with
  | pattern =>
      cases value with
      | string source => exact .bind fun regex => .one rfl
      | _ => exact .nothing
  | format =>
      unfold compileKeyword
      dsimp only
      split
      next name =>
        split
        next => exact .nothing
        next => exact .optional _ fun _ => rfl
      next => exact .nothing
  | additionalItems | uniqueItems =>
      unfold compileKeyword
      dsimp only
      split
      next => exact .one rfl
      next => exact .nothing
  | items => exact limited_compileItems value
  | properties | patternProperties | additionalProperties => exact limited_compileMembers
  | dependencies =>
      cases value with
      | object entries => exact .bind fun compiled => .one rfl
      | _ => exact .nothing
  | allOf | anyOf | oneOf => exact .bind fun branches => .optional branches fun _ => rfl
  | not =>
      cases value with
      | object inner => exact .bind fun rule => .one rfl
      | _ => exact .nothing
  | _ => exact .optional _ fun _ => rfl

/-! ### The way through the members -/

/-- The members of a node from the first to the last, with the checks that are emitted. Of the keywords
about members only the first one has its turn, which the flag tells to be over. -/
inductive Scans (compiler : Compiler) (compile : Json → Scope → Compiling Rule)
    (members : List (String × Json)) (scope : Scope) :
    Bool → List (String × Json) → List (Keyword × Check) → Array Slot → Array Slot → Prop where
  | nil {membersDone : Bool} {slots : Array Slot} :
      Scans compiler compile members scope membersDone [] [] slots slots
  | unknown {membersDone : Bool} {member : String × Json} {rest : List (String × Json)}
      {emitted : List (Keyword × Check)} {earlier later : Array Slot}
      (noKeyword : Keyword.ofName? member.1 = none)
      (more : Scans compiler compile members scope membersDone rest emitted earlier later) :
      Scans compiler compile members scope membersDone (member :: rest) emitted earlier later
  | covered {member : String × Json} {rest : List (String × Json)} {keyword : Keyword}
      {emitted : List (Keyword × Check)} {earlier later : Array Slot}
      (isKeyword : Keyword.ofName? member.1 = some keyword) (about : keyword.isAboutMembers = true)
      (more : Scans compiler compile members scope true rest emitted earlier later) :
      Scans compiler compile members scope true (member :: rest) emitted earlier later
  | turn {membersDone : Bool} {member : String × Json} {rest : List (String × Json)}
      {keyword : Keyword} {value : Json} {check : Option Check} {emitted : List (Keyword × Check)}
      {earlier middle later : Array Slot} (isKeyword : Keyword.ofName? member.1 = some keyword)
      (notCovered : (membersDone && keyword.isAboutMembers) = false)
      (found : members.lookup member.1 = some value)
      (ran : compiler.compileKeyword compile members scope keyword value earlier = .ok (check, middle))
      (more : Scans compiler compile members scope (membersDone || keyword.isAboutMembers) rest
        emitted middle later) :
      Scans compiler compile members scope membersDone (member :: rest)
        ((check.map fun check => (keyword, check)).toList ++ emitted) earlier later

private theorem scans_of_compileKeywords {membersDone : Bool} {rest : List (String × Json)}
    {emitted : List (Keyword × Check)} (inside : rest ⊆ members)
    (ran : compiler.compileKeywords compile members scope
      (leadingKeywords membersDone (rest.filterMap fun member => Keyword.ofName? member.1)) earlier =
        .ok (emitted, later)) :
    Scans compiler compile members scope membersDone rest emitted earlier later := by
  induction rest generalizing membersDone emitted earlier with
  | nil =>
      cases ran
      exact .nil
  | cons member rest ih =>
      obtain ⟨isMember, insideRest⟩ := List.cons_subset.mp inside
      cases isKeyword : Keyword.ofName? member.1 with
      | none =>
          simp only [List.filterMap_cons, isKeyword] at ran
          exact .unknown isKeyword (ih insideRest ran)
      | some keyword =>
          simp only [List.filterMap_cons, isKeyword, leadingKeywords] at ran
          have named := Keyword.ofName?_eq_some_iff.mp isKeyword
          -- What follows if the keyword has its turn; the flag decides which ones are left.
          have turn (notCovered : (membersDone && keyword.isAboutMembers) = false)
              (ran : compiler.compileKeywords compile members scope
                (keyword :: leadingKeywords (membersDone || keyword.isAboutMembers)
                  (rest.filterMap fun member => Keyword.ofName? member.1)) earlier =
                    .ok (emitted, later)) :
              Scans compiler compile members scope membersDone (member :: rest) emitted earlier
                later := by
            obtain ⟨value, found⟩ := Entries.exists_lookup (List.mem_map_of_mem isMember)
            rw [compileKeywords, ← named, found] at ran
            obtain ⟨check, middle, ranOwn, ranRest⟩ := Compiling.ok_of_bind ran
            obtain ⟨more, last, ranMore, ended⟩ := Compiling.ok_of_bind ranRest
            cases ended
            exact .turn isKeyword notCovered found ranOwn (ih insideRest ranMore)
          cases about : keyword.isAboutMembers with
          | false =>
              rw [about, if_neg Bool.false_ne_true] at ran
              refine turn ?_ ?_
              · rw [about, Bool.and_false]
              · rwa [about, Bool.or_false]
          | true =>
              rw [about, if_pos rfl] at ran
              cases membersDone with
              | true => exact .covered isKeyword about (ih insideRest ran)
              | false =>
                  refine turn rfl ?_
                  rwa [about]

namespace Scans

variable {membersDone : Bool} {rest : List (String × Json)} {emitted : List (Keyword × Check)}

private theorem order (scans : Scans compiler compile members scope membersDone rest emitted earlier later) :
    (emitted.map (·.1)).Sublist (rest.filterMap fun member => Keyword.ofName? member.1) := by
  induction scans with
  | nil => exact .slnil
  | unknown noKeyword _ ih =>
      simp only [List.filterMap_cons, noKeyword]
      exact ih
  | covered isKeyword _ _ ih =>
      simp only [List.filterMap_cons, isKeyword]
      exact ih.cons _
  | @turn _ _ _ keyword _ check _ _ _ _ isKeyword _ _ _ _ ih =>
      simp only [List.filterMap_cons, isKeyword]
      cases check with
      | none => exact ih.cons keyword
      | some check => exact ih.cons_cons keyword

private theorem kinds (scans : Scans compiler compile members scope membersDone rest emitted earlier later) :
    ∀ entry ∈ emitted, entry.2.keyword.kind? = entry.1.kind? := by
  induction scans with
  | nil => exact nofun
  | unknown _ _ ih => exact ih
  | covered _ _ _ ih => exact ih
  | @turn _ _ _ _ _ check _ _ _ _ _ _ _ ran _ ih =>
      cases check with
      | none => exact ih
      | some check => exact List.forall_mem_cons.mpr ⟨limited_compileKeyword _ _ _ _ _ ran, ih⟩

end Scans

end Node

/-! ### The rule of a node -/

namespace Run

variable {compiler : Compiler} {run : compiler.Run} {members : List (String × Json)} {scope : Scope}

/-- What a run makes of a node without reference. The members emit checks in their order, each check is
limited to the kind of its keyword, and the rule has the checks divided by these kinds. -/
structure Sorts (run : compiler.Run) (members : List (String × Json)) (scope : Scope)
    (emitted : List (Keyword × Check)) (general : List Check)
    (guarded : List (Kind × List Check)) : Prop where
  scans : ∃ budget, run.budget = budget + 1 ∧
    Scans compiler (compiler.compile budget) members scope false members emitted run.earlier run.later
  order : (emitted.map (·.1)).Sublist (members.filterMap fun member => Keyword.ofName? member.1)
  kinds : ∀ entry ∈ emitted, entry.2.keyword.kind? = entry.1.kind?
  isRule : run.rule = .checks general guarded (compiler.ownFormats members) (.ofMembers members)
  partition : Check.Partition emitted general guarded

theorem exists_sorts (isNode : run.node = ⟨.object members, scope⟩)
    (noReference : members.lookup "$ref" = none) :
    ∃ emitted general guarded, run.Sorts members scope emitted general guarded := by
  obtain ⟨budget, node, earlier, rule, later, ends⟩ := run
  subst isNode
  cases budget with
  | zero => cases ends
  | succ budget =>
      have ran : compiler.compileNode (compiler.compile budget) (.object members) scope earlier =
        .ok (rule, later) := ends
      rw [compileNode, noReference] at ran
      obtain ⟨emitted, last, ranKeywords, ended⟩ := Compiling.ok_of_bind ran
      cases ended
      have scans := scans_of_compileKeywords (List.Subset.refl members) ranKeywords
      exact ⟨emitted, _, _, ⟨budget, rfl, scans⟩, scans.order, scans.kinds, rfl,
        Check.partition_grouped emitted⟩

end Run

end Compiler

/-! ### Sorted rules -/

def Rule.Sorted : Rule → Prop
  | .checks general guarded _ _ =>
      (∀ check ∈ general, check.keyword.kind? = none) ∧
        ∀ kind group, (kind, group) ∈ guarded → ∀ check ∈ group, check.keyword.kind? = some kind
  | _ => True

theorem Check.kind_of_ofKind {emitted : List (Keyword × Check)} {kind : Option Kind} {check : Check}
    (kinds : ∀ entry ∈ emitted, entry.2.keyword.kind? = entry.1.kind?)
    (member : check ∈ ofKind emitted kind) : check.keyword.kind? = kind := by
  obtain ⟨entry, isEntry, rfl⟩ := List.mem_map.mp member
  obtain ⟨wasEmitted, limited⟩ := List.mem_filter.mp isEntry
  exact (kinds entry wasEmitted).trans (of_decide_eq_true limited)

namespace Compiler

variable {compiler : Compiler}

theorem Run.Sorts.sorted {run : compiler.Run} {members : List (String × Json)} {scope : Scope}
    {emitted : List (Keyword × Check)} {general : List Check} {guarded : List (Kind × List Check)}
    (sorts : run.Sorts members scope emitted general guarded) : run.rule.Sorted := by
  rw [sorts.isRule]
  constructor
  · intro check isGeneral
    rw [sorts.partition.unlimited] at isGeneral
    exact Check.kind_of_ofKind sorts.kinds isGeneral
  · intro kind group isGroup check isCheck
    obtain ⟨rfl, _⟩ := (sorts.partition.limited kind group).mp isGroup
    exact Check.kind_of_ofKind sorts.kinds isCheck

/-- Rules inside the rule of a node come from runs at the nodes inside. -/
theorem sorted_of_holds {budget : Nat} {schema : Json} {scope : Scope} {earlier later : Array Slot}
    {rule inside : Rule} (ran : compiler.compile budget schema scope earlier = .ok (rule, later))
    (holds : rule.Holds inside) : inside.Sorted := by
  induction budget generalizing schema scope earlier rule later with
  | zero => cases ran
  | succ budget ih =>
      cases schema with
      | object members =>
          cases named : members.lookup "$ref" with
          | some reference =>
              obtain ⟨own, slot, _, _, _, rfl⟩ := slot_of_compile named ran (.refl later)
              rw [holds.eq_of_no_parts rfl]
              trivial
          | none =>
              let run : compiler.Run := ⟨budget + 1, ⟨.object members, scope⟩, earlier, rule, later, ran⟩
              obtain ⟨trace, walked, ⟨_, assembles⟩, _⟩ := replays_compileNode named _ _ _ _ ran
              rcases holds.cases_head with rfl | ⟨part, isPart, inPart⟩
              · obtain ⟨_, _, _, sorts⟩ := run.exists_sorts rfl named
                exact sorts.sorted
              · rw [assembles.parts_perm.mem_iff] at isPart
                obtain ⟨⟨node, own⟩, inTrace, rfl⟩ := List.mem_map.mp isPart
                obtain ⟨_, _, _, ranInside, _⟩ := walked.exists_of_mem inTrace
                exact ih ranInside inPart
      | _ =>
          cases ran
          rw [holds.eq_of_no_parts rfl]
          trivial

end Compiler

namespace Validator

theorem sorted_of_compile {schema : Json} {options : Options} {validator : Validator}
    (compiled : compile schema options = .ok validator) {origin inside : Rule}
    (known : origin = validator.entry ∨ origin ∈ validator.checker.table)
    (holds : origin.Holds inside) : inside.Sorted := by
  obtain ⟨whole, _, _, isEntry, links⟩ := links_of_compile compiled
  rcases known with rfl | inTable
  · rw [← isEntry] at holds
    exact Compiler.sorted_of_holds whole.ends holds
  · obtain ⟨index, atIndex⟩ := Array.mem_iff_getElem?.mp inTable
    have filled := congrArg (·[index]?) links.filled
    simp only [Array.getElem?_map, atIndex, Option.map_some, Option.map_eq_some_iff] at filled
    obtain ⟨slot, atSlot, _⟩ := filled
    cases links.bound index slot origin atSlot atIndex with
    | missing =>
        rw [holds.eq_of_no_parts rfl]
        trivial
    | @target inner => exact Compiler.sorted_of_holds inner.ends holds

end Validator

end JsonSchema
