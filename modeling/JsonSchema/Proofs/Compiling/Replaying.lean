import JsonSchema.Proofs.Compiling.Runs

set_option autoImplicit false

/-! Runs of the compiler that are repeated. A run looks at the slots only to find those of references, so
it is decided by the rules that it is given for the nodes inside. In a table that has the references of
the whole run every node is given its rule again, and the table stays as it is. The main statement is
`Compiler.compile_again`. -/

namespace JsonSchema

/-! ### Groups of checks -/

namespace Check

def ofGroups (wanted : Kind → Bool) (guarded : List (Kind × List Check)) : List Check :=
  guarded.flatMap fun (kind, group) => if wanted kind then group else []

private theorem addGuarded_perm (wanted : Kind → Bool) (kind : Kind) (check : Check)
    (guarded : List (Kind × List Check)) :
    (ofGroups wanted (addGuarded kind check guarded)).Perm
      (ofGroups wanted guarded ++ if wanted kind then [check] else []) := by
  unfold ofGroups
  induction guarded with
  | nil => simp [addGuarded]
  | cons group rest ih =>
      obtain ⟨other, checks⟩ := group
      rw [addGuarded]
      by_cases same : other = kind
      · subst same
        rw [if_pos rfl]
        cases isWanted : wanted other with
        | false => simp [isWanted]
        | true =>
            simp only [List.flatMap_cons, isWanted, if_true, List.append_assoc]
            exact List.perm_append_comm.append_left checks
      · rw [if_neg same]
        simp only [List.flatMap_cons, List.append_assoc]
        exact ih.append_left _

theorem grouped_perm (wanted : Kind → Bool) (emitted : List (Keyword × Check)) :
    ((grouped emitted).1 ++ ofGroups wanted (grouped emitted).2).Perm
      ((emitted.filter fun entry => entry.1.kind?.all wanted).map (·.2)) := by
  induction emitted using List.reverseRecOn with
  | nil => exact .nil
  | append_singleton before entry ih =>
      obtain ⟨keyword, check⟩ := entry
      rw [grouped_append, List.filter_append, List.map_append]
      cases limited : keyword.kind? with
      | none =>
          have last : ([(keyword, check)].filter fun entry => entry.1.kind?.all wanted).map (·.2) =
              [check] := by
            simp [limited]
          rw [last]
          refine List.Perm.trans ?_ (ih.append_right [check])
          rw [List.append_assoc, List.append_assoc]
          exact List.perm_append_comm.append_left _
      | some kind =>
          have last : ([(keyword, check)].filter fun entry => entry.1.kind?.all wanted).map (·.2) =
              if wanted kind then [check] else [] := by
            simp only [List.filter_singleton, limited, Option.all_some]
            cases wanted kind <;> rfl
          rw [last]
          refine List.Perm.trans ?_ (ih.append_right _)
          rw [List.append_assoc]
          exact (addGuarded_perm wanted kind check _).append_left _

theorem allChecks_perm (emitted : List (Keyword × Check)) :
    (Rule.allChecks (grouped emitted).1 (grouped emitted).2).Perm (emitted.map (·.2)) := by
  have all := grouped_perm (fun _ => true) emitted
  have kept : (emitted.filter fun entry => entry.1.kind?.all fun _ => true) = emitted := by
    rw [List.filter_eq_self]
    intro entry _
    cases entry.1.kind? <;> rfl
  rwa [kept] at all

end Check

def Rule.parts : Rule → List Rule
  | .checks general guarded _ _ => Rule.rulesInside general guarded
  | _ => []

theorem Rule.parts_ofChecks_perm (emitted : List (Keyword × Check)) (formats : List FormatCheck)
    (messages : Messages) :
    (Rule.ofChecks emitted formats messages).parts.Perm
      (emitted.flatMap fun entry => entry.2.rulesInside) := by
  rw [← List.flatMap_map]
  exact (Check.allChecks_perm emitted).flatMap_right Check.rulesInside

namespace Compiler

/-! ### Runs that are decided by the rules they are given -/

inductive Trace (compile : Json → Scope → Compiling Rule) :
    List (SchemaNode × Rule) → Array Slot → Array Slot → Prop where
  | nil {slots : Array Slot} : Trace compile [] slots slots
  | cons {node : SchemaNode} {rule : Rule} {rest : List (SchemaNode × Rule)}
      {earlier middle later : Array Slot}
      (ran : compile node.schema node.scope earlier = .ok (rule, middle))
      (more : Trace compile rest middle later) : Trace compile ((node, rule) :: rest) earlier later

namespace Trace

variable {compile : Json → Scope → Compiling Rule} {front back : List (SchemaNode × Rule)}
  {earlier middle later : Array Slot}

private theorem append (first : Trace compile front earlier middle)
    (second : Trace compile back middle later) :
    Trace compile (front ++ back) earlier later := by
  induction first with
  | nil => exact second
  | cons ran _ ih => exact .cons ran (ih second)

private theorem split (whole : Trace compile (front ++ back) earlier later) :
    ∃ middle, Trace compile front earlier middle ∧ Trace compile back middle later := by
  induction front generalizing earlier with
  | nil => exact ⟨earlier, .nil, whole⟩
  | cons entry rest ih =>
      cases whole with
      | cons ran more =>
          obtain ⟨middle, first, second⟩ := ih more
          exact ⟨middle, .cons ran first, second⟩

theorem walks {trace : List (SchemaNode × Rule)} (walked : Trace compile trace earlier later) :
    Walks compile (trace.map (·.1)) earlier later := by
  induction walked with
  | nil => exact .nil
  | cons ran _ ih => exact .cons ran ih

end Trace

/-- A run that comes to an answer has compiled some nodes. Of the rules that these were given it says what
is stated, and any way of compiling that gives them the same rules leads to the same answer. -/
def Replays {Answer : Type} (stated : Answer → List Rule → Prop)
    (run : (Json → Scope → Compiling Rule) → Compiling Answer) : Prop :=
  ∀ compile earlier answer later, run compile earlier = .ok (answer, later) →
    ∃ trace, Trace compile trace earlier later ∧ stated answer (trace.map (·.2)) ∧
      ∀ other first last, Trace other trace first last → run other first = .ok (answer, last)

namespace Replays

variable {Answer More : Type} {stated : Answer → List Rule → Prop}

private theorem pure {answer : Answer} (holds : stated answer []) :
    Replays stated fun _ => Pure.pure answer := by
  intro compile earlier result later ran
  cases ran
  refine ⟨[], .nil, holds, ?_⟩
  intro other first last again
  cases again
  rfl

private theorem throw {stop : CompileStop} :
    Replays stated fun _ => (MonadExcept.throw stop : Compiling Answer) := by
  intro compile earlier result later ran
  cases ran

private theorem node (schema : Json) (scope : Scope) :
    Replays (fun rule rules => rules = [rule]) fun compile => compile schema scope := by
  intro compile earlier rule later ran
  refine ⟨[(⟨schema, scope⟩, rule)], .cons ran .nil, rfl, ?_⟩
  intro other first last again
  cases again with
  | cons ranAgain more =>
      cases more
      exact ranAgain

/-- What the second run states is about all rules, those of the first run before its own. -/
theorem bind {run : (Json → Scope → Compiling Rule) → Compiling Answer}
    {next : (Json → Scope → Compiling Rule) → Answer → Compiling More}
    {ends : More → List Rule → Prop} (first : Replays stated run)
    (second : ∀ answer, Replays
      (fun more rules => ∀ before, stated answer before → ends more (before ++ rules))
      fun compile => next compile answer) :
    Replays ends fun compile => run compile >>= next compile := by
  intro compile earlier more later ran
  obtain ⟨answer, middle, ranFirst, ranSecond⟩ := Compiling.ok_of_bind ran
  obtain ⟨front, atFront, holds, againFirst⟩ := first _ _ _ _ ranFirst
  obtain ⟨back, atBack, atEnd, againSecond⟩ := second answer _ _ _ _ ranSecond
  refine ⟨front ++ back, atFront.append atBack, ?_, ?_⟩
  · rw [List.map_append]
    exact atEnd _ holds
  · intro other start last again
    obtain ⟨between, firstAgain, secondAgain⟩ := again.split
    change (run other >>= next other) start = _
    rw [Compiling.bind_ok (againFirst _ _ _ firstAgain)]
    exact againSecond _ _ _ secondAgain

private theorem map {run : (Json → Scope → Compiling Rule) → Compiling Answer} {wrap : Answer → More}
    {ends : More → List Rule → Prop} (first : Replays stated run)
    (implied : ∀ answer rules, stated answer rules → ends (wrap answer) rules) :
    Replays ends fun compile => run compile >>= fun answer => Pure.pure (wrap answer) := by
  refine first.bind fun answer => .pure fun before holds => ?_
  rw [List.append_nil]
  exact implied answer before holds

private theorem mapM {Item : Type} {run : (Json → Scope → Compiling Rule) → Item → Compiling Answer}
    {inside : Answer → List Rule} (items : List Item)
    (each : ∀ item, Replays (fun answer rules => rules = inside answer)
      fun compile => run compile item) :
    Replays (fun answers rules => rules = answers.flatMap inside)
      fun compile => items.mapM (run compile) := by
  induction items with
  | nil => exact .pure rfl
  | cons item rest ih =>
      simp only [List.mapM_cons]
      refine (each item).bind fun answer => ih.map ?_
      intro answers rules ofRest before ofItem
      rw [ofItem, ofRest, List.flatMap_cons]

end Replays

/-! ### The runs of the compiler -/

section Node

variable {compiler : Compiler} {members : List (String × Json)} {scope : Scope}

private theorem replays_readPattern (keyword : Keyword) (source : String) :
    Replays (fun _ rules => rules = []) fun _ => readPattern keyword source := by
  unfold readPattern
  cases Regex.ofString? source with
  | none => exact .throw
  | some regex => exact .pure rfl

private theorem replays_compileDeclared (declared : List (String × Json)) :
    Replays (fun entries rules => rules = entries.map (·.2))
      fun compile => compileDeclared compile declared scope := by
  simp only [List.map_eq_flatMap]
  refine .mapM declared fun entry => (Replays.node entry.2 scope).map ?_
  intro rule rules ofRule
  exact ofRule

private theorem replays_compileBranches (value : Json) :
    Replays (fun branches rules => rules = branches.getD [])
      fun compile => compileBranches compile scope value := by
  cases value with
  | array branches =>
      refine (Replays.mapM branches fun branch => .node branch scope).map ?_
      intro answers rules ofBranches
      rw [ofBranches, List.flatMap_singleton', Option.getD_some]
  | _ => exact .pure rfl

private theorem replays_compilePatterns (patterns : List (String × Json)) :
    Replays (fun entries rules => rules = entries.map (·.2))
      fun compile => compilePatterns compile patterns scope := by
  simp only [List.map_eq_flatMap]
  refine .mapM patterns fun entry => ?_
  refine (replays_readPattern .patternProperties entry.1).bind fun regex => ?_
  refine (Replays.node entry.2 scope).map ?_
  intro rule rules ofRule before nothing
  rw [nothing, ofRule, List.nil_append]

private theorem replays_compileAdditional (additional : Option Json) :
    Replays (fun (others : Additional) rules => rules = others.rulesInside)
      fun compile => compileAdditional compile additional scope := by
  cases additional with
  | none => exact .pure rfl
  | some schema =>
      cases schema with
      | bool allowed => cases allowed <;> exact .pure rfl
      | object inner =>
          refine (Replays.node (.object inner) scope).map ?_
          intro rule rules ofRule
          exact ofRule
      | _ => exact .pure rfl

private theorem replays_compileDependencies (entries : List (String × Json)) :
    Replays (fun compiled rules => rules = compiled.flatMap fun entry => entry.2.rulesInside)
      fun compile => compileDependencies compile scope entries := by
  induction entries with
  | nil => exact .pure rfl
  | cons entry rest ih =>
      obtain ⟨name, dependency⟩ := entry
      unfold compileDependencies
      cases dependency with
      | object inner =>
          simp only [pure_bind]
          refine (Replays.node (.object inner) scope).bind fun rule => ih.map ?_
          intro compiled rules ofRest before ofRule
          rw [ofRule, ofRest]
          rfl
      | array names =>
          simp only [pure_bind]
          refine ih.map ?_
          intro compiled rules ofRest
          rw [ofRest]
          rfl
      | _ =>
          simp only [pure_bind]
          refine ih.map ?_
          intro compiled rules ofRest
          rw [ofRest]
          rfl

def Emitted (keyword : Keyword) (check : Option Check) (rules : List Rule) : Prop :=
  rules = check.toList.flatMap Check.rulesInside ∧
    ∀ each ∈ check, each.keyword.isAboutMembers = keyword.isAboutMembers

private theorem emitted_some {keyword : Keyword} {check : Check} {rules : List Rule}
    (inside : rules = check.rulesInside)
    (about : check.keyword.isAboutMembers = keyword.isAboutMembers) :
    Emitted keyword (some check) rules := by
  constructor
  · simpa using inside
  · rintro each ⟨⟩
    exact about

private theorem emitted_none (keyword : Keyword) : Emitted keyword none [] := ⟨rfl, nofun⟩

private theorem replays_leaf {Constant : Type} {keyword : Keyword} (constant : Option Constant)
    (check : Constant → Check) (plain : ∀ each, (check each).rulesInside = [])
    (named : ∀ each, (check each).keyword = keyword) :
    Replays (Emitted keyword) fun _ => Pure.pure (constant.map check) := by
  cases constant with
  | none => exact .pure (emitted_none keyword)
  | some each => exact .pure (emitted_some (plain each).symm (congrArg _ (named each)))

private theorem replays_compileItems (items : Json) :
    Replays (Emitted .items) fun compile => compileItems compile members scope items := by
  cases items with
  | object inner =>
      refine (Replays.node (.object inner) scope).map ?_
      intro rule rules ofRule
      exact emitted_some ofRule rfl
  | array tuple =>
      refine (Replays.mapM tuple fun item => .node item scope).bind fun declared => ?_
      cases members.lookup "additionalItems" with
      | none =>
          refine .pure fun before ofTuple => emitted_some ?_ rfl
          simpa [Check.rulesInside] using ofTuple
      | some additional =>
          cases additional with
          | object inner =>
              simp only [pure_bind]
              refine (Replays.node (.object inner) scope).map ?_
              intro rule rules ofRule before ofTuple
              refine emitted_some ?_ rfl
              simp [Check.rulesInside, ofTuple, ofRule]
          | _ =>
              refine .pure fun before ofTuple => emitted_some ?_ rfl
              simpa [Check.rulesInside] using ofTuple
  | _ => exact .pure (emitted_none .items)

private theorem replays_compileMembers {keyword : Keyword} (about : keyword.isAboutMembers = true) :
    Replays (Emitted keyword) fun compile => compileMembers compile members scope := by
  unfold compileMembers
  dsimp only
  split
  next =>
    split
    next => exact .pure (emitted_none keyword)
    next =>
      refine (replays_compileDeclared _).map ?_
      intro declared rules ofDeclared
      exact emitted_some ofDeclared about.symm
  next =>
    refine (replays_compileDeclared _).bind fun declared => ?_
    refine (replays_compilePatterns _).bind fun patterns => ?_
    refine (replays_compileAdditional _).map ?_
    intro additional rules ofAdditional before ofPatterns first ofDeclared
    refine emitted_some ?_ about.symm
    rw [ofDeclared, ofPatterns, ofAdditional, Check.rulesInside, List.append_assoc]

private theorem replays_combinator {keyword : Keyword} {combine : List Rule → Check} (value : Json)
    (inside : ∀ branches, (combine branches).rulesInside = branches)
    (named : ∀ branches, (combine branches).keyword = keyword) :
    Replays (Emitted keyword) fun compile =>
      compileBranches compile scope value >>= fun rules => Pure.pure (rules.map combine) := by
  refine (replays_compileBranches value).map ?_
  intro branches rules ofBranches
  cases branches with
  | none => exact ⟨ofBranches, nofun⟩
  | some branches =>
      exact emitted_some (ofBranches.trans (inside branches).symm) (congrArg _ (named branches))

private theorem replays_compileKeyword (keyword : Keyword) (value : Json) :
    Replays (Emitted keyword) fun compile =>
      compiler.compileKeyword compile members scope keyword value := by
  cases keyword with
  | pattern =>
      cases value with
      | string source =>
          refine (replays_readPattern .pattern source).map ?_
          intro regex rules nothing
          exact emitted_some nothing rfl
      | _ => exact .pure (emitted_none .pattern)
  | format =>
      unfold compileKeyword
      dsimp only
      split
      next name =>
        split
        next => exact .pure (emitted_none .format)
        next => exact replays_leaf _ _ (fun _ => rfl) fun _ => rfl
      next => exact .pure (emitted_none .format)
  | additionalItems =>
      unfold compileKeyword
      dsimp only
      split
      next => exact .pure (emitted_some rfl rfl)
      next => exact .pure (emitted_none .additionalItems)
  | uniqueItems =>
      unfold compileKeyword
      dsimp only
      split
      next => exact .pure (emitted_some rfl rfl)
      next => exact .pure (emitted_none .uniqueItems)
  | items => exact replays_compileItems value
  | properties | patternProperties | additionalProperties => exact replays_compileMembers rfl
  | dependencies =>
      cases value with
      | object entries =>
          refine (replays_compileDependencies entries).map ?_
          intro compiled rules ofEntries
          exact emitted_some ofEntries rfl
      | _ => exact .pure (emitted_none .dependencies)
  | allOf => exact replays_combinator value (fun _ => rfl) fun _ => rfl
  | anyOf => exact replays_combinator value (fun _ => rfl) fun _ => rfl
  | oneOf => exact replays_combinator value (fun _ => rfl) fun _ => rfl
  | not =>
      cases value with
      | object inner =>
          refine (Replays.node (.object inner) scope).map ?_
          intro rule rules ofRule
          exact emitted_some ofRule rfl
      | _ => exact .pure (emitted_none .not)
  | _ => exact replays_leaf _ _ (fun _ => rfl) fun _ => rfl

structure EmittedAll (keywords : List Keyword) (emitted : List (Keyword × Check))
    (rules : List Rule) : Prop where
  inside : rules = emitted.flatMap fun entry => entry.2.rulesInside
  order : (emitted.map (·.1)).Sublist keywords
  about : ∀ entry ∈ emitted, entry.2.keyword.isAboutMembers = entry.1.isAboutMembers

theorem EmittedAll.cons {keyword : Keyword} {rest : List Keyword} {check : Option Check}
    {emitted : List (Keyword × Check)} {first rules : List Rule} (own : Emitted keyword check first)
    (others : EmittedAll rest emitted rules) :
    EmittedAll (keyword :: rest)
      ((check.map fun check => (keyword, check)).toList ++ emitted) (first ++ rules) := by
  obtain ⟨ofCheck, about⟩ := own
  cases check with
  | none =>
      rw [ofCheck]
      exact ⟨others.inside, others.order.cons keyword, others.about⟩
  | some check =>
      constructor
      · rw [ofCheck, others.inside]
        simp
      · exact others.order.cons_cons keyword
      · exact List.forall_mem_cons.mpr ⟨about check rfl, others.about⟩

theorem replays_compileKeywords (keywords : List Keyword) :
    Replays (EmittedAll keywords) fun compile =>
      compiler.compileKeywords compile members scope keywords := by
  induction keywords with
  | nil => exact .pure ⟨rfl, .slnil, nofun⟩
  | cons keyword rest ih =>
      unfold compileKeywords
      cases members.lookup keyword.name with
      | none =>
          simp only [pure_bind]
          refine ih.map ?_
          intro emitted rules others
          exact others.cons (emitted_none keyword)
      | some value =>
          refine (replays_compileKeyword keyword value).bind fun check => ih.map ?_
          intro emitted rules others before own
          exact others.cons own

structure Assembles (compiler : Compiler) (members : List (String × Json)) (rule : Rule)
    (rules : List Rule) (emitted : List (Keyword × Check)) : Prop where
  emits : EmittedAll (keywordsOf members) emitted rules
  isRule : rule = .ofChecks emitted (compiler.ownFormats members) (.ofMembers members)

theorem Assembles.parts_perm {rule : Rule} {rules : List Rule} {emitted : List (Keyword × Check)}
    (assembles : compiler.Assembles members rule rules emitted) : rule.parts.Perm rules := by
  rw [assembles.isRule, assembles.emits.inside]
  exact Rule.parts_ofChecks_perm _ _ _

theorem replays_compileNode (noReference : members.lookup "$ref" = none) :
    Replays (fun rule rules => ∃ emitted, compiler.Assembles members rule rules emitted) fun compile =>
      compiler.compileNode compile (.object members) scope := by
  unfold compileNode
  dsimp only
  rw [noReference]
  refine (replays_compileKeywords _).map ?_
  intro emitted rules emits
  exact ⟨emitted, emits, rfl⟩

end Node

/-! ### Compiling again -/

section Again

variable {compiler : Compiler} {final : Array Slot}

/-- No two slots are for one reference, so a reference is found at its only slot. -/
theorem findIdx?_of_slot (distinct : (keys final).Nodup) {index : Nat} {slot : Slot}
    (atIndex : final[index]? = some slot) :
    final.findIdx? (fun other => other.scope = slot.scope ∧ other.reference = slot.reference) =
      some index := by
  obtain ⟨inRange, isSlot⟩ := Array.getElem?_eq_some_iff.mp atIndex
  rw [Array.findIdx?_eq_some_iff_getElem]
  refine ⟨inRange, by simp [isSlot], ?_⟩
  intro earlier before named
  obtain ⟨sameScope, sameReference⟩ := of_decide_eq_true named
  have sameKey : (keys final)[earlier]? = (keys final)[index]? := by
    simp [keys, Array.getElem?_eq_getElem (Nat.lt_trans before inRange), atIndex, sameScope,
      sameReference]
  have inKeys : earlier < (keys final).length := by
    simp only [keys, List.length_map, Array.length_toList]
    omega
  have same := (List.getElem?_inj inKeys distinct).mp sameKey
  omega

/-- Old or new, a reference has a slot in the table after a run, and its rule is the number of that. -/
theorem slot_of_compile {budget : Nat} {members : List (String × Json)} {scope : Scope}
    {reference : Json} {earlier later : Array Slot} {rule : Rule}
    (named : members.lookup "$ref" = some reference)
    (ran : compiler.compile budget (.object members) scope earlier = .ok (rule, later))
    (covers : Covers final later) :
    ∃ (index : Nat) (slot : Slot), final[index]? = some slot ∧ slot.scope = scope ∧
      reference = .string slot.reference ∧ rule = .slot index := by
  cases budget with
  | zero => cases ran
  | succ budget =>
      have represents := ((yields_compile compiler final _ _ _ _ _ _ ran).2 covers).1
      rw [Interpreter.Represents] at represents
      dsimp only at represents
      rwa [named] at represents

/-- The references of the table are all there, so each node of a walk is given its rule again. -/
theorem Trace.again {budget larger : Nat} {trace : List (SchemaNode × Rule)} {earlier later : Array Slot}
    (walked : Trace (compiler.compile budget) trace earlier later) (covers : Covers final later)
    (each : ∀ (node : SchemaNode) (earlier later : Array Slot) (rule : Rule),
      compiler.compile budget node.schema node.scope earlier = .ok (rule, later) →
        Covers final later → compiler.compile larger node.schema node.scope final = .ok (rule, final)) :
    Trace (compiler.compile larger) trace final final := by
  induction walked with
  | nil => exact .nil
  | cons ran more ih =>
      exact .cons (each _ _ _ _ ran (covers.of_keeps more.walks.keeps)) (ih covers)

/-- A run repeated with all its references in the table, and with no smaller a budget, gives the same rule
and leaves the table alone. -/
theorem compile_again {budget larger : Nat} {schema : Json} {scope : Scope} {earlier later : Array Slot}
    {rule : Rule} (ran : compiler.compile budget schema scope earlier = .ok (rule, later))
    (more : budget ≤ larger) (distinct : (keys final).Nodup) (covers : Covers final later) :
    compiler.compile larger schema scope final = .ok (rule, final) := by
  induction budget generalizing larger schema scope earlier rule later with
  | zero => cases ran
  | succ budget ih =>
      obtain ⟨larger, rfl⟩ := Nat.exists_eq_succ_of_ne_zero (Nat.ne_zero_of_lt more)
      have enough := Nat.le_of_succ_le_succ more
      cases schema with
      | object members =>
          cases named : members.lookup "$ref" with
          | some reference =>
              obtain ⟨index, slot, atFinal, rfl, rfl, rfl⟩ := slot_of_compile named ran covers
              rw [compile, compileNode_reference named]
              exact compileReference_found (findIdx?_of_slot distinct atFinal)
          | none =>
              obtain ⟨trace, walked, _, again⟩ := replays_compileNode named _ _ _ _ ran
              apply again
              apply walked.again covers
              intro node before after own ranInside coversInside
              exact ih ranInside enough coversInside
      | _ =>
          cases ran
          rfl

end Again

end Compiler

end JsonSchema
