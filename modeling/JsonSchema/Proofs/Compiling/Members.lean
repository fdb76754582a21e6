import JsonSchema.Proofs.Checking.Reached
import JsonSchema.Proofs.Compiling.ReferenceTable

set_option autoImplicit false

/-! The keywords about members. The first of the three emits one check for all of them. With nothing to say
about further members that check goes by the declared ones; a check that goes by the members of the value
can always be made of the same keywords. The main statement is `Compiler.Run.Within.unites`. -/

namespace JsonSchema

def Interpreter.askEachMember (members : List (String × Json)) (scope : Scope) (value : Json) :
    List (Demand SchemaNode) :=
  Demand.ofMembers
    (nodesFor scope (Compiler.table members "properties")
      (Compiler.table members "patternProperties"))
    (askOther members scope (members.lookup "additionalProperties")) (value.members?.getD [])

namespace Check

def isAboutMembers (check : Check) : Bool := check.keyword.isAboutMembers

/-- A check in the place of the one that goes by the members of the value: it is that one, or there is
nothing to say but about declared members, of which there may be none. -/
inductive Replaces : Option Check → Check → Prop where
  | loop (loop : Check) : Replaces (some loop) loop
  | declared (declared : List (String × Rule)) :
      Replaces (some (.properties declared)) (.members declared [] .allowed)
  | nothing : Replaces none (.members [] [] .allowed)

end Check

namespace Compiler

/-! ### The two checks -/

section Node

variable {compile : Json → Scope → Compiling Rule} {members : List (String × Json)} {scope : Scope}

def compileLoop (compile : Json → Scope → Compiling Rule) (members : List (String × Json))
    (scope : Scope) : Compiling Check := do
  let declared ← compileDeclared compile (table members "properties") scope
  let patterns ← compilePatterns compile (table members "patternProperties") scope
  let additional ← compileAdditional compile (members.lookup "additionalProperties") scope
  return .members declared patterns additional

private theorem compileAdditional_of_not_limits {additional : Option Json}
    (noLimit : limitsAdditional additional = false) :
    compileAdditional compile additional scope = pure .allowed := by
  unfold compileAdditional
  split
  next => cases noLimit
  next => cases noLimit
  next => rfl

/-- Wherever the keywords are compiled, the check that goes by the members can be compiled as well. -/
theorem replaces_of_compileMembers {earlier later : Array Slot} {unit : Option Check}
    (ran : compileMembers compile members scope earlier = .ok (unit, later)) :
    ∃ loop, compileLoop compile members scope earlier = .ok (loop, later) ∧
      Check.Replaces unit loop := by
  unfold compileMembers at ran
  split at ran
  next unlimited =>
    rw [Bool.and_eq_true, List.isEmpty_iff, Bool.not_eq_true'] at unlimited
    obtain ⟨noPatterns, noLimit⟩ := unlimited
    change table members "patternProperties" = [] at noPatterns
    unfold compileLoop
    rw [noPatterns, compileAdditional_of_not_limits noLimit]
    split at ran
    next noneDeclared =>
      rw [List.isEmpty_iff] at noneDeclared
      change table members "properties" = [] at noneDeclared
      rw [noneDeclared]
      cases ran
      exact ⟨_, rfl, .nothing⟩
    next =>
      change (compileDeclared compile (table members "properties") scope >>= _) earlier = _ at ran
      obtain ⟨declared, middle, ranDeclared, ranRest⟩ := Compiling.ok_of_bind ran
      cases ranRest
      exact ⟨_, Compiling.bind_ok ranDeclared, .declared declared⟩
  next =>
    have wrapped : (compileLoop compile members scope >>= fun loop => pure (some loop)) earlier =
        .ok (unit, later) := by
      simpa only [compileLoop, table, bind_assoc, pure_bind] using ran
    obtain ⟨loop, middle, ranLoop, ranRest⟩ := Compiling.ok_of_bind wrapped
    cases ranRest
    exact ⟨loop, ranLoop, .loop loop⟩

/-- A loop over members, declared by these names, that makes these demands. -/
inductive Loops (Same : SchemaNode → Rule → Prop) (members : List (String × Json)) (scope : Scope) :
    Check → Prop where
  | loops {declared : List (String × Rule)} {patterns : List (Regex × Rule)} {additional : Additional}
      (named : Entries.names declared = Entries.names (table members "properties"))
      (answers : Check.Answers Same (.ofMembers members) (Interpreter.askEachMember members scope)
        (.members declared patterns additional)) :
      Loops Same members scope (.members declared patterns additional)

private theorem yields_compileLoop {interpreter : Interpreter} {final : Array Slot}
    {Same : SchemaNode → Rule → Prop}
    (inside : ∀ schema scope, Yields interpreter final (compile schema scope) (Same ⟨schema, scope⟩)) :
    Yields interpreter final (compileLoop compile members scope) (Loops Same members scope) := by
  unfold compileLoop
  refine (yields_compileDeclared inside _).bind fun declared => ?_
  refine (yields_compilePatterns inside _).bind fun patterns => ?_
  refine (yields_compileAdditional inside members _).map ?_
  intro additional others matching same
  constructor
  case named =>
    have names : List.Forall₂ Eq (Entries.names (table members "properties"))
        (Entries.names declared) :=
      List.forall₂_map_left_iff.mpr (List.forall₂_map_right_iff.mpr (same.imp fun _ _ entry => entry.1))
    rw [List.forall₂_eq_eq_eq] at names
    exact names.symm
  case answers =>
    exact fun value => Demand.allAlike_ofMembers (forall₂_rulesFor same matching) others _

end Node

/-! ### The check that is emitted -/

section Emitted

variable {compiler : Compiler} {budget : Nat} {members : List (String × Json)} {scope : Scope}
  {final middle : Array Slot}

/-- A table that is kept on the way to itself is not changed on the way. -/
theorem eq_of_keeps (forth : Keeps final middle) (back : Keeps middle final) : middle = final := by
  have sameSize : middle.size = final.size := Nat.le_antisymm back.1 forth.1
  apply Array.ext_getElem?
  intro index
  by_cases inRange : index < final.size
  · exact forth.2 index inRange
  · rw [Array.getElem?_eq_none (by omega), Array.getElem?_eq_none (by omega)]

private theorem compileKeyword_of_about {compile : Json → Scope → Compiling Rule} {keyword : Keyword}
    (about : keyword.isAboutMembers = true) (argument : Json) :
    compiler.compileKeyword compile members scope keyword argument =
      compileMembers compile members scope := by
  cases keyword <;> first | rfl | cases about

private theorem emitted_about {keywords : List Keyword} {emitted : List (Keyword × Check)}
    (ran : compiler.compileKeywords (compiler.compile budget) members scope keywords final =
      .ok (emitted, final))
    (present : ∀ keyword ∈ keywords, Entries.hasKey members keyword.name = true) :
    ∃ units : List (Option Check),
      List.Forall₂ (fun _ unit =>
        compileMembers (compiler.compile budget) members scope final = .ok (unit, final))
        (keywords.filter Keyword.isAboutMembers) units ∧
      (emitted.filter fun entry => entry.1.isAboutMembers).map (·.2) =
        units.flatMap Option.toList := by
  induction keywords generalizing emitted with
  | nil =>
      cases ran
      exact ⟨[], .nil, rfl⟩
  | cons keyword rest ih =>
      obtain ⟨hasKey, others⟩ := List.forall_mem_cons.mp present
      obtain ⟨argument, found⟩ := Option.isSome_iff_exists.mp hasKey
      rw [compileKeywords, found] at ran
      dsimp only at ran
      obtain ⟨check, middle, ranOwn, ran⟩ := Compiling.ok_of_bind ran
      obtain ⟨more, last, ranRest, ended⟩ := Compiling.ok_of_bind ran
      cases ended
      have forth := ((traverses_compileKeyword keyword argument).ends _ _ _ ranOwn).2.keeps
      have back := ((traverses_compileKeywords rest).ends _ _ _ ranRest).2.keeps
      obtain rfl := eq_of_keeps forth back
      obtain ⟨units, each, same⟩ := ih ranRest others
      cases about : keyword.isAboutMembers with
      | false =>
          refine ⟨units, by simpa [about] using each, ?_⟩
          rw [← same]
          cases check <;> simp [about]
      | true =>
          rw [compileKeyword_of_about about] at ranOwn
          refine ⟨check :: units, ?_, ?_⟩
          · rw [List.filter_cons, if_pos about]
            exact .cons ranOwn each
          · rw [List.flatMap_cons, ← same]
            cases check <;> simp [about]

private theorem compileMembers_of_unmentioned {compile : Json → Scope → Compiling Rule}
    (unmentioned : (keywordsOf members).filter Keyword.isAboutMembers = []) :
    compileMembers compile members scope = pure none := by
  have absent (keyword : Keyword) (about : keyword.isAboutMembers = true) :
      members.lookup keyword.name = none := by
    rw [List.filter_eq_nil_iff] at unmentioned
    cases found : members.lookup keyword.name with
    | none => rfl
    | some argument =>
        rcases exists_leading found with own | ⟨_, leading, isLeading, leadingAbout⟩
        · exact absurd about (unmentioned keyword own)
        · exact absurd leadingAbout (unmentioned leading isLeading)
  have properties : members.lookup "properties" = none := absent .properties rfl
  have patterns : members.lookup "patternProperties" = none := absent .patternProperties rfl
  have additional : members.lookup "additionalProperties" = none := absent .additionalProperties rfl
  unfold compileMembers
  rw [properties, patterns, additional]
  rfl

/-- All that is emitted about members is what compiling the three keywords once comes to. -/
theorem emitted_unit {emitted : List (Keyword × Check)}
    (ran : compiler.compileKeywords (compiler.compile budget) members scope (keywordsOf members) final =
      .ok (emitted, final)) :
    ∃ unit, compileMembers (compiler.compile budget) members scope final = .ok (unit, final) ∧
      (emitted.filter fun entry => entry.1.isAboutMembers).map (·.2) = unit.toList := by
  obtain ⟨units, each, same⟩ := emitted_about ran fun _ isKeyword => hasKey_of_mem_keywordsOf isKeyword
  have once : ((keywordsOf members).filter Keyword.isAboutMembers).length ≤ 1 := length_about_le _
  rw [same]
  cases about : (keywordsOf members).filter Keyword.isAboutMembers with
  | nil =>
      rw [about] at each
      cases each
      exact ⟨none, by rw [compileMembers_of_unmentioned about]; rfl, rfl⟩
  | cons leading rest =>
      rw [about] at each once
      obtain rfl : rest = [] := List.length_eq_zero_iff.mp (by simpa using once)
      cases each with
      | cons own none =>
          cases none
          exact ⟨_, own, by simp⟩

end Emitted

/-! ### The rule of a node -/

private theorem eq_toList_of_perm {Item : Type} {items : List Item} {one : Option Item}
    (perm : items.Perm one.toList) : items = one.toList := by
  cases one with
  | none => exact perm.eq_nil
  | some item => exact List.perm_singleton.mp perm

namespace Run

variable {compiler : Compiler} {whole run : compiler.Run} {members : List (String × Json)} {scope : Scope}

/-- A node is given this rule in the table of the whole run. -/
def Assigns (whole : compiler.Run) (node : SchemaNode) (rule : Rule) : Prop :=
  compiler.compile whole.budget node.schema node.scope whole.later = .ok (rule, whole.later)

def ruleOf (whole : compiler.Run) (node : SchemaNode) : Rule :=
  match compiler.compile whole.budget node.schema node.scope whole.later with
  | .ok (rule, _) => rule
  | .error _ => .free

theorem Assigns.ruleOf_eq {node : SchemaNode} {rule : Rule} (assigns : whole.Assigns node rule) :
    whole.ruleOf node = rule := by
  unfold Assigns at assigns
  rw [ruleOf, assigns]

/-- What becomes of the keywords about members in a rule. No more than one check is made of them, and it
is run for every object; it stands in the place of the one that goes by the members of the value. -/
structure Unites (whole : compiler.Run) (members : List (String × Json)) (scope : Scope)
    (general : List Check) (guarded : List (Kind × List Check)) (unit : Option Check) (loop : Check) :
    Prop where
  emitted : (Rule.allChecks general guarded).filter Check.isAboutMembers = unit.toList
  isRun : ∀ inside, (Rule.checksFor general guarded (.object inside)).filter Check.isAboutMembers =
    unit.toList
  ofKeywords : compileLoop (compiler.compile whole.budget) members scope whole.later =
    .ok (loop, whole.later)
  replaces : Check.Replaces unit loop

/-- The node of a run is compiled again in the table of the whole run, keyword by keyword. -/
theorem Within.keywords_again (within : whole.Within run) (alone : whole.earlier = #[])
    (isNode : run.node = ⟨.object members, scope⟩) (noReference : members.lookup "$ref" = none) :
    ∃ emitted, compiler.compileKeywords (compiler.compile whole.budget) members scope
        (keywordsOf members) whole.later = .ok (emitted, whole.later) ∧
      run.rule = .ofChecks emitted (compiler.ownFormats members) (.ofMembers members) := by
  have again := within.again alone (Nat.le_succ whole.budget)
  rw [isNode, compile, compileNode] at again
  dsimp only at again
  rw [noReference] at again
  dsimp only at again
  obtain ⟨emitted, last, ran, ended⟩ := Compiling.ok_of_bind again
  obtain ⟨isRule, sameTable⟩ := Prod.mk.inj (Except.ok.inj ended)
  exact ⟨emitted, sameTable ▸ ran, isRule.symm⟩

theorem Within.unites (within : whole.Within run) (alone : whole.earlier = #[])
    (isNode : run.node = ⟨.object members, scope⟩) (noReference : members.lookup "$ref" = none) :
    ∃ general guarded formats unit loop,
      run.rule = .checks general guarded formats (.ofMembers members) ∧
        whole.Unites members scope general guarded unit loop := by
  obtain ⟨emitted, ran, isRule⟩ := within.keywords_again alone isNode noReference
  obtain ⟨unit, ranUnit, isUnit⟩ := emitted_unit ran
  obtain ⟨loop, ranLoop, replaces⟩ := replaces_of_compileMembers ranUnit
  obtain ⟨_, _, emits, _⟩ := replays_compileKeywords _ _ _ _ _ ran
  have aboutMembers (wanted : Kind → Bool) (ofObjects : wanted .object = true) :
      ((Check.grouped emitted).1 ++ Check.ofGroups wanted (Check.grouped emitted).2).filter
        Check.isAboutMembers = unit.toList := by
    apply eq_toList_of_perm
    rw [← isUnit]
    refine ((Check.grouped_perm wanted emitted).filter Check.isAboutMembers).trans (.of_eq ?_)
    rw [List.filter_map, List.filter_filter]
    congr 1
    apply List.filter_congr
    intro entry member
    rw [Function.comp_apply, Check.isAboutMembers, emits.about entry member]
    cases about : entry.1.isAboutMembers with
    | false => rfl
    | true =>
        rw [Keyword.kind?_of_about about, Option.all_some, ofObjects]
        rfl
  refine ⟨_, _, _, unit, loop, isRule, ?_⟩
  constructor
  case emitted => exact aboutMembers (fun _ => true) rfl
  case isRun => exact fun inside => aboutMembers (·.accepts (.object inside)) rfl
  case ofKeywords => exact ranLoop
  case replaces => exact replaces

/-- Every run at the nodes inside gives them the rules that they are given again. -/
theorem loops (whole : compiler.Run) (alone : whole.earlier = #[]) {loop : Check}
    (ran : compileLoop (compiler.compile whole.budget) members scope whole.later =
      .ok (loop, whole.later)) : Loops whole.Assigns members scope loop := by
  have inside (schema : Json) (scope : Scope) :
      Yields compiler.interpreter whole.later (compiler.compile whole.budget schema scope)
        (whole.Assigns ⟨schema, scope⟩) := by
    intro earlier rule later ran
    obtain ⟨keeps, atEnd⟩ := yields_compile compiler whole.later _ _ _ _ _ _ ran
    refine ⟨keeps, fun covers => ⟨?_, (atEnd covers).2⟩⟩
    exact compile_again ran (Nat.le_refl _) (whole.nodup_keys alone) covers
  exact ((yields_compileLoop inside _ _ _ ran).2 (.refl whole.later)).1

end Run

end Compiler

end JsonSchema
