import JsonSchema.Proofs.Compiling.Yields

set_option autoImplicit false

/-! What the keywords of a node are compiled to. For each keyword the check that a run emits makes the
demands of the interpreter, and there is a check exactly when the interpreter takes the keyword to be
well typed. -/

namespace JsonSchema

/-- A check makes what the interpreter asks, nodes being exchanged for rules. -/
def Check.Answers (Same : SchemaNode → Rule → Prop) (messages : Messages)
    (ask : Json → List (Demand SchemaNode)) (check : Check) : Prop :=
  ∀ value, Demand.AllAlike Same (ask value) (check.demands messages value)

@[simp] theorem FormatCheck.accepts_ofFormat (format : Format) (members : List (String × Json))
    (value : Json) :
    (FormatCheck.ofFormat format members).accepts value = format.accepts value (.object members) := by
  cases format <;> rfl

namespace Compiler

def interpreter (compiler : Compiler) : Interpreter :=
  ⟨compiler.documents, compiler.registry, compiler.formats⟩

section Inside

variable {interpreter : Interpreter} {final : Array Slot} {Same : SchemaNode → Rule → Prop}
  {compile : Json → Scope → Compiling Rule} {members : List (String × Json)} {scope : Scope}

private theorem yields_readPattern (keyword : Keyword) (source : String) :
    Yields interpreter final (readPattern keyword source)
      fun regex => Regex.ofString? source = some regex := by
  unfold readPattern
  cases found : Regex.ofString? source with
  | none => exact .throw
  | some regex => exact .pure rfl

/-- A keyword without schemas inside: a constant is read from its argument, or the keyword is dropped. -/
theorem answers_leaf {Constant : Type} {keyword : Keyword} (constant : Option Constant)
    (check : Constant → Check) {fails : Constant → Json → Bool}
    (plain : ∀ each, (check each).isPlain = true) (named : ∀ each, (check each).keyword = keyword)
    (same : ∀ each value, (check each).fails value = fails each value) :
    Option.Rel (Check.Answers Same (.ofMembers members))
      ((constant.map fails).map fun fails value =>
        Demand.failIf (fails value) keyword (Interpreter.message members keyword none))
      (constant.map check) := by
  cases constant with
  | none => exact .none
  | some each =>
      refine .some ?_
      intro value
      rw [Check.demands_of_isPlain (plain each), same, named]
      exact Demand.corresponds_failIf

variable (inside : ∀ schema scope,
  Yields interpreter final (compile schema scope) (Same ⟨schema, scope⟩))

include inside

theorem yields_compileDeclared (declared : List (String × Json)) :
    Yields interpreter final (compileDeclared compile declared scope)
      (List.Forall₂ (fun entry rule => entry.1 = rule.1 ∧ Same ⟨entry.2, scope⟩ rule.2)
        declared) := by
  apply Yields.mapM
  rintro ⟨name, schema⟩
  exact (inside schema scope).map fun rule same => ⟨rfl, same⟩

private theorem yields_compileBranches (value : Json) :
    Yields interpreter final (compileBranches compile scope value)
      (Option.Rel (List.Forall₂ fun branch rule => Same ⟨branch, scope⟩ rule)
        value.elements?) := by
  cases value with
  | array branches =>
      refine (Yields.mapM branches fun branch => inside branch scope).map ?_
      intro rules same
      exact .some same
  | _ => exact .pure .none

private theorem yields_compileItems (items : Json) :
    Yields interpreter final (compileItems compile members scope items)
      (Option.Rel (Check.Answers Same (.ofMembers members))
        (Interpreter.askItems? members scope items)) := by
  cases items with
  | object inner =>
      refine (inside (.object inner) scope).map ?_
      intro rule same
      exact .some fun value => Demand.corresponds_ofElements same 0 (List.forall₂_refl _)
  | array declared =>
      refine (Yields.mapM declared fun item => inside item scope).bind fun rules => ?_
      dsimp only
      split
      next inner found =>
        simp only [pure_bind]
        refine (inside (.object inner) scope).map ?_
        intro rule sameRest same
        refine .some fun value => List.rel_append ?_ ?_
        · exact Demand.corresponds_ofPositions (List.forall₂_map_left_iff.mpr same) (List.forall₂_refl _)
        · rw [found, Option.toList_some, List.flatMap_singleton, ← same.length_eq]
          exact Demand.corresponds_ofElements sameRest _ (List.forall₂_refl _)
      next noObject =>
        refine .pure ?_
        intro same
        refine .some fun value => List.rel_append ?_ ?_
        · exact Demand.corresponds_ofPositions (List.forall₂_map_left_iff.mpr same) (List.forall₂_refl _)
        · split
          next inner found => exact (noObject inner found).elim
          next => exact .nil
  | _ => exact .pure .none

theorem yields_compilePatterns (patterns : List (String × Json)) :
    Yields interpreter final (compilePatterns compile patterns scope)
      (List.Forall₂ (fun entry rule =>
        Regex.ofString? entry.1 = some rule.1 ∧ Same ⟨entry.2, scope⟩ rule.2) patterns) := by
  apply Yields.mapM
  rintro ⟨source, schema⟩
  refine (yields_readPattern .patternProperties source).bind fun regex => ?_
  exact (inside schema scope).map fun rule same read => ⟨read, same⟩

theorem yields_compileAdditional (members : List (String × Json)) (additional : Option Json) :
    Yields interpreter final (compileAdditional compile additional scope)
      fun rest => ∀ name value, Demand.AllAlike Same
        (Interpreter.askOther members scope additional name value)
        (rest.demands (.ofMembers members) name value) := by
  cases additional with
  | none => exact .pure fun name value => .nil
  | some schema =>
      cases schema with
      | bool allowed =>
          cases allowed with
          | false => exact .pure fun name value => .cons .failure .nil
          | true => exact .pure fun name value => .nil
      | object inner =>
          refine (inside (.object inner) scope).map ?_
          intro rule same name value
          exact .cons (.inner rfl same) .nil
      | _ => exact .pure fun name value => .nil

omit inside in
theorem forall₂_rulesFor {declared patterns : List (String × Json)}
    {rules : List (String × Rule)} {patternRules : List (Regex × Rule)}
    (named : List.Forall₂ (fun entry rule => entry.1 = rule.1 ∧ Same ⟨entry.2, scope⟩ rule.2)
      declared rules)
    (matching : List.Forall₂ (fun entry rule =>
      Regex.ofString? entry.1 = some rule.1 ∧ Same ⟨entry.2, scope⟩ rule.2) patterns patternRules)
    (name : String) :
    List.Forall₂ Same (Interpreter.nodesFor scope declared patterns name)
      (Checker.rulesFor rules patternRules name) := by
  unfold Interpreter.nodesFor Checker.rulesFor
  apply List.forall₂_map_left_iff.mpr
  apply List.rel_append
  · induction named with
    | nil => exact .nil
    | @cons entry rule _ _ same _ ih =>
        obtain ⟨key, schema⟩ := entry
        obtain ⟨other, compiled⟩ := rule
        obtain ⟨rfl, same⟩ := same
        cases found : name == key with
        | true =>
            simp only [List.lookup_cons, found]
            exact .cons same .nil
        | false =>
            simp only [List.lookup_cons, found]
            exact ih
  · induction matching with
    | nil => exact .nil
    | @cons entry rule _ _ same _ ih =>
        obtain ⟨source, schema⟩ := entry
        obtain ⟨regex, compiled⟩ := rule
        obtain ⟨read, same⟩ := same
        dsimp only at read
        rw [List.filter_cons, List.filter_cons]
        simp only [read, Option.any_some]
        split
        next => exact .cons same ih
        next => exact ih

private theorem yields_compileMembers :
    Yields interpreter final (compileMembers compile members scope)
      (Option.Rel (Check.Answers Same (.ofMembers members))
        (Interpreter.askMembers? members scope)) := by
  unfold compileMembers Interpreter.askMembers?
  dsimp only
  split
  next =>
    split
    next => exact .pure .none
    next =>
      refine (yields_compileDeclared inside _).map ?_
      intro rules same
      refine .some fun value => ?_
      exact Demand.corresponds_ofDeclared listwise_forall₂ (List.forall₂_map_left_iff.mpr same)
        fun name => Optional.rel_self _
  next =>
    refine (yields_compileDeclared inside _).bind fun rules => ?_
    refine (yields_compilePatterns inside _).bind fun patternRules => ?_
    refine (yields_compileAdditional inside members _).map ?_
    intro additional others matching named
    refine .some fun value => ?_
    exact Demand.allAlike_ofMembers (forall₂_rulesFor named matching) others _

private theorem yields_compileDependencies (members entries : List (String × Json)) :
    Yields interpreter final (compileDependencies compile scope entries)
      fun compiled => ∀ value, Demand.AllAlike Same
        (Demand.ofPresent (Interpreter.askDependency members scope value) entries value)
        (Demand.ofPresent (Dependency.demands (.ofMembers members) value) compiled value) := by
  induction entries with
  | nil => exact .pure fun value => .nil
  | cons entry rest ih =>
      obtain ⟨name, dependency⟩ := entry
      unfold compileDependencies
      dsimp only
      split
      next inner =>
        simp only [pure_bind]
        refine (inside (.object inner) scope).bind fun rule => ?_
        refine ih.map ?_
        intro compiled others same value
        refine List.rel_append ?_ (others value)
        dsimp only
        split
        next => exact .cons (.same same) .nil
        next => exact .nil
      next names =>
        simp only [pure_bind]
        refine ih.map ?_
        intro compiled others value
        refine List.rel_append ?_ (others value)
        dsimp only
        split
        next => exact Demand.corresponds_ofNames _ fun _ => rfl
        next => exact .nil
      next noObject noNames =>
        simp only [pure_bind]
        refine ih.map ?_
        intro compiled others value
        have asksNothing : Interpreter.askDependency members scope value dependency = [] := by
          unfold Interpreter.askDependency
          split
          next inner => exact (noObject inner rfl).elim
          next names => exact (noNames names rfl).elim
          next => rfl
        have alike : Demand.AllAlike Same
            (if Entries.hasKey value name then
              Interpreter.askDependency members scope value dependency else []) [] := by
          rw [asksNothing, ite_self]
          exact .nil
        exact List.rel_append alike (others value)

private theorem yields_combinator {combine : List Rule → Check}
    {ask : List Json → Json → List (Demand SchemaNode)} (value : Json)
    (answers : ∀ branches rules, List.Forall₂ (fun branch rule => Same ⟨branch, scope⟩ rule)
      branches rules → Check.Answers Same (.ofMembers members) (ask branches) (combine rules)) :
    Yields interpreter final
      (compileBranches compile scope value >>= fun rules => Pure.pure (rules.map combine))
      (Option.Rel (Check.Answers Same (.ofMembers members)) (value.elements?.map ask)) := by
  refine (yields_compileBranches inside value).map ?_
  intro rules same
  revert same
  generalize value.elements? = branches
  intro same
  cases same with
  | none => exact .none
  | some same => exact .some (answers _ _ same)

end Inside

section Keyword

variable {compiler : Compiler} {final : Array Slot} {Same : SchemaNode → Rule → Prop}
  {compile : Json → Scope → Compiling Rule} {members : List (String × Json)} {scope : Scope}

private theorem yields_pattern (value : Json) :
    Yields compiler.interpreter final
      (compiler.compileKeyword compile members scope .pattern value)
      (Option.Rel (Check.Answers Same (.ofMembers members))
        (compiler.interpreter.ask? members scope .pattern value)) := by
  cases value with
  | string source =>
      refine (yields_readPattern .pattern source).map ?_
      intro regex read
      have emitted : some (Check.pattern regex) = (Regex.ofString? source).map .pattern := by
        rw [read]
        rfl
      rw [emitted]
      exact answers_leaf (Regex.ofString? source) .pattern (fun _ => rfl) (fun _ => rfl)
        fun _ _ => rfl
  | _ => exact .pure .none

private theorem yields_format (value : Json) :
    Yields compiler.interpreter final
      (compiler.compileKeyword compile members scope .format value)
      (Option.Rel (Check.Answers Same (.ofMembers members))
        (compiler.interpreter.ask? members scope .format value)) := by
  cases value with
  | string name =>
      have asked : compiler.interpreter.ask? members scope .format (.string name) =
          (if Entries.hasKey compiler.formats name then none
            else (compiler.registry.get? name).map fun format value =>
              !format.accepts value (.object members)).map fun fails value =>
            Demand.failIf (fails value) .format
              (Interpreter.message members .format none) := rfl
      rw [asked]
      unfold compileKeyword
      dsimp only
      by_cases isOwn : Entries.hasKey compiler.formats name = true
      · rw [if_pos isOwn, if_pos isOwn]
        exact .pure .none
      · rw [if_neg isOwn, if_neg isOwn]
        refine .pure (answers_leaf (compiler.registry.get? name)
          (fun format => .format (.ofFormat format members)) (fun _ => rfl)
          (fun _ => rfl) ?_)
        intro format value
        simp [Check.fails]
  | _ => exact .pure .none

private theorem yields_additionalItems (value : Json) :
    Yields compiler.interpreter final
      (compiler.compileKeyword compile members scope .additionalItems value)
      (Option.Rel (Check.Answers Same (.ofMembers members))
        (compiler.interpreter.ask? members scope .additionalItems value)) := by
  cases value with
  | bool allowed =>
      cases allowed with
      | false =>
          unfold Interpreter.ask? Interpreter.fails? compileKeyword
          dsimp only
          generalize members.lookup "items" = items
          rcases items with _ | (_ | _ | _ | _ | declared | _)
          case some.array =>
            exact .pure (answers_leaf (some declared.length) .additionalItems
              (fun _ => rfl) (fun _ => rfl) fun _ _ => rfl)
          all_goals exact .pure .none
      | true => exact .pure .none
  | _ => exact .pure .none

variable (inside : ∀ schema scope,
    Yields compiler.interpreter final (compile schema scope) (Same ⟨schema, scope⟩))

include inside

theorem yields_compileKeyword (keyword : Keyword) (value : Json) :
    Yields compiler.interpreter final
      (compiler.compileKeyword compile members scope keyword value)
      (Option.Rel (Check.Answers Same (.ofMembers members))
        (compiler.interpreter.ask? members scope keyword value)) := by
  cases keyword with
  | type =>
      exact .pure (answers_leaf (typeNames? value) .types (fun _ => rfl) (fun _ => rfl)
        fun _ _ => rfl)
  | enum =>
      exact .pure (answers_leaf value.elements? .enum (fun _ => rfl) (fun _ => rfl)
        fun _ _ => rfl)
  | minimum =>
      exact .pure (answers_leaf value.binary64? .minimum (fun _ => rfl) (fun _ => rfl)
        fun _ _ => rfl)
  | exclusiveMinimum =>
      exact .pure (answers_leaf (exclusiveBound? members value .minimum) .exclusiveMinimum
        (fun _ => rfl) (fun _ => rfl) fun _ _ => rfl)
  | maximum =>
      exact .pure (answers_leaf value.binary64? .maximum (fun _ => rfl) (fun _ => rfl)
        fun _ _ => rfl)
  | exclusiveMaximum =>
      exact .pure (answers_leaf (exclusiveBound? members value .maximum) .exclusiveMaximum
        (fun _ => rfl) (fun _ => rfl) fun _ _ => rfl)
  | multipleOf =>
      exact .pure (answers_leaf value.binary64?
        (fun divisor => .multipleOf (Divisor.ofBinary64 divisor)) (fun _ => rfl) (fun _ => rfl)
        fun _ _ => rfl)
  | minLength | maxLength | minItems | maxItems | maxProperties | minProperties =>
      exact .pure (answers_leaf (count? value) _ (fun _ => rfl) (fun _ => rfl) fun _ _ => rfl)
  | pattern => exact yields_pattern value
  | format => exact yields_format value
  | additionalItems => exact yields_additionalItems value
  | uniqueItems =>
      cases value with
      | bool unique =>
          cases unique with
          | false => exact .pure .none
          | true =>
              exact .pure (answers_leaf (some ()) (fun _ => .uniqueItems)
                (fun _ => rfl) (fun _ => rfl) fun _ _ => rfl)
      | _ => exact .pure .none
  | items => exact yields_compileItems inside value
  | required =>
      refine .pure ?_
      unfold Interpreter.ask?
      dsimp only
      cases strings value with
      | none => exact .none
      | some names => exact .some fun value => Demand.corresponds_ofNames _ fun _ => rfl
  | properties | patternProperties | additionalProperties => exact yields_compileMembers inside
  | dependencies =>
      cases value with
      | object entries =>
          refine (yields_compileDependencies inside members entries).map ?_
          intro compiled alike
          exact .some fun value => alike _
      | _ => exact .pure .none
  | allOf =>
      refine yields_combinator inside value ?_
      intro branches rules same instance_
      apply List.forall₂_map_left_iff.mpr
      apply List.forall₂_map_right_iff.mpr
      exact same.imp fun _ _ same => .same same
  | anyOf =>
      refine yields_combinator inside value ?_
      intro branches rules same instance_
      exact .cons (.choice (List.forall₂_map_left_iff.mpr same)) .nil
  | oneOf =>
      refine yields_combinator inside value ?_
      intro branches rules same instance_
      exact .cons (.choice (List.forall₂_map_left_iff.mpr same)) .nil
  | not =>
      cases value with
      | object inner =>
          refine (inside (.object inner) scope).map ?_
          intro rule same
          exact .some fun value => .cons (.choice (.cons same .nil)) .nil
      | _ => exact .pure .none

end Keyword

end Compiler

end JsonSchema
