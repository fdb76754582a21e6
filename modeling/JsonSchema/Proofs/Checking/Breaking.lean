import JsonSchema.Proofs.Compiling.Members

set_option autoImplicit false

/-! Nodes whose keywords take constants: numbers, flags and lists of values, but no schemas and no patterns.
Such a node takes no slots, and the errors that are reported by it are one for each keyword that a value
breaks, wherever the node and the value stand. The main statement is `breaks_of_reads`. -/

namespace JsonSchema

structure HasOnly (wanted : Keyword → Bool) (members : List (String × Json)) : Prop where
  noReference : members.lookup "$ref" = none
  keywords : ∀ keyword ∈ Compiler.keywordsOf members, wanted keyword = true

def ownError (members : List (String × Json)) (tokens : List String) (keyword : Keyword) :
    ValidationError :=
  ⟨errorPath tokens none, keyword, Interpreter.message members keyword none⟩

/-- A value breaks just these keywords of a node. Wherever the node stands in a schema, compiling it comes
to one rule and takes no slot; wherever the rule is run for the value, one error is logged for each of the
keywords, in some order. The node can also be the whole schema. -/
structure Breaks (members : List (String × Json)) (value : Json) (broken : List Keyword) : Prop where
  anywhere : ∀ (compiler : Compiler) (scope : Scope), ∃ rule,
    (∀ budget slots, compiler.compile (budget + 1) (.object members) scope slots = .ok (rule, slots)) ∧
      ∀ (checker : Checker) (tried : Bool) (tokens : List String) (active : List (Nat × Nat))
        (budget : Nat), ∃ found, found.Perm (broken.map (ownError members tokens)) ∧
          Logs (checker.halts tried) (checker.visit (budget + 1) rule value tried) tokens active found
  whole : ∀ options : Options, ∃ validator found,
    Validator.compile (.object members) options = .ok validator ∧
      found.Perm (broken.map (ownError members [])) ∧
      validator.validate value = .ok (if options.greedy then found else found.take 1)

structure ReadAs (members : List (String × Json)) (keyword : Keyword) (argument : Json)
    (check : Option Check) : Prop where
  compiles : ∀ (compiler : Compiler) (compile : Json → Scope → Compiling Rule) (scope : Scope),
    compiler.compileKeyword compile members scope keyword argument = pure check
  plain : ∀ made ∈ check, made.isPlain = true
  named : ∀ made ∈ check, made.keyword = keyword

namespace Breaks

variable {members : List (String × Json)} {value : Json} {broken others : List Keyword}

theorem perm (breaks : Breaks members value broken) (perm : broken.Perm others) :
    Breaks members value others where
  anywhere := by
    intro compiler scope
    obtain ⟨rule, compiles, runs⟩ := breaks.anywhere compiler scope
    refine ⟨rule, compiles, ?_⟩
    intro checker tried tokens active budget
    obtain ⟨found, same, logs⟩ := runs checker tried tokens active budget
    exact ⟨found, same.trans (perm.map _), logs⟩
  whole := by
    intro options
    obtain ⟨validator, found, compiled, same, validated⟩ := breaks.whole options
    exact ⟨validator, found, compiled, same.trans (perm.map _), validated⟩

/-- What is so of a node inside a schema is so of the schema that is nothing but this node. -/
theorem of_anywhere
    (anywhere : ∀ (compiler : Compiler) (scope : Scope), ∃ rule,
      (∀ budget slots,
        compiler.compile (budget + 1) (.object members) scope slots = .ok (rule, slots)) ∧
      ∀ (checker : Checker) (tried : Bool) (tokens : List String) (active : List (Nat × Nat))
        (budget : Nat), ∃ found, found.Perm (broken.map (ownError members tokens)) ∧
          Logs (checker.halts tried) (checker.visit (budget + 1) rule value tried) tokens active
            found) :
    Breaks members value broken where
  anywhere := anywhere
  whole := by
    intro options
    let compiler : Compiler := ⟨⟨.object members, options.schemas, options.missingRefAllowed⟩,
      options.registry, options.formats⟩
    obtain ⟨rule, compiles, runs⟩ := anywhere compiler .main
    let validator : Validator := ⟨compiler.documents, rule, ⟨#[], options.greedy⟩⟩
    have compiled : Validator.compile (.object members) options = .ok validator := by
      have ran : compiler.compile compiler.budget compiler.documents.main .main #[] =
          .ok (rule, #[]) := compiles _ #[]
      have whole : compiler.run = .ok (rule, #[]) := (bind_of_ends ran).trans (by simp; rfl)
      exact (bind_of_ends whole).trans rfl
    have positive : validator.checker.budget rule value ≠ 0 := by simp [Checker.budget]
    obtain ⟨budget, isBudget⟩ := Nat.exists_eq_succ_of_ne_zero positive
    obtain ⟨found, same, logs⟩ := runs validator.checker false [] [] budget
    rw [← Nat.succ_eq_add_one, ← isBudget] at logs
    exact ⟨validator, found, compiled, same, validator.checker.errors_of_logs logs⟩

end Breaks

section Reading

variable {wanted : Keyword → Bool} {members : List (String × Json)}
  {reads : Keyword → Json → Option Check}

def readChecks (reads : Keyword → Json → Option Check) (members : List (String × Json))
    (keywords : List Keyword) : List (Keyword × Check) :=
  keywords.filterMap fun keyword =>
    ((members.lookup keyword.name).bind (reads keyword)).map fun check => (keyword, check)

def isBroken (reads : Keyword → Json → Option Check) (members : List (String × Json)) (value : Json)
    (keyword : Keyword) : Bool :=
  ((members.lookup keyword.name).bind (reads keyword)).any fun check =>
    keyword.kind?.all (·.accepts value) && check.fails value

variable (each : ∀ keyword, wanted keyword = true → ∀ argument,
  members.lookup keyword.name = some argument →
    ReadAs members keyword argument (reads keyword argument))

include each

private theorem compileKeywords_of_reads (compiler : Compiler) (compile : Json → Scope → Compiling Rule)
    (scope : Scope) {keywords : List Keyword} (among : ∀ keyword ∈ keywords, wanted keyword = true) :
    compiler.compileKeywords compile members scope keywords =
      pure (readChecks reads members keywords) := by
  induction keywords with
  | nil => rfl
  | cons keyword rest ih =>
      obtain ⟨own, others⟩ := List.forall_mem_cons.mp among
      rw [Compiler.compileKeywords, ih others]
      cases found : members.lookup keyword.name with
      | none => simp [readChecks, found]
      | some argument =>
          simp only [(each keyword own argument found).compiles, pure_bind]
          cases read : reads keyword argument <;> simp [readChecks, found, read]

private theorem readAs_of_mem {keywords : List Keyword}
    (among : ∀ keyword ∈ keywords, wanted keyword = true)
    {keyword : Keyword} {check : Check} (made : (keyword, check) ∈ readChecks reads members keywords) :
    check.isPlain = true ∧ check.keyword = keyword := by
  obtain ⟨own, isOwn, reading⟩ := List.mem_filterMap.mp made
  obtain ⟨same, read, isEntry⟩ := Option.map_eq_some_iff.mp reading
  obtain ⟨argument, found, isRead⟩ := Option.bind_eq_some_iff.mp read
  cases isEntry
  have readAs := each keyword (among keyword isOwn) argument found
  exact ⟨readAs.plain check isRead, readAs.named check isRead⟩

omit each in
/-- The keywords whose checks are run for a value and fail are the broken ones. -/
theorem failing_eq (value : Json) (keywords : List Keyword) :
    ((readChecks reads members keywords).filter fun entry =>
        entry.1.kind?.all (·.accepts value) && entry.2.fails value).map (·.1) =
      keywords.filter (isBroken reads members value) := by
  induction keywords with
  | nil => rfl
  | cons keyword rest ih =>
      rw [List.filter_cons, ← ih]
      unfold isBroken readChecks
      rw [List.filterMap_cons]
      cases (members.lookup keyword.name).bind (reads keyword) with
      | none => rfl
      | some check =>
          rw [Option.map_some, List.filter_cons, Option.any_some]
          dsimp only
          split <;> rfl

end Reading

/-! ### Running the checks -/

section Running

variable {members : List (String × Json)} {value : Json} {emitted : List (Keyword × Check)}

def failure (members : List (String × Json)) (tokens : List String) (value : Json) (check : Check) :
    List ValidationError :=
  if check.fails value then [ownError members tokens check.keyword] else []

private theorem logs_of_isPlain (checker : Checker) (visit : Rule → Json → Bool → Checking Unit)
    (tried : Bool) (tokens : List String) (active : List (Nat × Nat)) {check : Check}
    (plain : check.isPlain = true) :
    Logs (checker.halts tried)
      ((check.demands (.ofMembers members) value).forM (checker.meet visit value tried)) tokens active
      (failure members tokens value check) := by
  rw [Check.demands_of_isPlain plain, Checker.meet_failIf, failure]
  split
  next => exact Checker.raise_logs _ _ _ _
  next => exact .nothing

private theorem flatMap_failure {tokens : List String}
    (named : ∀ entry ∈ emitted, entry.2.keyword = entry.1) :
    (emitted.map (·.2)).flatMap (failure members tokens value) =
      ((emitted.filter fun entry => entry.2.fails value).map (·.1)).map
        (ownError members tokens) := by
  induction emitted with
  | nil => rfl
  | cons entry rest ih =>
      obtain ⟨own, others⟩ := List.forall_mem_cons.mp named
      rw [List.map_cons, List.flatMap_cons, ih others, List.filter_cons, failure, own]
      split <;> rfl

private theorem logs_of_plain (checker : Checker) (tried : Bool) (tokens : List String)
    (active : List (Nat × Nat)) (budget : Nat)
    (plain : ∀ entry ∈ emitted, entry.2.isPlain = true ∧ entry.2.keyword = entry.1) :
    ∃ found, found.Perm (((emitted.filter fun entry =>
          entry.1.kind?.all (·.accepts value) && entry.2.fails value).map (·.1)).map
            (ownError members tokens)) ∧
      Logs (checker.halts tried)
        (checker.visit (budget + 1) (.ofChecks emitted [] (.ofMembers members)) value tried) tokens
        active found := by
  let run := Rule.checksFor (Check.grouped emitted).1 (Check.grouped emitted).2 value
  have perm : run.Perm ((emitted.filter fun entry => entry.1.kind?.all (·.accepts value)).map (·.2)) :=
    Check.grouped_perm (·.accepts value) emitted
  refine ⟨run.flatMap (failure members tokens value), ?_, ?_⟩
  · refine (perm.flatMap_right _).trans (.of_eq ?_)
    rw [flatMap_failure fun entry member => (plain entry (List.mem_of_mem_filter member)).2,
      List.filter_filter]
    simp only [Bool.and_comm]
  · change Logs _ (checker.checkNode (checker.visit budget) (Check.grouped emitted).1
      (Check.grouped emitted).2 [] (.ofMembers members) value tried) _ _ _
    rw [Checker.checkNode_eq_forM, Rule.demands_eq, List.flatMap_nil, List.append_nil, forM_flatMap]
    refine Logs.forM fun check isRun => logs_of_isPlain checker _ tried tokens active ?_
    obtain ⟨entry, member, rfl⟩ := List.mem_map.mp (perm.mem_iff.mp isRun)
    exact (plain entry (List.mem_of_mem_filter member)).1

end Running

/-! ### The keywords of a node -/

section Keywords

variable {members : List (String × Json)} {reads : Keyword → Json → Option Check} {value : Json}
  {keyword : Keyword}

private theorem mem_keywordsOf_of_isBroken (alone : keyword.isAboutMembers = false)
    (broken : isBroken reads members value keyword = true) :
    keyword ∈ Compiler.keywordsOf members := by
  cases found : members.lookup keyword.name with
  | none => simp [isBroken, found] at broken
  | some argument => exact Compiler.mem_keywordsOf found alone

/-- The broken keywords of a node are found as well among all those that it may have. -/
theorem filter_isBroken_perm {keywords : List Keyword} (distinct : (Entries.names members).Nodup)
    (once : keywords.Nodup) (alone : ∀ keyword ∈ keywords, keyword.isAboutMembers = false)
    (listed : ∀ keyword ∈ Compiler.keywordsOf members, keyword ∈ keywords) :
    ((Compiler.keywordsOf members).filter (isBroken reads members value)).Perm
      (keywords.filter (isBroken reads members value)) := by
  rw [List.perm_ext_iff_of_nodup ((Compiler.nodup_keywordsOf distinct).filter _) (once.filter _)]
  intro keyword
  rw [List.mem_filter, List.mem_filter]
  refine and_congr_left fun broken => ⟨listed keyword, fun isListed => ?_⟩
  exact mem_keywordsOf_of_isBroken (alone keyword isListed) broken

end Keywords

/-! ### Nodes of constants -/

private theorem ownFormats_of_unmentioned {members : List (String × Json)}
    (unmentioned : Keyword.format ∉ Compiler.keywordsOf members) (compiler : Compiler) :
    compiler.ownFormats members = [] := by
  have absent : members.lookup "format" = none := by
    cases found : members.lookup "format" with
    | none => rfl
    | some argument =>
        have named : members.lookup Keyword.format.name = some argument := found
        exact absurd (Compiler.mem_keywordsOf named rfl) unmentioned
  rw [Compiler.ownFormats, absent]
  rfl

/-- What a value breaks of a node, when each keyword that the node may have is read as a check. -/
theorem breaks_of_reads {wanted : Keyword → Bool} {members : List (String × Json)}
    {reads : Keyword → Json → Option Check} (only : HasOnly wanted members)
    (noFormat : wanted .format = false)
    (each : ∀ keyword, wanted keyword = true → ∀ argument,
      members.lookup keyword.name = some argument →
        ReadAs members keyword argument (reads keyword argument)) (value : Json) :
    Breaks members value ((Compiler.keywordsOf members).filter (isBroken reads members value)) := by
  apply Breaks.of_anywhere
  intro compiler scope
  let emitted := readChecks reads members (Compiler.keywordsOf members)
  refine ⟨.ofChecks emitted [] (.ofMembers members), ?_, ?_⟩
  · intro budget slots
    have unmentioned : Keyword.format ∉ Compiler.keywordsOf members := by
      intro mentioned
      rw [only.keywords _ mentioned] at noFormat
      cases noFormat
    rw [Compiler.compile, Compiler.compileNode, only.noReference]
    dsimp only
    rw [compileKeywords_of_reads each compiler _ scope only.keywords, pure_bind,
      ownFormats_of_unmentioned unmentioned]
    rfl
  · intro checker tried tokens active budget
    rw [← failing_eq]
    exact logs_of_plain checker tried tokens active budget
      fun entry made => readAs_of_mem each only.keywords made

theorem breaks_among {wanted : Keyword → Bool} {members : List (String × Json)}
    {reads : Keyword → Json → Option Check} {keywords : List Keyword} (only : HasOnly wanted members)
    (distinct : (Entries.names members).Nodup) (once : keywords.Nodup)
    (alone : ∀ keyword ∈ keywords, keyword.isAboutMembers = false)
    (listed : ∀ keyword, wanted keyword = true → keyword ∈ keywords) (noFormat : wanted .format = false)
    (each : ∀ keyword, wanted keyword = true → ∀ argument,
      members.lookup keyword.name = some argument →
        ReadAs members keyword argument (reads keyword argument)) (value : Json) :
    Breaks members value (keywords.filter (isBroken reads members value)) :=
  (breaks_of_reads only noFormat each value).perm (filter_isBroken_perm distinct once alone
    fun keyword isKeyword => listed keyword (only.keywords keyword isKeyword))

end JsonSchema
