import JsonSchema.Proofs.Checking.Reached
import JsonSchema.Proofs.Compiling.Partition

set_option autoImplicit false

/-! Which checks come to which values. The checks of a compiled schema stand in groups, and a group is
run only for values of its kind; so no check is asked about a value that its keyword does not speak of.
What `check` does then is never seen: any other way of evaluating checks that agrees where they speak of
their values comes to the same errors. The main statement is `Validator.checks_sorted_by_kind`. -/

namespace JsonSchema

def Check.SpeaksOf (check : Check) (value : Json) : Prop :=
  ∀ kind, check.keyword.kind? = some kind → kind.accepts value = true

theorem Rule.Sorted.speaksOf {general : List Check} {guarded : List (Kind × List Check)}
    {formats : List FormatCheck} {messages : Messages} {value : Json}
    (sorted : (Rule.checks general guarded formats messages).Sorted) :
    ∀ check ∈ Rule.checksFor general guarded value, check.SpeaksOf value := by
  obtain ⟨unlimited, limited⟩ := sorted
  intro check isRun kind ofKind
  rcases Rule.mem_checksFor.mp isRun with isGeneral | ⟨own, group, isGroup, accepts, isCheck⟩
  · rw [unlimited check isGeneral] at ofKind
    cases ofKind
  · rw [limited own group isGroup check isCheck] at ofKind
    cases ofKind
    exact accepts

theorem Kind.exists_text {value : Json} (accepts : Kind.string.accepts value = true) :
    ∃ text, value = .string text := by
  cases value with
  | string text => exact ⟨text, rfl⟩
  | _ => cases accepts

abbrev Evaluation :=
  (Rule → Json → Bool → Checking Unit) → Messages → Json → Bool → Check → Checking Unit

namespace Checker

/-! ### Checkers with another evaluation -/

section By

variable (checker : Checker) (evaluate : Evaluation)

def checkNodeBy (visit : Rule → Json → Bool → Checking Unit) (general : List Check)
    (guarded : List (Kind × List Check)) (formats : List FormatCheck) (messages : Messages)
    (value : Json) (tried : Bool) : Checking Unit := do
  general.forM (evaluate visit messages value tried)
  guarded.forM fun (kind, checks) =>
    if kind.accepts value then checks.forM (evaluate visit messages value tried) else pure ()
  formats.forM fun format =>
    if format.accepts value then pure () else checker.report messages .format none tried

/-- Checks a value like `visit`, with another evaluation in the place of `check`. -/
def visitBy : Nat → Rule → Json → Bool → Checking Unit
  | 0, _, _, _ => throw .exhausted
  | budget + 1, rule, value, tried =>
      match rule with
      | .free => pure ()
      | .slot slot => checker.checkSlot (visitBy budget) slot value tried
      | .checks general guarded formats messages =>
          checker.checkNodeBy evaluate (visitBy budget) general guarded formats messages value tried

def errorsBy (entry : Rule) (value : Json) : Except Exhausted (List ValidationError) :=
  match checker.visitBy evaluate (checker.budget entry value) entry value false .start with
  | .ok _ progress => .ok progress.errors.toList
  | .error .failFast progress => .ok progress.errors.toList
  | .error .exhausted _ => .error ⟨⟩

end By

/-- An evaluation does what `check` does, as far as checks speak of their values. -/
def Agrees (checker : Checker) (evaluate : Evaluation) : Prop :=
  ∀ visit messages value tried check, check.SpeaksOf value →
    evaluate visit messages value tried check = checker.check visit messages value tried check

variable {checker : Checker} {evaluate : Evaluation}

private theorem visitBy_check : checker.visitBy checker.check = checker.visit := by
  funext budget
  induction budget with
  | zero => rfl
  | succ budget ih =>
      funext rule value tried
      unfold visitBy visit visitRule
      rw [ih]
      rfl

theorem errorsBy_check (entry : Rule) (value : Json) :
    checker.errorsBy checker.check entry value = checker.errors entry value := by
  unfold errorsBy
  rw [visitBy_check]
  rfl

/-! ### Evaluations that agree -/

private theorem forM_congr {Item : Type} {items : List Item} {first second : Item → Checking Unit}
    (same : ∀ item ∈ items, first item = second item) : items.forM first = items.forM second := by
  induction items with
  | nil => rfl
  | cons item rest ih =>
      obtain ⟨atItem, atRest⟩ := List.forall_mem_cons.mp same
      simp only [List.forM_eq_forM] at ih
      simp only [List.forM_eq_forM, List.forM_cons, atItem, ih atRest]

section Inside

variable {visit other : Rule → Json → Bool → Checking Unit} {value : Json} {tried : Bool}

private theorem meet_congr {rules : List Rule} {demand : Demand Rule} (within : demand.Within rules value)
    (same : ∀ rule ∈ rules, visit rule = other rule) :
    checker.meet visit value tried demand = checker.meet other value tried demand := by
  cases demand with
  | failure keyword property message => rfl
  | same rule => rw [meet, meet, same rule within]
  | inner token part rule => rw [meet, meet, same rule within.1]
  | choice wanted message branches =>
      have tries : (branches.map fun branch => visit branch value true) =
          branches.map fun branch => other branch value true := by
        apply List.map_congr_left
        intro branch isBranch
        rw [same branch (within branch isBranch)]
      have chosen : chooses visit value branches wanted = chooses other value branches wanted := by
        unfold chooses
        dsimp only
        rw [tries]
      rw [meet, meet, chosen]

private theorem check_congr {messages : Messages} {check : Check}
    (same : ∀ rule ∈ check.rulesInside, visit rule = other rule) :
    checker.check visit messages value tried check = checker.check other messages value tried check := by
  rw [check_eq_forM, check_eq_forM]
  exact forM_congr fun demand asked => meet_congr (Check.demands_within asked) same

private theorem checkSlot_congr {slot : Nat}
    (same : ∀ body, checker.table[slot]? = some body → visit body = other body) :
    checker.checkSlot visit slot value tried = checker.checkSlot other slot value tried := by
  funext progress
  by_cases isOpen : (slot, progress.tokens.length) ∈ progress.active
  · rw [checkSlot_open_run isOpen, checkSlot_open_run isOpen]
  · cases entry : checker.table[slot]? with
    | none => rw [checkSlot_unfilled_run isOpen entry, checkSlot_unfilled_run isOpen entry]
    | some body =>
        rw [checkSlot_filled_run isOpen entry, checkSlot_filled_run isOpen entry, same body entry]

/-- Only the checks that are run for a value matter to the evaluation of a node. -/
theorem checkNodeBy_congr {own : Evaluation} {general : List Check}
    {guarded : List (Kind × List Check)} {formats : List FormatCheck} {messages : Messages}
    (same : ∀ check ∈ Rule.checksFor general guarded value,
      evaluate visit messages value tried check = own other messages value tried check) :
    checker.checkNodeBy evaluate visit general guarded formats messages value tried =
      checker.checkNodeBy own other general guarded formats messages value tried := by
  have atGeneral : general.forM (evaluate visit messages value tried) =
      general.forM (own other messages value tried) :=
    forM_congr fun check isGeneral => same check (Rule.mem_checksFor.mpr (.inl isGeneral))
  unfold checkNodeBy
  rw [atGeneral]
  congr 1
  funext _
  congr 1
  apply forM_congr
  rintro ⟨kind, group⟩ isGroup
  dsimp only
  split
  next accepts =>
    apply forM_congr
    intro check isCheck
    exact same check (Rule.mem_checksFor.mpr (.inr ⟨kind, group, isGroup, accepts, isCheck⟩))
  next => rfl

end Inside

/-- In a rule whose checks are sorted, and so are those of all rules that it comes to, every evaluation
that agrees does the same. -/
theorem visitBy_eq_visit (agrees : checker.Agrees evaluate)
    (inTable : ∀ body ∈ checker.table, ∀ inside, body.Holds inside → inside.Sorted) (budget : Nat)
    {rule : Rule} (sorted : ∀ inside, rule.Holds inside → inside.Sorted) :
    checker.visitBy evaluate budget rule = checker.visit budget rule := by
  induction budget generalizing rule with
  | zero => rfl
  | succ budget ih =>
      funext value tried
      cases rule with
      | free => rfl
      | slot slot =>
          apply checkSlot_congr
          intro body filled
          exact ih (inTable body (Array.mem_of_getElem? filled))
      | checks general guarded formats messages =>
          have speak : ∀ check ∈ Rule.checksFor general guarded value, check.SpeaksOf value :=
            (sorted _ .refl).speaksOf
          apply checkNodeBy_congr
          intro check isRun
          rw [agrees _ _ _ _ _ (speak check isRun)]
          apply check_congr
          intro inner within
          apply ih
          intro inside holds
          refine sorted inside (.head ?_ holds)
          exact List.mem_flatMap.mpr ⟨check, Rule.mem_allChecks_of_run isRun, within⟩

end Checker

namespace Validator

/-- The checks of every node without reference are sorted by kind, in the order in which the members of
the node emit them. So a check is run only for values that it speaks of, a format of the registry only
for texts; and what the evaluation of a check does with other values never shows in the errors. -/
theorem checks_sorted_by_kind {schema : Json} {options : Options} {validator : Validator}
    (compiled : compile schema options = .ok validator) :
    (∀ (run : Compiler.Run
          ⟨⟨schema, options.schemas, options.missingRefAllowed⟩, options.registry, options.formats⟩)
        members scope,
      run.node = ⟨.object members, scope⟩ → members.lookup "$ref" = none →
        ∃ emitted general guarded, run.Sorts members scope emitted general guarded) ∧
    (∀ value frame, Frame.Visits validator.checker.table (.start validator.entry value) frame →
      ∀ general guarded formats messages, frame.rule = .checks general guarded formats messages →
        ∀ check ∈ Rule.checksFor general guarded frame.place.value,
          check.SpeaksOf frame.place.value ∧
            ∀ named, check = .format named → ∃ text, frame.place.value = .string text) ∧
    ∀ evaluate, validator.checker.Agrees evaluate → ∀ value,
      validator.checker.errorsBy evaluate validator.entry value = validator.validate value := by
  refine ⟨fun run members scope => run.exists_sorts, ?_, ?_⟩
  · intro value frame visits general guarded formats messages isChecks check isRun
    obtain ⟨origin, known, holds⟩ := visits.exists_holds
    have sorted := sorted_of_compile compiled known holds
    rw [isChecks] at sorted
    have speaks := sorted.speaksOf check isRun
    refine ⟨speaks, ?_⟩
    rintro named rfl
    exact Kind.exists_text (speaks .string rfl)
  · intro evaluate agrees value
    have visited := Checker.visitBy_eq_visit agrees
      (fun body inTable inside holds => sorted_of_compile compiled (.inr inTable) holds)
      (validator.checker.budget validator.entry value)
      fun inside holds => sorted_of_compile compiled (.inl rfl) holds
    unfold Checker.errorsBy
    rw [visited]
    rfl

def mixedMembers : List (String × Json) :=
  [("format", .string "time"),
    ("additionalProperties", .object [("type", .string "string")]),
    ("anyOf", .array [.object [("type", .string "string")], .object [("type", .string "object")]]),
    ("pattern", .string "^1"),
    ("title", .string "times by name"),
    ("properties", .object [("first", .object [("$ref", .string "#")])]),
    ("required", .array [.string "first"])]

theorem checks_sorted_by_kind_mixed :
    ∃ validator, compile (.object mixedMembers) .default = .ok validator ∧
      ∃ (whole : Compiler.Run ⟨⟨.object mixedMembers, [], false⟩, .standard, []⟩)
        (emitted : List (Keyword × Check)) (general : List Check)
        (guarded : List (Kind × List Check)),
        whole.rule = validator.entry ∧ whole.Sorts mixedMembers .main emitted general guarded ∧
          ∀ evaluate, validator.checker.Agrees evaluate →
            validator.checker.errorsBy evaluate validator.entry .null = validator.validate .null := by
  obtain ⟨validator, compiled, _⟩ :=
    exists_of_isOk (.object mixedMembers) .default (by decide +kernel)
  obtain ⟨whole, isNode, _, isEntry, _⟩ := links_of_compile compiled
  obtain ⟨sorts, _, same⟩ := checks_sorted_by_kind compiled
  obtain ⟨emitted, general, guarded, sorted⟩ := sorts whole mixedMembers .main isNode rfl
  exact ⟨validator, compiled, whole, emitted, general, guarded, isEntry, sorted,
    fun evaluate agrees => same evaluate agrees .null⟩

end Validator

end JsonSchema
