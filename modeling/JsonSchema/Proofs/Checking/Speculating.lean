import JsonSchema.Proofs.Checking.FailFast
import JsonSchema.Proofs.Checking.Reached
import JsonSchema.Proofs.Interpreting.Alike

set_option autoImplicit false

/-! Branches that are only tried. Of what a branch logs nothing is kept but whether there is anything, and
that is a matter of the branch, the value and the slots that are open at its depth. So the combinators
are Boolean functions of their branches; the main statement is `Validator.combinators_speculate`. -/

namespace JsonSchema

/-! ### Whether something is found -/

namespace Demand

variable {Node : Type} {same otherSame : Node → Findings}
  {inner otherInner : String → Json → Node → Findings}
  {tokens otherTokens : List String}

private theorem findings_verdict (atSame : ∀ node, (same node).SameVerdict (otherSame node))
    (atInner : ∀ token part node, (inner token part node).SameVerdict (otherInner token part node))
    (demand : Demand Node) :
    (demand.findings same inner tokens).SameVerdict
      (demand.findings otherSame otherInner otherTokens) := by
  cases demand with
  | failure keyword property message =>
      intro found other atLeft atRight
      cases atLeft
      cases atRight
      rfl
  | same node => exact atSame node
  | inner token part node => exact atInner token part node
  | choice wanted message branches =>
      intro found other atLeft atRight
      obtain ⟨count, counted, rfl⟩ := findings_choice_eq_some _ _ _ atLeft
      obtain ⟨otherCount, otherCounted, rfl⟩ := findings_choice_eq_some _ _ _ atRight
      have each : List.Forall₂ Findings.SameVerdict (branches.map same) (branches.map otherSame) := by
        rw [List.forall₂_map_left_iff, List.forall₂_map_right_iff, List.forall₂_same]
        exact fun branch _ => atSame branch
      rw [Findings.tally_agree each count otherCount counted otherCounted]
      split <;> rfl

private theorem findingsOf_verdict (atSame : ∀ node, (same node).SameVerdict (otherSame node))
    (atInner : ∀ token part node, (inner token part node).SameVerdict (otherInner token part node))
    (demands : List (Demand Node)) :
    (findingsOf same inner tokens demands).SameVerdict
      (findingsOf otherSame otherInner otherTokens demands) := by
  apply Findings.gather_verdict
  rw [List.forall₂_map_left_iff, List.forall₂_map_right_iff, List.forall₂_same]
  exact fun demand _ => findings_verdict atSame atInner demand

end Demand

/-- Whether a rule finds something does not depend on the way to the value, nor on how large the budget is,
nor on the order in which slots were opened. -/
theorem Findings.ofRule_verdict {table : Array Rule} {budget other : Nat}
    {tokens otherTokens : List String} {here there : List Nat} {rule : Rule} {value : Json}
    (sameSlots : ∀ slot, slot ∈ here ↔ slot ∈ there) :
    (Findings.ofRule table budget tokens here rule value).SameVerdict
      (Findings.ofRule table other otherTokens there rule value) := by
  induction budget generalizing other tokens otherTokens here there rule value with
  | zero => intro found more known; cases known
  | succ budget ih =>
      cases other with
      | zero => intro found more _ known; cases known
      | succ other =>
          cases rule with
          | free =>
              intro found more known otherKnown
              cases known
              cases otherKnown
              rfl
          | slot slot =>
              rw [ofRule, ofRule]
              by_cases isOpen : slot ∈ here
              · rw [if_pos isOpen, if_pos ((sameSlots slot).mp isOpen)]
                exact .refl _
              · rw [if_neg isOpen, if_neg (mt (sameSlots slot).mpr isOpen)]
                cases table[slot]? with
                | none => exact .refl _
                | some body =>
                    apply ih
                    intro each
                    simp [sameSlots each]
          | checks general guarded formats messages =>
              rw [ofRule, ofRule]
              apply Demand.findingsOf_verdict
              · exact fun inside => ih sameSlots
              · exact fun token part inside => ih fun _ => Iff.rfl

noncomputable def Rule.findsAnything (table : Array Rule) (opened : Set Nat) (value : Json) (rule : Rule) :
    Bool :=
  open Classical in
  decide (∃ budget tokens here found, (∀ slot, slot ∈ here ↔ slot ∈ opened) ∧
    Findings.ofRule table budget tokens here rule value = some found ∧ found.isEmpty = false)

theorem Rule.findsAnything_eq {table : Array Rule} {opened : Set Nat} {budget : Nat}
    {tokens : List String} {here : List Nat} {rule : Rule} {value : Json}
    {found : List ValidationError} (sameSlots : ∀ slot, slot ∈ here ↔ slot ∈ opened)
    (known : Findings.ofRule table budget tokens here rule value = some found) :
    rule.findsAnything table opened value = !found.isEmpty := by
  rw [Bool.eq_iff_iff]
  simp only [findsAnything, decide_eq_true_eq, Bool.not_eq_true']
  constructor
  · rintro ⟨other, otherTokens, there, more, alsoSame, otherKnown, anything⟩
    rw [Findings.ofRule_verdict (fun slot => (sameSlots slot).trans (alsoSame slot).symm) found more
      known otherKnown]
    exact anything
  · intro anything
    exact ⟨budget, tokens, here, found, sameSlots, known, anything⟩

/-! ### Combinators -/

namespace Check

def isCombinator : Check → Bool
  | .anyOf _ | .oneOf _ | .not _ => true
  | _ => false

def failsBy (finds : Rule → Bool) : Check → Bool
  | .anyOf branches => branches.all finds
  | .oneOf branches => branches.countP (fun branch => !finds branch) != 1
  | .not rule => !finds rule
  | _ => false

private theorem demands_of_isCombinator {check : Check} (combines : check.isCombinator = true)
    (messages : Messages) (value : Json) :
    ∃ wanted : Choice, check.keyword = wanted.keyword ∧
      check.demands messages value =
        [.choice wanted (messages.find? wanted.keyword none) check.rulesInside] ∧
      ∀ finds : Rule → Bool, check.failsBy finds =
        !wanted.accepts (check.rulesInside.countP fun branch => !finds branch) := by
  cases check with
  | anyOf branches =>
      refine ⟨.any, rfl, rfl, fun finds => ?_⟩
      have none : branches.all finds = true ↔ ¬0 < branches.countP fun branch => !finds branch := by
        simp
      rw [Bool.eq_iff_iff, Bool.not_eq_true', Choice.accepts, decide_eq_false_iff_not]
      exact none
  | oneOf branches =>
      refine ⟨.one, rfl, rfl, fun finds => ?_⟩
      rw [failsBy, Choice.accepts, bne, beq_eq_decide]
      rfl
  | not rule =>
      refine ⟨.none, rfl, rfl, fun finds => ?_⟩
      cases finds rule <;> simp [failsBy, Choice.accepts, rulesInside, *]
  | _ => cases combines

end Check

namespace Checker

/-- What becomes of a combinator. A branch that is tried appends to the log and does nothing else; whether
it appends anything is what `finds` says of it. The combinator itself leaves the log as it is, or fails
and appends one error of its own. -/
structure Speculates (checker : Checker) (visit : Rule → Json → Bool → Checking Unit)
    (messages : Messages) (value : Json) (tried : Bool) (check : Check) (finds : Rule → Bool)
    (progress : Progress) : Prop where
  branches : ∀ branch ∈ check.rulesInside, ∃ more : Array ValidationError,
    visit branch value true progress = .ok () { progress with errors := progress.errors ++ more } ∧
      (finds branch = true ↔ 0 < more.size)
  passes : check.failsBy finds = false →
    checker.check visit messages value tried check progress = .ok () progress
  fails : check.failsBy finds = true →
    let own : ValidationError :=
      ⟨errorPath progress.tokens none, check.keyword, messages.find? check.keyword none⟩
    let after : Progress := { progress with errors := progress.errors.push own }
    checker.check visit messages value tried check progress =
      if checker.greedy || tried then .ok () after else .error .failFast after

section Combinator

variable {checker : Checker} {visit : Rule → Json → Bool → Checking Unit} {tokens : List String}
  {active : List (Nat × Nat)} {value : Json} {same : Rule → Findings} {finds : Rule → Bool}

private theorem tally_of_finds {branches : List Rule}
    (each : ∀ branch ∈ branches, ∃ found, same branch = some found ∧
      finds branch = !found.isEmpty) :
    Findings.tally (branches.map same) = some (branches.countP fun branch => !finds branch) := by
  induction branches with
  | nil => rfl
  | cons branch rest ih =>
      obtain ⟨⟨found, known, verdict⟩, others⟩ := List.forall_mem_cons.mp each
      rw [List.map_cons, known]
      refine (Findings.combine_cons_some (ih others)).trans ?_
      rw [List.countP_cons, verdict, Bool.not_not]
      cases found <;> simp [Nat.add_comm]

private theorem speculates_of_logs {check : Check} (combines : check.isCombinator = true)
    (messages : Messages) (tried : Bool)
    (atSame : ∀ rule found, same rule = some found →
      Logs false (visit rule value true) tokens active found)
    (each : ∀ branch ∈ check.rulesInside, ∃ found, same branch = some found ∧
      finds branch = !found.isEmpty) (errors : Array ValidationError) :
    checker.Speculates visit messages value tried check finds ⟨tokens, active, errors⟩ := by
  obtain ⟨wanted, keyword, demands, fails⟩ := Check.demands_of_isCombinator combines messages value
  have run : checker.check visit messages value tried check ⟨tokens, active, errors⟩ =
      (if check.failsBy finds then checker.raise check.keyword none
          (messages.find? check.keyword none) tried else pure () : Checking Unit)
        ⟨tokens, active, errors⟩ := by
    have counted := tally_of_finds each
    rw [check_eq_forM, demands, fails, keyword]
    simp only [List.forM_eq_forM, List.forM_cons, List.forM_nil, bind_pure_unit]
    rw [meet_choice_run atSame counted]
    cases wanted.accepts _ <;> rfl
  constructor
  case branches =>
    intro branch isBranch
    obtain ⟨found, known, verdict⟩ := each branch isBranch
    refine ⟨found.toArray, (atSame branch found known).runs (.inl rfl) errors, ?_⟩
    rw [verdict]
    cases found <;> simp
  case passes =>
    intro holds
    rw [run, holds]
    rfl
  case fails =>
    intro broken
    rw [run, broken, if_pos rfl, raise_run]
    split <;> rfl

end Combinator

end Checker

/-- The branches of a combinator that is run by a call are calls themselves. -/
theorem Frame.Reached.branch {checker : Checker} {entry : Rule} {value : Json} {budget : Nat}
    {frame : Frame} {general : List Check} {guarded : List (Kind × List Check)}
    {formats : List FormatCheck} {messages : Messages} {check : Check} {branch : Rule}
    (reached : Reached checker entry value (budget + 1) frame)
    (isChecks : frame.rule = .checks general guarded formats messages)
    (isRun : check ∈ Rule.checksFor general guarded frame.place.value)
    (combines : check.isCombinator = true) (isBranch : branch ∈ check.rulesInside) :
    Reached checker entry value budget { frame with rule := branch, tried := true } := by
  obtain ⟨wanted, _, demands, _⟩ :=
    Check.demands_of_isCombinator combines messages frame.place.value
  have asked : .choice wanted (messages.find? wanted.keyword none) check.rulesInside ∈
      check.demands messages frame.place.value := by
    rw [demands]
    exact List.mem_cons_self
  exact .call reached (.branch isChecks (Rule.mem_demands_of_run isRun asked) isBranch)

namespace Validator

/-- Nothing of a branch that is tried is left behind but the verdict of the combinator: from any log, the
one that this goes by is a function of the branch, the value and the slots that are open at its depth,
whatever the mode and whatever has been logged or tried before. -/
theorem combinators_speculate (validator : Validator) :
    ∃ finds : Set Nat → Json → Rule → Bool,
      ∀ (greedy : Bool) (value : Json) (budget : Nat) (frame : Frame),
        let checker := (validator.inMode greedy).checker
        let place := frame.place
        Frame.Reached checker validator.entry value (budget + 1) frame →
        ∀ general guarded formats messages, frame.rule = .checks general guarded formats messages →
        ∀ check ∈ Rule.checksFor general guarded place.value, check.isCombinator = true →
        ∀ errors : Array ValidationError,
          checker.Speculates (checker.visit budget) messages place.value frame.tried check
            (finds {slot | (slot, place.tokens.length) ∈ frame.active} place.value)
            ⟨place.tokens, frame.active, errors⟩ := by
  refine ⟨fun opened value rule => rule.findsAnything validator.checker.table opened value, ?_⟩
  intro greedy value budget frame checker place reached general guarded formats messages isChecks
    check isRun combines errors
  let same (rule : Rule) : Findings :=
    .ofRule checker.table budget place.tokens frame.here rule place.value
  have atSame (rule : Rule) (found : List ValidationError) (known : same rule = some found) :
      Logs false (checker.visit budget rule place.value true) place.tokens frame.active found := by
    have logs := checker.visit_logs true reached.openHere known
    rwa [Checker.halts, Bool.or_true, Bool.not_true] at logs
  have each (branch : Rule) (isBranch : branch ∈ check.rulesInside) :
      ∃ found, same branch = some found ∧
        branch.findsAnything checker.table {slot | (slot, place.tokens.length) ∈ frame.active}
          place.value = !found.isEmpty := by
    obtain ⟨found, known⟩ := (reached.branch isChecks isRun combines isBranch).known
    exact ⟨found, known, Rule.findsAnything_eq (fun slot => Frame.mem_here) known⟩
  exact Checker.speculates_of_logs combines messages frame.tried atSame each errors

def eitherSchema : Json :=
  .object [("anyOf", .array [.object [("type", .string "string")],
    .object [("not", .object [("type", .string "number")])]])]

def eitherCheck : Check :=
  let alone (check : Check) : Rule := .checks [check] [] [] ⟨none, [], []⟩
  .anyOf [alone (.types [.string]), alone (.not (alone (.types [.number])))]

def eitherValidator : Validator :=
  ⟨⟨eitherSchema, [], false⟩, .checks [eitherCheck] [] [] ⟨none, [], []⟩, ⟨#[], false⟩⟩

theorem combinators_speculate_either :
    compile eitherSchema .default = .ok eitherValidator ∧
      ∃ finds : Rule → Bool, ∀ errors : Array ValidationError,
        eitherValidator.checker.Speculates (eitherValidator.checker.visit 7) ⟨none, [], []⟩ (.bool true)
          false eitherCheck finds ⟨[], [], errors⟩ := by
  constructor
  · let compiler : Compiler := ⟨eitherValidator.documents, .standard, []⟩
    have ran : compiler.compile compiler.budget eitherSchema .main #[] =
        .ok (eitherValidator.entry, #[]) := rfl
    have whole : compiler.run = .ok (eitherValidator.entry, #[]) :=
      (bind_of_ends ran).trans (by simp; rfl)
    exact (bind_of_ends whole).trans rfl
  · obtain ⟨finds, speculates⟩ := combinators_speculate eitherValidator
    have budget : eitherValidator.checker.budget eitherValidator.entry (.bool true) = 7 + 1 := by
      decide +kernel
    let start : Frame := .start eitherValidator.entry (.bool true)
    have reached : Frame.Reached eitherValidator.checker eitherValidator.entry (.bool true) (7 + 1)
        start := budget ▸ .start
    refine ⟨finds {slot | (slot, start.place.tokens.length) ∈ start.active} (.bool true), ?_⟩
    intro errors
    exact speculates false _ 7 start reached _ _ _ _ rfl eitherCheck List.mem_cons_self rfl errors

end Validator

end JsonSchema
