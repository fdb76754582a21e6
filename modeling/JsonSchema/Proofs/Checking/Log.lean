import Mathlib.Data.List.Forall2
import JsonSchema.Proofs.Checking.Demand

set_option autoImplicit false

/-! What a run of the checker leaves behind. A run that comes to an end appends to the log what the rule
finds, in this order, and leaves the way to the value and the open slots as they were. A run that
stops at errors appends the first of them and stops. The main statement is `Checker.visit_logs`;
`Checker.errors_of_findings` draws the list of errors of a whole check from it. -/

namespace JsonSchema

/-- What a run does that begins at a place: `halting` tells whether the first error ends it. -/
structure Logs (halting : Bool) (body : Checking Unit) (tokens : List String)
    (active : List (Nat × Nat)) (found : List ValidationError) : Prop where
  runs : halting = false ∨ found = [] → ∀ errors,
    body ⟨tokens, active, errors⟩ = .ok () ⟨tokens, active, errors ++ found.toArray⟩
  stops : halting = true → ∀ first rest, found = first :: rest → ∀ errors,
    ∃ last, body ⟨tokens, active, errors⟩ = .error .failFast last ∧
      last.errors = errors.push first

namespace Checking

theorem bind_ok {Answer Result : Type} {first : Checking Answer} {next : Answer → Checking Result}
    {progress after : Progress} {answer : Answer} (ran : first progress = .ok answer after) :
    (first >>= next) progress = next answer after := by
  change EStateM.bind first next progress = _
  simp only [EStateM.bind, ran]

theorem bind_error {Answer Result : Type} {first : Checking Answer} {next : Answer → Checking Result}
    {progress after : Progress} {halt : Halt} (stopped : first progress = .error halt after) :
    (first >>= next) progress = .error halt after := by
  change EStateM.bind first next progress = _
  simp only [EStateM.bind, stopped]

/-! How the combinators run, as one body and what comes after it. -/

theorem below_run (token : String) (body : Checking Unit) (progress : Progress) :
    below token body progress =
      (body >>= fun _ => modify fun progress =>
        { progress with tokens := progress.tokens.drop 1 })
        { progress with tokens := token :: progress.tokens } :=
  rfl

theorem succeeds_run (body : Checking Unit) (progress : Progress) :
    succeeds body progress =
      (body >>= fun _ => do return (← get).errors.size == progress.errors.size) progress :=
  rfl

theorem withoutErrors_run {Answer : Type} (body : Checking Answer) (progress : Progress) :
    withoutErrors body progress =
      (body >>= fun answer => do
        modify fun after => { after with errors := after.errors.shrink progress.errors.size }
        return answer) progress :=
  rfl

end Checking

namespace Checker

variable {checker : Checker} {visit : Rule → Json → Bool → Checking Unit} {slot : Nat}
  {value : Json} {tried : Bool} {progress : Progress}

theorem checkSlot_open_run (isOpen : (slot, progress.tokens.length) ∈ progress.active) :
    checker.checkSlot visit slot value tried progress = .ok () progress := by
  change (if (slot, progress.tokens.length) ∈ progress.active then _ else _ : Checking Unit) _ = _
  rw [if_pos isOpen]
  rfl

theorem checkSlot_unfilled_run (notOpen : (slot, progress.tokens.length) ∉ progress.active)
    (unfilled : checker.table[slot]? = none) :
    checker.checkSlot visit slot value tried progress = .ok () progress := by
  change (if (slot, progress.tokens.length) ∈ progress.active then _ else _ : Checking Unit) _ = _
  rw [if_neg notOpen, unfilled]
  rfl

theorem checkSlot_filled_run {body : Rule}
    (notOpen : (slot, progress.tokens.length) ∉ progress.active)
    (filled : checker.table[slot]? = some body) :
    checker.checkSlot visit slot value tried progress =
      (visit body value tried >>= fun _ => modify fun progress =>
        { progress with active := progress.active.drop 1 })
        { progress with active := (slot, progress.tokens.length) :: progress.active } := by
  change (if (slot, progress.tokens.length) ∈ progress.active then _ else _ : Checking Unit) _ = _
  rw [if_neg notOpen, filled]
  rfl

end Checker

namespace Logs

open Checking

variable {halting : Bool} {tokens : List String} {active : List (Nat × Nat)}

theorem nothing : Logs halting (pure ()) tokens active [] where
  runs := by
    intro _ errors
    simp only [Array.append_empty]
    rfl
  stops := by
    intro _ first rest impossible
    cases impossible

private theorem of_eq {body : Checking Unit} (other : Checking Unit) {found : List ValidationError}
    (equal : ∀ errors, body ⟨tokens, active, errors⟩ = other ⟨tokens, active, errors⟩)
    (logs : Logs halting other tokens active found) : Logs halting body tokens active found where
  runs := fun quiet errors => (equal errors).trans (logs.runs quiet errors)
  stops := by
    intro halts first rest split errors
    obtain ⟨last, stopped, logged⟩ := logs.stops halts first rest split errors
    exact ⟨last, (equal errors).trans stopped, logged⟩

private theorem seq {first second : Checking Unit} {found more : List ValidationError}
    (atFirst : Logs halting first tokens active found)
    (atSecond : Logs halting second tokens active more) :
    Logs halting (first >>= fun _ => second) tokens active (found ++ more) := by
  constructor
  · intro quiet errors
    have quietFirst : halting = false ∨ found = [] := by
      rcases quiet with runsOn | none
      · exact .inl runsOn
      · exact .inr (List.append_eq_nil_iff.mp none).1
    have quietSecond : halting = false ∨ more = [] := by
      rcases quiet with runsOn | none
      · exact .inl runsOn
      · exact .inr (List.append_eq_nil_iff.mp none).2
    have joined : errors ++ found.toArray ++ more.toArray = errors ++ (found ++ more).toArray := by
      simp
    rw [bind_ok (atFirst.runs quietFirst errors), atSecond.runs quietSecond, joined]
  · intro halts error rest split errors
    cases found with
    | nil =>
        rw [bind_ok (atFirst.runs (.inr rfl) errors), Array.append_empty]
        exact atSecond.stops halts error rest split errors
    | cons own others =>
        obtain ⟨last, stopped, logged⟩ := atFirst.stops halts own others rfl errors
        obtain ⟨sameError, _⟩ := List.cons.inj split
        exact ⟨last, bind_error stopped, sameError ▸ logged⟩

theorem forM {Item : Type} {items : List Item} {body : Item → Checking Unit}
    {found : Item → List ValidationError}
    (each : ∀ item ∈ items, Logs halting (body item) tokens active (found item)) :
    Logs halting (items.forM body) tokens active (items.flatMap found) := by
  induction items with
  | nil => exact .nothing
  | cons item rest ih =>
      obtain ⟨own, others⟩ := List.forall_mem_cons.mp each
      exact own.seq (ih others)

private theorem below {body : Checking Unit} {token : String} {found : List ValidationError}
    (inside : Logs halting body (token :: tokens) active found) :
    Logs halting (Checking.below token body) tokens active found := by
  constructor
  · intro quiet errors
    rw [below_run, bind_ok (inside.runs quiet errors)]
    rfl
  · intro halts first rest split errors
    obtain ⟨last, stopped, logged⟩ := inside.stops halts first rest split errors
    exact ⟨last, (below_run token body _).trans (bind_error stopped), logged⟩

/-- A body that never stops tells whether it found anything by the growth of the log. -/
theorem succeeds {body : Checking Unit} {found : List ValidationError}
    (inside : Logs false body tokens active found) (errors : Array ValidationError) :
    Checking.succeeds body ⟨tokens, active, errors⟩ =
      .ok found.isEmpty ⟨tokens, active, errors ++ found.toArray⟩ := by
  have grown : ((errors ++ found.toArray).size == errors.size) = found.isEmpty := by
    cases found <;> simp
  rw [succeeds_run, bind_ok (inside.runs (.inl rfl) errors), ← grown]
  rfl

end Logs

namespace Checking

variable {tokens : List String} {active : List (Nat × Nat)}

/-- A computation that only tells something, apart from what it appends to the log. -/
def Tells {Answer : Type} (body : Checking Answer) (tokens : List String)
    (active : List (Nat × Nat)) (answer : Answer) : Prop :=
  ∀ errors, ∃ more, body ⟨tokens, active, errors⟩ = .ok answer ⟨tokens, active, errors ++ more⟩

private theorem withoutErrors_of_tells {Answer : Type} {body : Checking Answer} {answer : Answer}
    (tells : Tells body tokens active answer) (errors : Array ValidationError) :
    withoutErrors body ⟨tokens, active, errors⟩ = .ok answer ⟨tokens, active, errors⟩ := by
  obtain ⟨more, ran⟩ := tells errors
  have shrunk : (errors ++ more).shrink errors.size = errors := by simp
  rw [withoutErrors_run, bind_ok ran]
  change EStateM.Result.ok answer
    (⟨tokens, active, (errors ++ more).shrink errors.size⟩ : Progress) = _
  rw [shrunk]

private theorem countSucceeding_tells {bodies : List (Checking Unit)} {all : List Findings} {count : Nat}
    (known : Findings.tally all = some count)
    (each : List.Forall₂ (fun body findings =>
      ∀ found, findings = some found → Logs false body tokens active found) bodies all) :
    Tells (countSucceeding bodies) tokens active count := by
  induction each generalizing count with
  | nil =>
      cases known
      intro errors
      exact ⟨#[], rfl⟩
  | @cons body findings bodies rest logs _ ih =>
      obtain ⟨own, more, atFirst, atRest, sum⟩ := Findings.combine_cons_eq_some known
      intro errors
      obtain ⟨others, ran⟩ := ih atRest (errors ++ own.toArray)
      refine ⟨own.toArray ++ others, ?_⟩
      rw [countSucceeding, bind_ok ((logs own atFirst).succeeds errors), bind_ok ran, sum,
        ← Array.append_assoc]
      rfl

/-- Looking for a first success stops earlier than counting, and agrees with it. -/
theorem firstSucceeds_tells {bodies : List (Checking Unit)} {all : List Findings} {count : Nat}
    (known : Findings.tally all = some count)
    (each : List.Forall₂ (fun body findings =>
      ∀ found, findings = some found → Logs false body tokens active found) bodies all) :
    Tells (firstSucceeds bodies) tokens active (decide (0 < count)) := by
  induction each generalizing count with
  | nil =>
      cases known
      intro errors
      exact ⟨#[], rfl⟩
  | @cons body findings bodies rest logs _ ih =>
      obtain ⟨own, more, atFirst, atRest, sum⟩ := Findings.combine_cons_eq_some known
      intro errors
      rw [firstSucceeds, bind_ok ((logs own atFirst).succeeds errors), sum]
      cases own with
      | nil =>
          refine ⟨#[], ?_⟩
          rw [List.isEmpty_nil, Bool.toNat_true, decide_eq_true (by omega), if_pos rfl]
          rfl
      | cons error errors' =>
          obtain ⟨others, ran⟩ := ih atRest (errors ++ (error :: errors').toArray)
          refine ⟨(error :: errors').toArray ++ others, ?_⟩
          rw [← Array.append_assoc]
          simpa using ran

end Checking

/-! ### Running demands -/

@[simp] theorem forM_flatMap {Item Part : Type} {Action : Type → Type} [Monad Action] [LawfulMonad Action]
    (items : List Item) (parts : Item → List Part) (each : Part → Action Unit) :
    (items.flatMap parts).forM each = items.forM fun item => (parts item).forM each := by
  induction items with
  | nil => rfl
  | cons item rest ih =>
      simp only [List.forM_eq_forM] at ih
      simp only [List.flatMap_cons, List.forM_eq_forM, List.forM_append, List.forM_cons, ih]

namespace Checker

open Checking

section Node

variable (checker : Checker) (visit : Rule → Json → Bool → Checking Unit)

def raise (keyword : Keyword) (property message : Option String) (tried : Bool) :
    Checking Unit := do
  modify fun progress =>
    let error : ValidationError := ⟨errorPath progress.tokens property, keyword, message⟩
    { progress with errors := progress.errors.push error }
  if checker.greedy || tried then return ()
  throw .failFast

def chooses (value : Json) (branches : List Rule) (wanted : Choice) : Checking Bool :=
  let tries := branches.map fun branch => visit branch value true
  match wanted with
  | .any => withoutErrors (firstSucceeds tries)
  | .one => do return decide ((← withoutErrors (countSucceeding tries)) = 1)
  | .none => do return !(← withoutErrors (firstSucceeds tries))

def meet (value : Json) (tried : Bool) (demand : Demand Rule) : Checking Unit :=
  match demand with
  | .failure keyword property message => checker.raise keyword property message tried
  | .same rule => visit rule value tried
  | .inner token part rule => below token (visit rule part tried)
  | .choice wanted message branches => do
      if ← chooses visit value branches wanted then pure ()
      else checker.raise wanted.keyword none message tried

theorem meet_failIf (value : Json) (tried fails : Bool) (keyword : Keyword)
    (message : Option String) :
    (Demand.failIf fails keyword message).forM (checker.meet visit value tried) =
      if fails then checker.raise keyword none message tried else pure () := by
  unfold Demand.failIf
  cases fails with
  | false => rfl
  | true => simp [meet]

private theorem meet_ofElements (value : Json) (tried : Bool) (each : Rule) (first : Nat)
    (elements : List Json) :
    (Demand.ofElements each first elements).forM (checker.meet visit value tried) =
      checkElements visit each tried first elements := by
  simp only [Demand.ofElements, checkElements, List.forM_eq_forM, List.forM_map, meet]

private theorem meet_ofPositions (value : Json) (tried : Bool) (declared : List Rule)
    (elements : List Json) :
    (Demand.ofPositions declared elements).forM (checker.meet visit value tried) =
      checkTuple visit declared tried elements := by
  simp only [Demand.ofPositions, checkTuple, List.forM_eq_forM, List.forM_map, meet]

private theorem meet_ofDeclared (value : Json) (tried : Bool) (declared : List (String × Rule))
    (members : List (String × Json)) :
    (Demand.ofDeclared declared members).forM (checker.meet visit value tried) =
      checkDeclared visit declared tried members := by
  rw [Demand.ofDeclared, forM_flatMap, checkDeclared]
  congr 1
  funext entry
  obtain ⟨name, rule⟩ := entry
  dsimp only
  cases members.lookup name with
  | none => rfl
  | some part => simp [meet]

private theorem meet_ofNames (value : Json) (tried : Bool) (messages : Messages) (keyword : Keyword)
    (names : List String) (members : List (String × Json)) :
    (Demand.ofNames keyword (fun name => messages.find? keyword (some name)) names members).forM
        (checker.meet visit value tried) =
      checker.requireAll messages keyword names tried members := by
  rw [Demand.ofNames, forM_flatMap, requireAll]
  congr 1
  funext name
  cases Entries.hasKey members name with
  | true => rfl
  | false =>
      simp [meet]
      rfl

private theorem meet_ofMembers (value : Json) (tried : Bool) (messages : Messages)
    (declared : List (String × Rule)) (patterns : List (Regex × Rule)) (additional : Additional)
    (members : List (String × Json)) :
    (Demand.ofMembers (rulesFor declared patterns) (additional.demands messages) members).forM
        (checker.meet visit value tried) =
      checker.checkMembers visit messages declared patterns additional tried members := by
  rw [Demand.ofMembers, forM_flatMap, checkMembers]
  congr 1
  funext member
  obtain ⟨name, part⟩ := member
  dsimp only
  cases rulesFor declared patterns name with
  | nil =>
      cases additional with
      | allowed => rfl
      | forbidden =>
          simp [Additional.demands, meet]
          rfl
      | rule rule => simp [Additional.demands, meet]
  | cons rule rules => simp [meet]

private theorem meet_ofPresent (tried : Bool) (messages : Messages) (entries : List (String × Dependency))
    (members : List (String × Json)) :
    (Demand.ofPresent (Dependency.demands messages members) entries members).forM
        (checker.meet visit (.object members) tried) =
      checker.checkDependencies visit messages entries tried members := by
  rw [Demand.ofPresent, forM_flatMap, checkDependencies]
  congr 1
  funext entry
  obtain ⟨name, dependency⟩ := entry
  dsimp only
  by_cases present : Entries.hasKey members name = true
  · rw [if_pos present, if_pos present]
    cases dependency with
    | rule rule => simp [Dependency.demands, meet]
    | names names => exact checker.meet_ofNames visit _ tried messages .dependencies names members
  · rw [if_neg present, if_neg present]
    rfl

private theorem ofPresent_of_noMembers (messages : Messages) (entries : List (String × Dependency)) :
    Demand.ofPresent (Dependency.demands messages []) entries [] = [] := by
  simp [Demand.ofPresent, Entries.hasKey]

private theorem firstSucceeds_single (body : Checking Unit) : firstSucceeds [body] = succeeds body := by
  funext progress
  cases ran : succeeds body progress with
  | ok answer after =>
      rw [firstSucceeds, bind_ok ran]
      cases answer <;> rfl
  | error halt after => rw [firstSucceeds, bind_error ran]

theorem check_eq_forM (messages : Messages) (value : Json) (tried : Bool) (check : Check) :
    checker.check visit messages value tried check =
      (check.demands messages value).forM (checker.meet visit value tried) := by
  cases check with
  | items each =>
      rw [Checker.check, Check.demands, meet_ofElements]
  | tuple declared additional =>
      have split : (Check.tuple declared additional).demands messages value =
          Demand.ofPositions declared (value.elements?.getD []) ++
            additional.toList.flatMap fun rule => Demand.ofElements rule declared.length
              ((value.elements?.getD []).drop declared.length) := rfl
      rw [split, List.forM_eq_forM, List.forM_append]
      simp only [← List.forM_eq_forM, meet_ofPositions]
      cases additional with
      | none => rfl
      | some rule =>
          simp only [Option.toList_some, List.flatMap_singleton, meet_ofElements]
          rfl
  | required names =>
      cases value with
      | object members =>
          exact (checker.meet_ofNames visit _ tried messages .required names members).symm
      | _ => rfl
  | properties declared =>
      rw [Checker.check, Check.demands, meet_ofDeclared]
  | members declared patterns additional =>
      rw [Checker.check, Check.demands, meet_ofMembers]
  | dependencies entries =>
      cases value with
      | object members => exact (checker.meet_ofPresent visit tried messages entries members).symm
      | _ =>
          simp only [Check.demands, Json.members?, Option.getD_none, ofPresent_of_noMembers]
          rfl
  | allOf branches =>
      simp only [Checker.check, Check.demands, List.forM_eq_forM, List.forM_map, meet]
  | anyOf branches =>
      simp [Checker.check, Check.demands, meet, chooses]
      rfl
  | oneOf branches =>
      simp [Checker.check, Check.demands, meet, chooses]
      rfl
  | not rule =>
      simp only [Checker.check, Check.demands, List.forM_eq_forM, List.forM_cons, List.forM_nil,
        meet, chooses, List.map_cons, List.map_nil, firstSucceeds_single, bind_assoc, pure_bind,
        bind_pure_unit]
      apply bind_congr
      intro found
      cases found <;> rfl
  | _ => exact (checker.meet_failIf visit value tried _ _ _).symm

theorem checkNode_eq_forM (general : List Check) (guarded : List (Kind × List Check))
    (formats : List FormatCheck) (messages : Messages) (value : Json) (tried : Bool) :
    checker.checkNode visit general guarded formats messages value tried =
      (Rule.demands general guarded formats messages value).forM
        (checker.meet visit value tried) := by
  have runGroup (group : List Check) : group.forM (checker.check visit messages value tried) =
      (group.flatMap (Check.demands messages value)).forM (checker.meet visit value tried) := by
    rw [forM_flatMap]
    congr 1
    funext check
    exact checker.check_eq_forM visit messages value tried check
  have runFormat (format : FormatCheck) :
      (if format.accepts value then pure () else checker.report messages .format none tried) =
        (Demand.failIf (!format.accepts value) .format (messages.find? .format none)).forM
          (checker.meet visit value tried) := by
    rw [meet_failIf]
    cases format.accepts value <;> rfl
  rw [Rule.demands, List.forM_eq_forM, List.forM_append, List.forM_append]
  simp only [← List.forM_eq_forM]
  rw [← runGroup, forM_flatMap, forM_flatMap, ← funext runFormat, bind_assoc, checkNode]
  congr 1
  funext _
  congr 2
  funext entry
  obtain ⟨kind, group⟩ := entry
  dsimp only
  cases kind.accepts value with
  | false => rfl
  | true => exact runGroup group

end Node

/-! ### What runs log -/

def halts (checker : Checker) (tried : Bool) : Bool := !(checker.greedy || tried)

section Demands

variable {checker : Checker} {visit : Rule → Json → Bool → Checking Unit} {tokens : List String}
  {active : List (Nat × Nat)} {value : Json}

theorem raise_run (keyword : Keyword) (property message : Option String) (tried : Bool)
    (errors : Array ValidationError) :
    checker.raise keyword property message tried ⟨tokens, active, errors⟩ =
      (if checker.greedy || tried then pure () else throw .failFast : Checking Unit)
        ⟨tokens, active, errors.push ⟨errorPath tokens property, keyword, message⟩⟩ := rfl

theorem raise_logs (keyword : Keyword) (property message : Option String) (tried : Bool) :
    Logs (checker.halts tried) (checker.raise keyword property message tried) tokens active
      [⟨errorPath tokens property, keyword, message⟩] := by
  constructor
  · intro quiet errors
    have goesOn : (checker.greedy || tried) = true := by
      rcases quiet with runsOn | none
      · rwa [halts, Bool.not_eq_false'] at runsOn
      · cases none
    rw [raise_run, if_pos goesOn, Array.push_eq_append]
    rfl
  · intro stops first rest split errors
    have ends : ¬(checker.greedy || tried) = true := by simpa [halts] using stops
    rw [raise_run, if_neg ends, ← (List.cons.inj split).1]
    exact ⟨_, rfl, rfl⟩

variable {same : Rule → Findings} {inner : String → Json → Rule → Findings}

private theorem tries_log (atSame : ∀ rule found, same rule = some found →
      Logs false (visit rule value true) tokens active found) (branches : List Rule) :
    List.Forall₂ (fun body findings =>
        ∀ found, findings = some found → Logs false body tokens active found)
      (branches.map fun branch => visit branch value true) (branches.map same) := by
  rw [List.forall₂_map_left_iff, List.forall₂_map_right_iff, List.forall₂_same]
  intro branch _
  exact atSame branch

private theorem chooses_eq (atSame : ∀ rule found, same rule = some found →
      Logs false (visit rule value true) tokens active found) {branches : List Rule} {count : Nat}
    (known : Findings.tally (branches.map same) = some count) (wanted : Choice)
    (errors : Array ValidationError) :
    chooses visit value branches wanted ⟨tokens, active, errors⟩ =
      .ok (wanted.accepts count) ⟨tokens, active, errors⟩ := by
  have counted := withoutErrors_of_tells
    (countSucceeding_tells known (tries_log atSame branches)) errors
  have searched := withoutErrors_of_tells
    (firstSucceeds_tells known (tries_log atSame branches)) errors
  cases wanted with
  | any => exact searched
  | one => exact bind_ok counted
  | none =>
      have negated : (!decide (0 < count)) = decide (count = 0) := by
        cases count <;> simp
      change _ = EStateM.Result.ok (decide (count = 0)) _
      rw [← negated]
      exact bind_ok searched

theorem meet_choice_run (atSame : ∀ rule found, same rule = some found →
      Logs false (visit rule value true) tokens active found) {branches : List Rule} {count : Nat}
    (known : Findings.tally (branches.map same) = some count) (wanted : Choice)
    (message : Option String) (tried : Bool) (errors : Array ValidationError) :
    checker.meet visit value tried (.choice wanted message branches) ⟨tokens, active, errors⟩ =
      (if wanted.accepts count then pure ()
        else checker.raise wanted.keyword none message tried : Checking Unit)
        ⟨tokens, active, errors⟩ :=
  bind_ok (chooses_eq atSame known wanted errors)

theorem meet_logs (tried : Bool)
    (atSame : ∀ rule tried found, same rule = some found →
      Logs (checker.halts tried) (visit rule value tried) tokens active found)
    (atInner : ∀ token part rule found, inner token part rule = some found →
      Logs (checker.halts tried) (visit rule part tried) (token :: tokens) active found)
    {demand : Demand Rule} {found : List ValidationError}
    (known : demand.findings same inner tokens = some found) :
    Logs (checker.halts tried) (checker.meet visit value tried demand) tokens active found := by
  cases demand with
  | failure keyword property message =>
      cases known
      exact raise_logs keyword property message tried
  | same rule => exact atSame rule tried found known
  | inner token part rule => exact (atInner token part rule found known).below
  | choice wanted message branches =>
      obtain ⟨count, counted, verdict⟩ := Demand.findings_choice_eq_some same inner tokens known
      have atTried : ∀ rule found, same rule = some found →
          Logs false (visit rule value true) tokens active found := by
        intro rule found atRule
        simpa [halts] using atSame rule true found atRule
      rw [verdict]
      apply Logs.of_eq _ (meet_choice_run atTried counted wanted message tried)
      cases wanted.accepts count with
      | true => exact .nothing
      | false => exact raise_logs wanted.keyword none message tried

private theorem demands_log (tried : Bool)
    (atSame : ∀ rule tried found, same rule = some found →
      Logs (checker.halts tried) (visit rule value tried) tokens active found)
    (atInner : ∀ token part rule found, inner token part rule = some found →
      Logs (checker.halts tried) (visit rule part tried) (token :: tokens) active found)
    {demands : List (Demand Rule)} {found : List ValidationError}
    (known : Demand.findingsOf same inner tokens demands = some found) :
    Logs (checker.halts tried) (demands.forM (checker.meet visit value tried)) tokens active
      found := by
  induction demands generalizing found with
  | nil =>
      cases known
      exact .nothing
  | cons demand rest ih =>
      obtain ⟨own, more, atDemand, atRest, together⟩ := Findings.combine_cons_eq_some known
      rw [together]
      exact (meet_logs tried atSame atInner atDemand).seq (ih atRest)

end Demands

/-! ### Slots -/

/-- Which slots are open at the very place that `tokens` lead to: those of `here`, and none is open
deeper in the value. -/
structure OpenHere (tokens : List String) (here : List Nat) (active : List (Nat × Nat)) : Prop where
  atPlace : ∀ slot, (slot, tokens.length) ∈ active ↔ slot ∈ here
  notDeeper : ∀ entry ∈ active, entry.2 ≤ tokens.length

namespace OpenHere

variable {tokens : List String} {here : List Nat} {active : List (Nat × Nat)}

private theorem start : OpenHere [] [] [] := ⟨by simp, by simp⟩

theorem below (token : String) (atPlace : OpenHere tokens here active) :
    OpenHere (token :: tokens) [] active := by
  constructor
  · intro slot
    have apart : (slot, (token :: tokens).length) ∉ active := by
      intro member
      have shallow := atPlace.notDeeper _ member
      rw [List.length_cons] at shallow
      omega
    exact ⟨fun member => absurd member apart, fun none => absurd none List.not_mem_nil⟩
  · intro entry member
    have shallow := atPlace.notDeeper entry member
    rw [List.length_cons]
    omega

private theorem enter (slot : Nat) (atPlace : OpenHere tokens here active) :
    OpenHere tokens (slot :: here) ((slot, tokens.length) :: active) := by
  constructor
  · intro other
    rw [List.mem_cons, List.mem_cons, atPlace.atPlace other]
    simp
  · intro entry member
    rcases List.mem_cons.mp member with new | old
    · exact new ▸ Nat.le_refl tokens.length
    · exact atPlace.notDeeper entry old

end OpenHere

section Slot

variable {checker : Checker} {visit : Rule → Json → Bool → Checking Unit} {tokens : List String}
  {active : List (Nat × Nat)} {value : Json} {slot : Nat} {tried : Bool}

private theorem checkSlot_open (isOpen : (slot, tokens.length) ∈ active) :
    Logs (checker.halts tried) (checker.checkSlot visit slot value tried) tokens active [] := by
  apply Logs.of_eq (pure ()) _ .nothing
  intro errors
  rw [checkSlot_open_run isOpen]
  rfl

private theorem checkSlot_unfilled (notOpen : (slot, tokens.length) ∉ active)
    (unfilled : checker.table[slot]? = none) :
    Logs (checker.halts tried) (checker.checkSlot visit slot value tried) tokens active [] := by
  apply Logs.of_eq (pure ()) _ .nothing
  intro errors
  rw [checkSlot_unfilled_run notOpen unfilled]
  rfl

private theorem checkSlot_filled {body : Rule} {found : List ValidationError}
    (notOpen : (slot, tokens.length) ∉ active) (filled : checker.table[slot]? = some body)
    (inside : Logs (checker.halts tried) (visit body value tried) tokens
      ((slot, tokens.length) :: active) found) :
    Logs (checker.halts tried) (checker.checkSlot visit slot value tried) tokens active found := by
  constructor
  · intro quiet errors
    rw [checkSlot_filled_run notOpen filled, bind_ok (inside.runs quiet errors)]
    rfl
  · intro halts first rest split errors
    obtain ⟨last, stopped, logged⟩ := inside.stops halts first rest split errors
    refine ⟨last, ?_, logged⟩
    rw [checkSlot_filled_run notOpen filled, bind_error stopped]

end Slot

/-- A run logs what its rule finds. The induction is on the budget that findings and run share. -/
theorem visit_logs (checker : Checker) {budget : Nat} {tokens : List String} {here : List Nat}
    {active : List (Nat × Nat)} {rule : Rule} {value : Json} {found : List ValidationError}
    (tried : Bool) (atPlace : OpenHere tokens here active)
    (known : Findings.ofRule checker.table budget tokens here rule value = some found) :
    Logs (checker.halts tried) (checker.visit budget rule value tried) tokens active found := by
  induction budget generalizing tokens here active rule value found tried with
  | zero => cases known
  | succ budget ih =>
      cases rule with
      | free =>
          cases known
          exact .nothing
      | slot slot =>
          rw [Findings.ofRule] at known
          by_cases isOpen : slot ∈ here
          · rw [if_pos isOpen] at known
            cases known
            exact checkSlot_open ((atPlace.atPlace slot).mpr isOpen)
          · have notOpen : (slot, tokens.length) ∉ active :=
              fun member => isOpen ((atPlace.atPlace slot).mp member)
            rw [if_neg isOpen] at known
            cases entry : checker.table[slot]? with
            | none =>
                rw [entry] at known
                cases known
                exact checkSlot_unfilled notOpen entry
            | some body =>
                rw [entry] at known
                exact checkSlot_filled notOpen entry (ih tried (atPlace.enter slot) known)
      | checks general guarded formats messages =>
          rw [Checker.visit, visitRule, checkNode_eq_forM]
          exact demands_log tried (fun rule tried found atRule => ih tried atPlace atRule)
            (fun token part rule found atRule => ih tried (atPlace.below token) atRule) known

/-- The errors of a whole check: all that its run logs, or the first of them. -/
theorem errors_of_logs (checker : Checker) {entry : Rule} {value : Json}
    {found : List ValidationError}
    (logs : Logs (checker.halts false)
      (checker.visit (checker.budget entry value) entry value false) [] [] found) :
    checker.errors entry value = .ok (if checker.greedy then found else found.take 1) := by
  cases greedy : checker.greedy with
  | true =>
      have runs := logs.runs (.inl (by simp [halts, greedy])) #[]
      rw [errors, Progress.start, runs]
      simp
  | false =>
      cases found with
      | nil =>
          have runs := logs.runs (.inr rfl) #[]
          rw [errors, Progress.start, runs]
          simp
      | cons first rest =>
          obtain ⟨last, stopped, logged⟩ :=
            logs.stops (by simp [halts, greedy]) first rest rfl #[]
          rw [errors, Progress.start, stopped]
          simp [logged]

theorem errors_of_findings (checker : Checker) {entry : Rule} {value : Json}
    {found : List ValidationError}
    (known : Findings.ofRule checker.table (checker.budget entry value) [] [] entry value =
      some found) :
    checker.errors entry value = .ok (if checker.greedy then found else found.take 1) :=
  checker.errors_of_logs (checker.visit_logs false OpenHere.start known)

end Checker

end JsonSchema
