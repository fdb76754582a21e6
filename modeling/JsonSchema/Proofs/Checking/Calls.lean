import JsonSchema.Proofs.Checking.Reached

set_option autoImplicit false

/-! The calls that a run makes, with all that the run keeps at that moment. Which calls these are is
told by the run alone: a call makes another one if what comes of it depends on what comes of the other.
Whoever returns has put the way to the value and the open slots back and has done nothing else but
append to the log; and a slot that is open at the depth of a call was opened for its very value. The
main statement is `Checker.calls_disciplined`. -/

namespace JsonSchema

structure Call where
  rule : Rule
  value : Json
  tried : Bool
  progress : Progress

def Call.result (visit : Rule → Json → Bool → Checking Unit) (call : Call) :
    EStateM.Result Halt Progress Unit :=
  visit call.rule call.value call.tried call.progress

namespace Checker

/-- A call makes another one if what comes of it would be something else should something else come of
that one, every other call being left as it is. -/
def Makes (checker : Checker) (budget : Nat) (caller callee : Call) : Prop :=
  ∃ other : Rule → Json → Bool → Checking Unit,
    (∀ call, call ≠ callee → call.result other = call.result (checker.visit budget)) ∧
      caller.result (checker.visitRule other) ≠
        caller.result (checker.visitRule (checker.visit budget))

/-- A call that a check comes to, with the budget that it is given and the calls that are open around it,
innermost first. -/
inductive OpenCalls (checker : Checker) (entry : Rule) (value : Json) : Nat → Call → List Call → Prop where
  | start : OpenCalls checker entry value (checker.budget entry value)
      ⟨entry, value, false, .start⟩ []
  | call {budget : Nat} {caller callee : Call} {outer : List Call}
      (opened : OpenCalls checker entry value (budget + 1) caller outer)
      (makes : checker.Makes budget caller callee) :
      OpenCalls checker entry value budget callee (caller :: outer)

/-! ### Calls that are made -/

section Made

variable {checker : Checker} {budget : Nat} {value : Json} {tried : Bool} {progress : Progress}

private theorem makes_of_ends {caller callee : Call}
    (ends : ∀ visit last, callee.result visit = .error .exhausted last →
      ∃ after, caller.result (checker.visitRule visit) = .error .exhausted after ∧
        after.errors = last.errors) : checker.Makes budget caller callee := by
  classical
  -- The log of some end of the callee is not the one that the caller has without it.
  obtain ⟨logged, fresh⟩ : ∃ logged : Array ValidationError, ∀ last : Progress,
      last.errors = logged →
        caller.result (checker.visitRule (checker.visit budget)) ≠ .error .exhausted last := by
    cases caller.result (checker.visitRule (checker.visit budget)) with
    | ok answer after => exact ⟨#[], fun _ _ => nofun⟩
    | error halt after =>
        refine ⟨after.errors.push ⟨"", .type, none⟩, ?_⟩
        rintro last longer same
        obtain ⟨rfl, rfl⟩ := EStateM.Result.error.inj same
        simpa using congrArg Array.size longer
  let last : Progress := ⟨[], [], logged⟩
  let other (rule : Rule) (value : Json) (tried : Bool) : Checking Unit := fun progress =>
    if Call.mk rule value tried progress = callee then .error .exhausted last
    else checker.visit budget rule value tried progress
  refine ⟨other, fun call different => if_neg different, ?_⟩
  have atCallee : callee.result other = .error .exhausted last := if_pos rfl
  obtain ⟨after, ended, sameLog⟩ := ends other last atCallee
  rw [ended]
  exact (fresh after sameLog).symm

private theorem makes_enter {slot : Nat} {body : Rule}
    (closed : (slot, progress.tokens.length) ∉ progress.active)
    (filled : checker.table[slot]? = some body) :
    checker.Makes budget ⟨.slot slot, value, tried, progress⟩
      ⟨body, value, tried,
        { progress with active := (slot, progress.tokens.length) :: progress.active }⟩ := by
  apply makes_of_ends
  intro visit last ended
  refine ⟨last, ?_, rfl⟩
  change checker.checkSlot visit slot value tried progress = _
  rw [checkSlot_filled_run closed filled]
  exact Checking.bind_error ended

/-- The first demand of a node is always met. -/
theorem makes_inner {general : List Check} {guarded : List (Kind × List Check)}
    {formats : List FormatCheck} {messages : Messages} {token : String} {part : Json} {rule : Rule}
    {rest : List (Demand Rule)}
    (asked : Rule.demands general guarded formats messages value = .inner token part rule :: rest) :
    checker.Makes budget ⟨.checks general guarded formats messages, value, tried, progress⟩
      ⟨rule, part, tried, { progress with tokens := token :: progress.tokens }⟩ := by
  apply makes_of_ends
  intro visit last ended
  refine ⟨last, ?_, rfl⟩
  change checker.checkNode visit general guarded formats messages value tried progress = _
  rw [checkNode_eq_forM, asked]
  have below : checker.meet visit value tried (.inner token part rule) progress =
      .error .exhausted last :=
    (Checking.below_run token _ progress).trans (Checking.bind_error ended)
  exact Checking.bind_error below

end Made

end Checker

/-! ### Calls and frames -/

def Frame.call (frame : Frame) (errors : Array ValidationError) : Call :=
  ⟨frame.rule, frame.place.value, frame.tried, ⟨frame.place.tokens, frame.active, errors⟩⟩

theorem Checking.SettledAlike.run_eq {Answer : Type} {tokens : List String} {active : List (Nat × Nat)}
    {left right : Checking Answer} (alike : SettledAlike tokens active left right)
    (errors : Array ValidationError) : left ⟨tokens, active, errors⟩ = right ⟨tokens, active, errors⟩ := by
  rcases alike errors with ⟨answer, more, leftRan, rightRan⟩ | ⟨last, leftStopped, rightStopped⟩
  · rw [leftRan, rightRan]
  · rw [leftStopped, rightStopped]

section Run

variable {checker : Checker} {entry : Rule} {value : Json} {budget : Nat}

/-- Every call that is made is one of the calls of the frame: what comes of the frame depends on nothing
else. -/
theorem Frame.Reached.calls_of_makes {frame : Frame} {errors : Array ValidationError} {callee : Call}
    (reached : Frame.Reached checker entry value (budget + 1) frame)
    (makes : checker.Makes budget (frame.call errors) callee) :
    ∃ inner more, frame.Calls checker.table inner ∧ callee = inner.call more := by
  by_contra notCalled
  obtain ⟨other, agrees, differs⟩ := makes
  apply differs
  have alike : frame.SettledAlike (checker.visitRule other)
      (checker.visitRule (checker.visit budget)) := by
    apply Checker.visitRule_settledAlike
    intro inner calls logged
    have reachedInner : Frame.Reached checker entry value budget inner := .call reached calls
    have settled : inner.SettledAlike (checker.visit budget) (checker.visit budget) :=
      Checker.visit_settledAlike (checker.height_le_height entry).2 reachedInner.height_le
        reachedInner.need_le (Nat.le_refl budget)
    have same := agrees (inner.call logged) fun isCallee => notCalled ⟨inner, logged, calls, isCallee.symm⟩
    change (inner.call logged).result other = (inner.call logged).result (checker.visit budget) at same
    unfold Call.result Frame.call at same
    dsimp only at same
    rw [same]
    exact settled logged
  exact alike.run_eq errors

theorem Checker.OpenCalls.exists_frame {call : Call} {outer : List Call}
    (opened : checker.OpenCalls entry value budget call outer) :
    ∃ frame errors, Frame.Reached checker entry value budget frame ∧ call = frame.call errors := by
  induction opened with
  | start => exact ⟨_, #[], .start, rfl⟩
  | call _ makes ih =>
      obtain ⟨frame, errors, reached, rfl⟩ := ih
      obtain ⟨inner, more, calls, rfl⟩ := reached.calls_of_makes makes
      exact ⟨inner, more, .call reached calls, rfl⟩

end Run

/-! ### Where slots were opened -/

structure Call.Pushes (pusher : Call) (slot depth : Nat) (below : List (Nat × Nat)) : Prop where
  isSlot : pusher.rule = .slot slot
  atDepth : pusher.progress.tokens.length = depth
  above : pusher.progress.active = below

/-- No slot is open deeper than a call. Every entry was pushed by one of the calls around it; those at
its own depth by calls at its own place, for its own value. -/
structure Call.Placed (call : Call) (outer : List Call) : Prop where
  notDeeper : ∀ opened ∈ call.progress.active, opened.2 ≤ call.progress.tokens.length
  pushed : ∀ slot depth below, (slot, depth) :: below <:+ call.progress.active →
    ∃ pusher ∈ outer, pusher.Pushes slot depth below ∧
      (depth = call.progress.tokens.length →
        pusher.progress.tokens = call.progress.tokens ∧ pusher.value = call.value)

namespace Call.Placed

variable {caller callee : Call} {outer : List Call}

private theorem same (placed : caller.Placed outer)
    (sameTokens : callee.progress.tokens = caller.progress.tokens)
    (sameActive : callee.progress.active = caller.progress.active) (sameValue : callee.value = caller.value) :
    callee.Placed (caller :: outer) := by
  constructor
  · rw [sameTokens, sameActive]
    exact placed.notDeeper
  · rw [sameTokens, sameActive, sameValue]
    intro slot depth below onStack
    obtain ⟨pusher, isOuter, pushes, atPlace⟩ := placed.pushed slot depth below onStack
    exact ⟨pusher, List.mem_cons_of_mem caller isOuter, pushes, atPlace⟩

private theorem inner {token : String} (placed : caller.Placed outer)
    (deeper : callee.progress.tokens = token :: caller.progress.tokens)
    (sameActive : callee.progress.active = caller.progress.active) : callee.Placed (caller :: outer) := by
  constructor
  · rw [deeper, sameActive, List.length_cons]
    exact fun opened isOpen => Nat.le_succ_of_le (placed.notDeeper opened isOpen)
  · rw [deeper, sameActive, List.length_cons]
    intro slot depth below onStack
    obtain ⟨pusher, isOuter, pushes, _⟩ := placed.pushed slot depth below onStack
    refine ⟨pusher, List.mem_cons_of_mem caller isOuter, pushes, ?_⟩
    intro atDepth
    have shallow := placed.notDeeper (slot, depth) (onStack.subset List.mem_cons_self)
    rw [atDepth] at shallow
    exact absurd shallow (Nat.not_succ_le_self _)

private theorem enter {slot : Nat} (placed : caller.Placed outer) (isSlot : caller.rule = .slot slot)
    (sameTokens : callee.progress.tokens = caller.progress.tokens)
    (pushed : callee.progress.active =
      (slot, caller.progress.tokens.length) :: caller.progress.active)
    (sameValue : callee.value = caller.value) : callee.Placed (caller :: outer) := by
  constructor
  · rw [sameTokens, pushed, List.forall_mem_cons]
    exact ⟨Nat.le_refl _, placed.notDeeper⟩
  · rw [sameTokens, pushed, sameValue]
    intro other depth below onStack
    rcases List.suffix_cons_iff.mp onStack with top | inside
    · cases top
      exact ⟨caller, List.mem_cons_self, ⟨isSlot, rfl, rfl⟩, fun _ => ⟨rfl, rfl⟩⟩
    · obtain ⟨pusher, isOuter, pushes, atPlace⟩ := placed.pushed other depth below inside
      exact ⟨pusher, List.mem_cons_of_mem caller isOuter, pushes, atPlace⟩

private theorem step {table : Array Rule} {caller callee : Frame} {errors more : Array ValidationError}
    (placed : (caller.call errors).Placed outer) (calls : caller.Calls table callee) :
    (callee.call more).Placed (caller.call errors :: outer) := by
  cases calls with
  | enter isSlot => exact placed.enter isSlot rfl rfl rfl
  | same => exact placed.same rfl rfl rfl
  | inner => exact placed.inner rfl rfl
  | branch => exact placed.same rfl rfl rfl

end Call.Placed

theorem Checker.OpenCalls.placed {checker : Checker} {entry : Rule} {value : Json} {budget : Nat}
    {call : Call} {outer : List Call} (opened : checker.OpenCalls entry value budget call outer) :
    call.Placed outer := by
  induction opened with
  | start =>
      constructor
      · exact fun _ isOpen => absurd isOpen List.not_mem_nil
      · exact fun _ _ _ onStack => absurd (onStack.subset List.mem_cons_self) List.not_mem_nil
  | call before makes ih =>
      obtain ⟨frame, errors, reached, rfl⟩ := before.exists_frame
      obtain ⟨inner, more, calls, rfl⟩ := reached.calls_of_makes makes
      exact ih.step calls

/-! ### What is left behind -/

/-- What a computation leaves behind, whatever has been logged before it. If it returns, the way to the
value and the open slots are what they were, and the same errors are appended to every log. It returns
if it is only tried. Otherwise the checker is to stop at the first error, and the log is longer by this
one. -/
structure Checker.Disciplined (checker : Checker) (tried : Bool) (body : Checking Unit)
    (progress : Progress) : Prop where
  appends : ∃ appended : Array ValidationError, ∀ errors after,
    body { progress with errors := errors } = .ok () after →
      after = { progress with errors := errors ++ appended }
  returns : tried = true → ∀ errors, ∃ after, body { progress with errors := errors } = .ok () after
  stops : ∀ errors halt after, body { progress with errors := errors } = .error halt after →
    checker.greedy = false ∧ tried = false ∧ halt = .failFast ∧
      ∃ error, after.errors = errors.push error

theorem Logs.disciplined {checker : Checker} {tried : Bool} {body : Checking Unit}
    {progress : Progress} {found : List ValidationError}
    (logs : Logs (checker.halts tried) body progress.tokens progress.active found) :
    checker.Disciplined tried body progress := by
  by_cases quiet : checker.halts tried = false ∨ found = []
  · have ran := logs.runs quiet
    constructor
    · refine ⟨found.toArray, fun errors after returned => ?_⟩
      rw [ran] at returned
      cases returned
      rfl
    · exact fun _ errors => ⟨_, ran errors⟩
    · intro errors halt after stopped
      rw [ran] at stopped
      cases stopped
  · obtain ⟨halting, some⟩ := not_or.mp quiet
    rw [Bool.not_eq_false] at halting
    obtain ⟨first, rest, split⟩ := List.exists_cons_of_ne_nil some
    have stopped := logs.stops halting first rest split
    rw [Checker.halts, Bool.not_eq_true', Bool.or_eq_false_iff] at halting
    obtain ⟨notGreedy, notTried⟩ := halting
    constructor
    · refine ⟨#[], fun errors after returned => ?_⟩
      obtain ⟨last, ended, _⟩ := stopped errors
      rw [ended] at returned
      cases returned
    · intro isTried
      rw [isTried] at notTried
      cases notTried
    · intro errors halt after ended
      obtain ⟨last, endedFirst, logged⟩ := stopped errors
      rw [endedFirst] at ended
      cases ended
      exact ⟨notGreedy, notTried, rfl, first, logged⟩

theorem Frame.Reached.check_logs {checker : Checker} {entry : Rule} {value : Json} {budget : Nat}
    {frame : Frame} {general : List Check} {guarded : List (Kind × List Check)}
    {formats : List FormatCheck} {messages : Messages} {check : Check}
    (reached : Frame.Reached checker entry value (budget + 1) frame)
    (isChecks : frame.rule = .checks general guarded formats messages)
    (isRun : check ∈ Rule.checksFor general guarded frame.place.value) :
    ∃ found, Logs (checker.halts frame.tried)
      (checker.check (checker.visit budget) messages frame.place.value frame.tried check)
      frame.place.tokens frame.active found := by
  let found (demand : Demand Rule) : List ValidationError :=
    (frame.findingsOf checker budget demand).getD []
  refine ⟨(check.demands messages frame.place.value).flatMap found, ?_⟩
  rw [Checker.check_eq_forM]
  apply Logs.forM
  intro demand asked
  obtain ⟨own, known, logs⟩ := reached.demand_logs isChecks (Rule.mem_demands_of_run isRun asked)
  have same : found demand = own := by simp only [found, known, Option.getD_some]
  rwa [same]

/-- Any rule can be checked wherever a call is made: some budget is enough for it. -/
theorem Frame.Reached.disciplined_of_budget {checker : Checker} {entry : Rule} {value : Json}
    {budget : Nat} {frame : Frame} (reached : Frame.Reached checker entry value budget frame)
    (rule : Rule) (part : Json) (tried : Bool) (errors : Array ValidationError) :
    ∃ steps, ∀ larger ≥ steps,
      checker.Disciplined tried (checker.visit larger rule part tried) (frame.call errors).progress := by
  obtain ⟨inRange, bounded⟩ := checker.height_le_height rule
  refine ⟨budgetNeed checker.table (checker.height rule) frame.here rule part, ?_⟩
  intro larger enough
  obtain ⟨found, known⟩ := Option.isSome_iff_exists.mp
    (Findings.ofRule_isSome bounded frame.place.tokens inRange enough)
  have logs := checker.visit_logs tried reached.openHere known
  exact logs.disciplined

namespace Checker

/-- The discipline of the two stacks and the log. Every call that a check comes to is placed among the
slots that are open; it does as it should from any log, and so does every check that it runs; and at the
place where it is made so would a call of any rule with any value, tried or not. -/
theorem calls_disciplined {checker : Checker} {entry : Rule} {value : Json} {budget : Nat} {call : Call}
    {outer : List Call} (opened : checker.OpenCalls entry value budget call outer) :
    call.Placed outer ∧
    checker.Disciplined call.tried (checker.visit budget call.rule call.value call.tried)
      call.progress ∧
    (∀ general guarded formats messages, call.rule = .checks general guarded formats messages →
      ∀ less, budget = less + 1 → ∀ check ∈ Rule.checksFor general guarded call.value,
        checker.Disciplined call.tried
          (checker.check (checker.visit less) messages call.value call.tried check) call.progress) ∧
    ∀ rule part tried, ∃ steps, ∀ larger ≥ steps,
      checker.Disciplined tried (checker.visit larger rule part tried) call.progress := by
  have placed := opened.placed
  obtain ⟨frame, errors, reached, rfl⟩ := opened.exists_frame
  refine ⟨placed, ?_, ?_, ?_⟩
  · obtain ⟨found, known⟩ := reached.known
    have logs := reached.logs known
    exact logs.disciplined
  · rintro general guarded formats messages isChecks less rfl check isRun
    obtain ⟨found, logs⟩ := reached.check_logs isChecks isRun
    exact logs.disciplined
  · exact fun rule part tried => reached.disciplined_of_budget rule part tried errors

def linkedRule : Rule := .checks [] [(.object, [.properties [("next", .slot 0)]])] [] ⟨none, [], []⟩

def linked : Checker := ⟨#[linkedRule], false⟩

theorem calls_disciplined_linked :
    let rest : Json := .object []
    let whole : Json := .object [("next", rest)]
    let first : Call := ⟨.slot 0, whole, false, .start⟩
    let body : Call := ⟨linkedRule, whole, false, ⟨[], [(0, 0)], #[]⟩⟩
    let second : Call := ⟨.slot 0, rest, false, ⟨["next"], [(0, 0)], #[]⟩⟩
    let last : Call := ⟨linkedRule, rest, false, ⟨["next"], [(0, 1), (0, 0)], #[]⟩⟩
    linked.OpenCalls (.slot 0) whole 9 last [second, body, first] ∧
      last.Placed [second, body, first] ∧
      linked.Disciplined false (linked.visit 9 linkedRule rest false) last.progress := by
  intro rest whole first body second last
  have budget : linked.budget (.slot 0) whole = 12 := by decide +kernel
  have begun : linked.OpenCalls (.slot 0) whole 12 first [] := budget ▸ .start
  have opened : linked.OpenCalls (.slot 0) whole 9 last [second, body, first] :=
    .call (.call (.call begun (makes_enter List.not_mem_nil rfl)) (makes_inner rfl))
      (makes_enter (by decide) rfl)
  obtain ⟨placed, disciplined, _⟩ := calls_disciplined opened
  exact ⟨opened, placed, disciplined⟩

end Checker

end JsonSchema
