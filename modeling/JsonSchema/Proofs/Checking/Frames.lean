import Mathlib.Logic.Relation
import JsonSchema.Validator
import JsonSchema.Proofs.Checking.Budget
import JsonSchema.Proofs.Checking.Meets

set_option autoImplicit false

/-! The nested calls of a check. A frame is one call that is open: a rule at a place of the value, with
the slots that are open around it, each with the place at which it was entered. What a frame does is
determined by the frames that it calls; these need less than the frame itself; and a slot is never
open twice at one place. The main statement is `Validator.validate_ends`. -/

namespace JsonSchema

/-! ### Computations that are settled alike -/

namespace Checking

/-- Two computations do the same from every log. They restore the way to the value and the open slots,
or an error ends them; neither gives up for want of a budget. -/
def SettledAlike {Answer : Type} (tokens : List String) (active : List (Nat × Nat))
    (left right : Checking Answer) : Prop :=
  ∀ errors,
    (∃ answer more, left ⟨tokens, active, errors⟩ = .ok answer ⟨tokens, active, more⟩ ∧
      right ⟨tokens, active, errors⟩ = .ok answer ⟨tokens, active, more⟩) ∨
    ∃ last, left ⟨tokens, active, errors⟩ = .error .failFast last ∧
      right ⟨tokens, active, errors⟩ = .error .failFast last

namespace SettledAlike

variable {Answer Result : Type} {tokens : List String} {active : List (Nat × Nat)}

private theorem pure (answer : Answer) :
    SettledAlike tokens active (Pure.pure answer) (Pure.pure answer) := by
  intro errors
  exact .inl ⟨answer, errors, rfl, rfl⟩

private theorem bind {left right : Checking Answer} {leftNext rightNext : Answer → Checking Result}
    (first : SettledAlike tokens active left right)
    (next : ∀ answer, SettledAlike tokens active (leftNext answer) (rightNext answer)) :
    SettledAlike tokens active (left >>= leftNext) (right >>= rightNext) := by
  intro errors
  rcases first errors with ⟨answer, more, leftRan, rightRan⟩ | ⟨last, leftStopped, rightStopped⟩
  · rw [bind_ok leftRan, bind_ok rightRan]
    exact next answer more
  · rw [bind_error leftStopped, bind_error rightStopped]
    exact .inr ⟨last, rfl, rfl⟩

/-- A combinator that runs a body from some progress and then goes back to where it began. -/
theorem around {innerTokens : List String} {innerActive : List (Nat × Nat)}
    {leftBody rightBody : Checking Answer} {left right : Checking Result}
    (leave : Array ValidationError → Answer → Checking Result)
    (inside : SettledAlike innerTokens innerActive leftBody rightBody)
    (leftRun : ∀ errors, left ⟨tokens, active, errors⟩ =
      (leftBody >>= leave errors) ⟨innerTokens, innerActive, errors⟩)
    (rightRun : ∀ errors, right ⟨tokens, active, errors⟩ =
      (rightBody >>= leave errors) ⟨innerTokens, innerActive, errors⟩)
    (back : ∀ before answer errors, ∃ result more,
      leave before answer ⟨innerTokens, innerActive, errors⟩ = .ok result ⟨tokens, active, more⟩) :
    SettledAlike tokens active left right := by
  intro errors
  rw [leftRun, rightRun]
  rcases inside errors with ⟨answer, more, leftRan, rightRan⟩ | ⟨last, leftStopped, rightStopped⟩
  · rw [bind_ok leftRan, bind_ok rightRan]
    obtain ⟨result, after, returned⟩ := back errors answer more
    exact .inl ⟨result, after, returned, returned⟩
  · rw [bind_error leftStopped, bind_error rightStopped]
    exact .inr ⟨last, rfl, rfl⟩

private theorem below {left right : Checking Unit} {token : String}
    (inside : SettledAlike (token :: tokens) active left right) :
    SettledAlike tokens active (Checking.below token left) (Checking.below token right) :=
  around _ inside (fun _ => below_run token left _) (fun _ => below_run token right _)
    fun _ _ errors => ⟨(), errors, rfl⟩

private theorem succeeds {left right : Checking Unit} (inside : SettledAlike tokens active left right) :
    SettledAlike tokens active (Checking.succeeds left) (Checking.succeeds right) :=
  around _ inside (fun _ => succeeds_run left _) (fun _ => succeeds_run right _)
    fun _ _ errors => ⟨_, errors, rfl⟩

private theorem withoutErrors {left right : Checking Answer}
    (inside : SettledAlike tokens active left right) :
    SettledAlike tokens active (Checking.withoutErrors left) (Checking.withoutErrors right) :=
  around _ inside (fun _ => withoutErrors_run left _) (fun _ => withoutErrors_run right _)
    fun before answer errors => ⟨answer, errors.shrink before.size, rfl⟩

section Several

variable {Item : Type} {items : List Item} {left right : Item → Checking Unit}
  (each : ∀ item ∈ items, SettledAlike tokens active (left item) (right item))

include each

private theorem forM : SettledAlike tokens active (items.forM left) (items.forM right) := by
  induction items with
  | nil => exact .pure ()
  | cons item rest ih =>
      obtain ⟨atItem, atRest⟩ := List.forall_mem_cons.mp each
      exact atItem.bind fun _ => ih atRest

private theorem firstSucceeds :
    SettledAlike tokens active (Checking.firstSucceeds (items.map left))
      (Checking.firstSucceeds (items.map right)) := by
  induction items with
  | nil => exact .pure false
  | cons item rest ih =>
      obtain ⟨atItem, atRest⟩ := List.forall_mem_cons.mp each
      refine atItem.succeeds.bind ?_
      intro success
      cases success with
      | true => exact .pure true
      | false => exact ih atRest

private theorem countSucceeding :
    SettledAlike tokens active (Checking.countSucceeding (items.map left))
      (Checking.countSucceeding (items.map right)) := by
  induction items with
  | nil => exact .pure 0
  | cons item rest ih =>
      obtain ⟨atItem, atRest⟩ := List.forall_mem_cons.mp each
      exact atItem.succeeds.bind fun _ => (ih atRest).bind fun _ => .pure _

end Several

end SettledAlike

end Checking

/-! ### Frames -/

/-- An open call of a check. The slots open around it are given innermost first, each with the place at
which it was entered. -/
structure Frame where
  rule : Rule
  place : Place
  opened : List (Nat × Place)
  tried : Bool

namespace Frame

def start (entry : Rule) (value : Json) : Frame := ⟨entry, ⟨[], value⟩, [], false⟩

/-- What a run keeps of the open slots: only the depths of their places. -/
def active (frame : Frame) : List (Nat × Nat) :=
  frame.opened.map fun (slot, place) => (slot, place.tokens.length)

def SettledAlike (frame : Frame) (visit other : Rule → Json → Bool → Checking Unit) : Prop :=
  Checking.SettledAlike frame.place.tokens frame.active
    (visit frame.rule frame.place.value frame.tried)
    (other frame.rule frame.place.value frame.tried)

/-- The calls of a frame: the rule of a slot that is not open at this depth, and what the demands of its
checks hand on. -/
inductive Calls (table : Array Rule) (caller : Frame) : Frame → Prop where
  | enter {slot : Nat} {body : Rule} (isSlot : caller.rule = .slot slot)
      (closed : (slot, caller.place.tokens.length) ∉ caller.active)
      (filled : table[slot]? = some body) :
      Calls table caller
        { caller with rule := body, opened := (slot, caller.place) :: caller.opened }
  | same {general : List Check} {guarded : List (Kind × List Check)} {formats : List FormatCheck}
      {messages : Messages} {rule : Rule}
      (isChecks : caller.rule = .checks general guarded formats messages)
      (asked : .same rule ∈ Rule.demands general guarded formats messages caller.place.value) :
      Calls table caller { caller with rule := rule }
  | inner {general : List Check} {guarded : List (Kind × List Check)} {formats : List FormatCheck}
      {messages : Messages} {token : String} {part : Json} {rule : Rule}
      (isChecks : caller.rule = .checks general guarded formats messages)
      (asked : .inner token part rule ∈
        Rule.demands general guarded formats messages caller.place.value) :
      Calls table caller { caller with rule := rule, place := caller.place.below token part }
  | branch {general : List Check} {guarded : List (Kind × List Check)} {formats : List FormatCheck}
      {messages : Messages} {wanted : Choice} {message : Option String} {branches : List Rule}
      {rule : Rule} (isChecks : caller.rule = .checks general guarded formats messages)
      (asked : .choice wanted message branches ∈
        Rule.demands general guarded formats messages caller.place.value)
      (isBranch : rule ∈ branches) :
      Calls table caller { caller with rule := rule, tried := true }

end Frame

/-! ### What a frame does is determined by its calls -/

namespace Checker

variable {checker : Checker} {visit other : Rule → Json → Bool → Checking Unit}
  {tokens : List String} {active : List (Nat × Nat)} {value : Json} {tried : Bool}

private theorem raise_settledAlike (keyword : Keyword) (property message : Option String) :
    Checking.SettledAlike tokens active (checker.raise keyword property message tried)
      (checker.raise keyword property message tried) := by
  intro errors
  unfold raise
  cases checker.greedy || tried with
  | true => exact .inl ⟨(), _, rfl, rfl⟩
  | false => exact .inr ⟨_, rfl, rfl⟩

private theorem chooses_settledAlike {branches : List Rule} (wanted : Choice)
    (atBranch : ∀ branch ∈ branches,
      Checking.SettledAlike tokens active (visit branch value true) (other branch value true)) :
    Checking.SettledAlike tokens active (chooses visit value branches wanted)
      (chooses other value branches wanted) := by
  have searched := (Checking.SettledAlike.firstSucceeds atBranch).withoutErrors
  have counted := (Checking.SettledAlike.countSucceeding atBranch).withoutErrors
  cases wanted with
  | any => exact searched
  | one => exact counted.bind fun _ => .pure _
  | none => exact searched.bind fun _ => .pure _

private theorem checkSlot_settledAlike {slot : Nat}
    (atBody : ∀ body, (slot, tokens.length) ∉ active → checker.table[slot]? = some body →
      Checking.SettledAlike tokens ((slot, tokens.length) :: active) (visit body value tried)
        (other body value tried)) :
    Checking.SettledAlike tokens active (checker.checkSlot visit slot value tried)
      (checker.checkSlot other slot value tried) := by
  by_cases isOpen : (slot, tokens.length) ∈ active
  · intro errors
    exact .inl ⟨(), errors, checkSlot_open_run isOpen, checkSlot_open_run isOpen⟩
  · cases entry : checker.table[slot]? with
    | none =>
        intro errors
        exact .inl ⟨(), errors, checkSlot_unfilled_run isOpen entry,
          checkSlot_unfilled_run isOpen entry⟩
    | some body =>
        exact .around _ (atBody body isOpen entry) (fun _ => checkSlot_filled_run isOpen entry)
          (fun _ => checkSlot_filled_run isOpen entry) fun _ _ errors => ⟨(), errors, rfl⟩

/-- A frame does the same with two ways of visiting rules that do the same in the frames it calls. -/
theorem visitRule_settledAlike {frame : Frame}
    (calls : ∀ callee, frame.Calls checker.table callee → callee.SettledAlike visit other) :
    frame.SettledAlike (checker.visitRule visit) (checker.visitRule other) := by
  obtain ⟨rule, place, opened, tried⟩ := frame
  cases rule with
  | free => exact .pure ()
  | slot slot =>
      apply checkSlot_settledAlike
      intro body closed filled
      exact calls _ (.enter rfl closed filled)
  | checks general guarded formats messages =>
      unfold Frame.SettledAlike
      dsimp only [visitRule]
      rw [checkNode_eq_forM, checkNode_eq_forM]
      apply Checking.SettledAlike.forM
      intro demand asked
      cases demand with
      | failure keyword property message => exact raise_settledAlike keyword property message
      | same rule => exact calls _ (.same rfl asked)
      | inner token part rule =>
          have atPart := calls _ (.inner rfl asked)
          exact atPart.below
      | choice wanted message branches =>
          have atBranch : ∀ branch ∈ branches,
              Frame.SettledAlike ⟨branch, place, opened, true⟩ visit other :=
            fun branch isBranch => calls _ (.branch rfl asked isBranch)
          refine (chooses_settledAlike wanted atBranch).bind ?_
          intro holds
          cases holds with
          | true => exact .pure ()
          | false => exact raise_settledAlike wanted.keyword none message

end Checker

/-! ### Each call needs less -/

namespace Frame

variable {table : Array Rule} {highest : Nat} {caller callee : Frame}

def here (frame : Frame) : List Nat :=
  frame.active.filterMap fun (slot, depth) =>
    if depth = frame.place.tokens.length then some slot else none

theorem mem_here {frame : Frame} {slot : Nat} :
    slot ∈ frame.here ↔ (slot, frame.place.tokens.length) ∈ frame.active := by
  simp [here]

def need (table : Array Rule) (highest : Nat) (frame : Frame) : Nat :=
  budgetNeed table highest frame.here frame.rule frame.place.value

/-- The rule of a call is one of the table, or is inside the rule of the caller. -/
theorem Calls.height_le
    (bounded : ∀ (slot : Nat) (body : Rule), table[slot]? = some body → body.height ≤ highest)
    (inRange : caller.rule.height ≤ highest) (calls : caller.Calls table callee) :
    callee.rule.height ≤ highest := by
  have lower {general : List Check} {guarded : List (Kind × List Check)}
      {formats : List FormatCheck} {messages : Messages} {inside : Rule}
      (isChecks : caller.rule = .checks general guarded formats messages)
      (within : inside ∈ Rule.rulesInside general guarded) : inside.height ≤ highest := by
    have bound := Rule.height_of_rulesInside within
    rw [isChecks, Rule.height] at inRange
    omega
  cases calls with
  | enter isSlot closed filled => exact bounded _ _ filled
  | same isChecks asked => exact lower isChecks (Rule.demands_within asked)
  | inner isChecks asked => exact lower isChecks (Rule.demands_within asked).1
  | branch isChecks asked isBranch =>
      exact lower isChecks (Rule.demands_within asked _ isBranch)

private theorem here_enter (caller : Frame) (slot : Nat) (body : Rule) :
    here { caller with rule := body, opened := (slot, caller.place) :: caller.opened } =
      slot :: caller.here := by
  simp [here, active]

theorem Calls.need_lt
    (bounded : ∀ (slot : Nat) (body : Rule), table[slot]? = some body → body.height ≤ highest)
    (inRange : caller.rule.height ≤ highest) (calls : caller.Calls table callee) :
    callee.need table highest < caller.need table highest := by
  have calleeInRange := calls.height_le bounded inRange
  apply Nat.lt_succ_of_le
  cases calls with
  | enter isSlot closed filled =>
      have notOpen : _ ∉ caller.here := fun isOpen => closed (mem_here.mp isOpen)
      unfold need
      rw [here_enter, isSlot]
      exact budgetNeed_enter filled notOpen calleeInRange (Nat.le_refl _)
  | same isChecks asked =>
      have bound := Rule.height_of_rulesInside (Rule.demands_within asked)
      exact budgetNeed_same (by rw [isChecks, Rule.height]) bound (Nat.le_refl _)
  | inner isChecks asked =>
      have deeper := (Rule.demands_within asked).2.depth_lt
      exact budgetNeed_inner calleeInRange deeper (Nat.le_refl _)
  | branch isChecks asked isBranch =>
      have bound := Rule.height_of_rulesInside (Rule.demands_within asked _ isBranch)
      exact budgetNeed_same (by rw [isChecks, Rule.height]) bound (Nat.le_refl _)

/-! ### The frames of a whole check -/

def Visits (table : Array Rule) : Frame → Frame → Prop :=
  Relation.ReflTransGen (Calls table)

variable {start frame : Frame}

theorem Visits.height_le
    (bounded : ∀ (slot : Nat) (body : Rule), table[slot]? = some body → body.height ≤ highest)
    (inRange : start.rule.height ≤ highest) (visits : Visits table start frame) :
    frame.rule.height ≤ highest := by
  induction visits with
  | refl => exact inRange
  | tail _ calls ih => exact calls.height_le bounded ih

structure Within (root : Json) (frame : Frame) : Prop where
  place : frame.place.Inside root
  opened : ∀ entry ∈ frame.opened, entry.2.Inside root

theorem Calls.within {root : Json} (within : caller.Within root)
    (calls : caller.Calls table callee) : callee.Within root := by
  cases calls with
  | enter isSlot closed filled =>
      exact ⟨within.place, List.forall_mem_cons.mpr ⟨within.place, within.opened⟩⟩
  | same isChecks asked => exact ⟨within.place, within.opened⟩
  | inner isChecks asked =>
      exact ⟨within.place.part (Rule.demands_within asked).2, within.opened⟩
  | branch isChecks asked isBranch => exact ⟨within.place, within.opened⟩

theorem Visits.within {entry : Rule} {value : Json}
    (visits : Visits table (.start entry value) frame) : frame.Within value := by
  induction visits with
  | refl =>
      refine ⟨.whole, ?_⟩
      intro opened isOpened
      cases isOpened
  | tail _ calls ih => exact calls.within ih

def activations (frame : Frame) : List (Nat × List String) :=
  frame.opened.map fun (slot, place) => (slot, place.tokens)

theorem Calls.nodup_activations (distinct : caller.activations.Nodup)
    (calls : caller.Calls table callee) : callee.activations.Nodup := by
  cases calls with
  | enter isSlot closed filled =>
      refine List.nodup_cons.mpr ⟨?_, distinct⟩
      intro isOpen
      obtain ⟨⟨slot, place⟩, isOpened, samePlace⟩ := List.mem_map.mp isOpen
      obtain ⟨rfl, sameTokens⟩ := Prod.mk.inj samePlace
      have sameDepth : place.tokens.length = caller.place.tokens.length :=
        congrArg List.length sameTokens
      exact closed (List.mem_map.mpr ⟨(slot, place), isOpened, congrArg (Prod.mk slot) sameDepth⟩)
  | same isChecks asked => exact distinct
  | inner isChecks asked => exact distinct
  | branch isChecks asked isBranch => exact distinct

theorem Visits.nodup_activations {entry : Rule} {value : Json}
    (visits : Visits table (.start entry value) frame) : frame.activations.Nodup := by
  induction visits with
  | refl => exact List.nodup_nil
  | tail _ calls ih => exact calls.nodup_activations ih

end Frame

namespace Checker

/-- Any two budgets that a frame does not exceed do the same in it. -/
theorem visit_settledAlike {checker : Checker} {highest smaller larger : Nat} {frame : Frame}
    (bounded : ∀ (slot : Nat) (body : Rule),
      checker.table[slot]? = some body → body.height ≤ highest)
    (inRange : frame.rule.height ≤ highest)
    (enough : frame.need checker.table highest ≤ smaller) (more : smaller ≤ larger) :
    frame.SettledAlike (checker.visit smaller) (checker.visit larger) := by
  induction smaller generalizing larger frame with
  | zero =>
      unfold Frame.need budgetNeed at enough
      omega
  | succ smaller ih =>
      obtain ⟨larger, rfl⟩ := Nat.exists_eq_succ_of_ne_zero (Nat.ne_zero_of_lt more)
      apply visitRule_settledAlike
      intro callee calls
      have less := calls.need_lt bounded inRange
      exact ih (calls.height_le bounded inRange) (by omega) (Nat.le_of_succ_le_succ more)

end Checker

/-- Checking a value always comes to an answer, whatever the rules and wherever their references lead.
The calls that it comes to do not nest without end, and they are all that it does: a frame does the
same whenever the frames that it calls do, and from some budget on every budget does the same in it. At
no place of the value is a slot open twice. -/
theorem Validator.validate_ends (validator : Validator) (value : Json) :
    let checker := validator.checker
    let Visits := Frame.Visits checker.table (.start validator.entry value)
    (∃ errors, validator.validate value = .ok errors) ∧
    (WellFounded fun callee caller => Visits caller ∧ caller.Calls checker.table callee) ∧
    ∀ frame, Visits frame →
      frame.Within value ∧ frame.activations.Nodup ∧
      (∀ visit other,
        (∀ callee, frame.Calls checker.table callee → callee.SettledAlike visit other) →
        frame.SettledAlike (checker.visitRule visit) (checker.visitRule other)) ∧
      ∃ steps, ∀ budget ≥ steps, frame.SettledAlike (checker.visit steps) (checker.visit budget) := by
  dsimp only
  obtain ⟨found, _, errors⟩ := validator.checker.errors_eq_findings validator.entry value
  obtain ⟨entryInRange, bounded⟩ := validator.checker.height_le_height validator.entry
  have inRange {frame : Frame}
      (visits : Frame.Visits validator.checker.table (.start validator.entry value) frame) :
      frame.rule.height ≤ validator.checker.height validator.entry :=
    visits.height_le bounded entryInRange
  refine ⟨⟨_, errors⟩, ?_, ?_⟩
  · apply Subrelation.wf _
      (measure (Frame.need validator.checker.table (validator.checker.height validator.entry))).wf
    rintro callee caller ⟨visits, calls⟩
    exact calls.need_lt bounded (inRange visits)
  · intro frame visits
    refine ⟨visits.within, visits.nodup_activations, ?_, ?_⟩
    · exact fun visit other calls => Checker.visitRule_settledAlike calls
    · exact ⟨_, fun budget more =>
        Checker.visit_settledAlike bounded (inRange visits) (Nat.le_refl _) more⟩

/-- Two slots that hand the value on to each other. -/
example : Validator.validate ⟨⟨.object [], [], false⟩, .slot 0,
    ⟨#[.checks [.allOf [.slot 1]] [] [] ⟨none, [], []⟩, .slot 0], false⟩⟩ .null = .ok [] := by
  rfl

end JsonSchema
