import JsonSchema.Proofs.Checking.Frames
import JsonSchema.Proofs.Checking.Log

set_option autoImplicit false

/-! The calls of a whole check, each with what is left of its budget. The budget is never short: what the
rule of a call finds is known, and it is what the call logs from every log. The main statement is
`Frame.Reached.logs`. -/

namespace JsonSchema

def Rule.checksFor (general : List Check) (guarded : List (Kind × List Check)) (value : Json) :
    List Check :=
  general ++ guarded.flatMap fun (kind, group) => if kind.accepts value then group else []

/-- A check is run if it is general, or is in a group whose kind accepts the value. -/
theorem Rule.mem_checksFor {general : List Check} {guarded : List (Kind × List Check)} {value : Json}
    {check : Check} :
    check ∈ Rule.checksFor general guarded value ↔
      check ∈ general ∨
        ∃ kind group, (kind, group) ∈ guarded ∧ kind.accepts value = true ∧ check ∈ group := by
  unfold checksFor
  rw [List.mem_append, List.mem_flatMap]
  constructor
  · rintro (isGeneral | ⟨⟨kind, group⟩, isGroup, inGroup⟩)
    · exact .inl isGeneral
    · cases accepts : kind.accepts value with
      | false => simp [accepts] at inGroup
      | true => exact .inr ⟨kind, group, isGroup, accepts, by simpa [accepts] using inGroup⟩
  · rintro (isGeneral | ⟨kind, group, isGroup, accepts, isCheck⟩)
    · exact .inl isGeneral
    · exact .inr ⟨(kind, group), isGroup, by simpa [accepts] using isCheck⟩

theorem Rule.mem_allChecks_of_run {general : List Check} {guarded : List (Kind × List Check)}
    {value : Json} {check : Check} (isRun : check ∈ Rule.checksFor general guarded value) :
    check ∈ Rule.allChecks general guarded := by
  unfold allChecks
  rcases mem_checksFor.mp isRun with isGeneral | ⟨kind, group, isGroup, _, isCheck⟩
  · exact List.mem_append_left _ isGeneral
  · exact List.mem_append_right _ (List.mem_flatMap.mpr ⟨(kind, group), isGroup, isCheck⟩)

theorem Rule.demands_eq (general : List Check) (guarded : List (Kind × List Check))
    (formats : List FormatCheck) (messages : Messages) (value : Json) :
    Rule.demands general guarded formats messages value =
      (Rule.checksFor general guarded value).flatMap (Check.demands messages value) ++
        formats.flatMap fun format =>
          Demand.failIf (!format.accepts value) .format (messages.find? .format none) := by
  rw [Rule.demands, Rule.checksFor, List.flatMap_append, List.flatMap_assoc]
  congr 3
  funext entry
  obtain ⟨kind, group⟩ := entry
  dsimp only
  split <;> rfl

theorem Rule.mem_demands_of_run {general : List Check} {guarded : List (Kind × List Check)}
    {formats : List FormatCheck} {messages : Messages} {value : Json} {check : Check}
    {demand : Demand Rule} (isRun : check ∈ Rule.checksFor general guarded value)
    (asked : demand ∈ check.demands messages value) :
    demand ∈ Rule.demands general guarded formats messages value := by
  rw [Rule.demands_eq]
  exact List.mem_append_left _ (List.mem_flatMap.mpr ⟨check, isRun, asked⟩)

namespace Frame

variable {checker : Checker} {entry : Rule} {value : Json} {budget : Nat} {frame : Frame}

inductive Reached (checker : Checker) (entry : Rule) (value : Json) : Nat → Frame → Prop where
  | start : Reached checker entry value (checker.budget entry value) (.start entry value)
  | call {budget : Nat} {caller callee : Frame} (reached : Reached checker entry value (budget + 1) caller)
      (calls : caller.Calls checker.table callee) : Reached checker entry value budget callee

def findingsOf (checker : Checker) (budget : Nat) (frame : Frame) (demand : Demand Rule) : Findings :=
  demand.findings
    (fun rule => .ofRule checker.table budget frame.place.tokens frame.here rule frame.place.value)
    (fun token part rule =>
      .ofRule checker.table budget (token :: frame.place.tokens) [] rule part)
    frame.place.tokens

namespace Reached

theorem visits (reached : Reached checker entry value budget frame) :
    Visits checker.table (.start entry value) frame := by
  induction reached with
  | start => exact .refl
  | call _ calls ih => exact .tail ih calls

theorem height_le (reached : Reached checker entry value budget frame) :
    frame.rule.height ≤ checker.height entry := by
  obtain ⟨atEntry, inTable⟩ := checker.height_le_height entry
  exact reached.visits.height_le inTable atEntry

theorem need_le (reached : Reached checker entry value budget frame) :
    frame.need checker.table (checker.height entry) ≤ budget := by
  induction reached with
  | start => exact checker.need_le_budget entry value
  | call before calls ih =>
      have less := calls.need_lt (checker.height_le_height entry).2 before.height_le
      omega

/-- Slots are opened on the way to a place, so none is open deeper than at the place itself. -/
theorem openHere (reached : Reached checker entry value budget frame) :
    Checker.OpenHere frame.place.tokens frame.here frame.active := by
  refine ⟨fun slot => Frame.mem_here.symm, ?_⟩
  induction reached with
  | start => simp [Frame.start, active]
  | call _ calls ih =>
      cases calls with
      | enter => simpa [active] using ih
      | same => exact ih
      | branch => exact ih
      | inner =>
          intro opened isOpen
          exact Nat.le_succ_of_le (ih opened isOpen)

def findings (checker : Checker) (budget : Nat) (frame : Frame) : Findings :=
  .ofRule checker.table budget frame.place.tokens frame.here frame.rule frame.place.value

theorem known (reached : Reached checker entry value budget frame) :
    ∃ found, findings checker budget frame = some found :=
  Option.isSome_iff_exists.mp (Findings.ofRule_isSome (checker.height_le_height entry).2 _
    reached.height_le reached.need_le)

theorem logs (reached : Reached checker entry value budget frame) {found : List ValidationError}
    (known : findings checker budget frame = some found) :
    Logs (checker.halts frame.tried)
      (checker.visit budget frame.rule frame.place.value frame.tried) frame.place.tokens frame.active
      found :=
  checker.visit_logs frame.tried reached.openHere known

/-- What each demand of a call finds is known as well, and it is what the demand logs. -/
theorem demand_logs {general : List Check} {guarded : List (Kind × List Check)}
    {formats : List FormatCheck} {messages : Messages}
    (reached : Reached checker entry value (budget + 1) frame)
    (isChecks : frame.rule = .checks general guarded formats messages) {demand : Demand Rule}
    (asked : demand ∈ Rule.demands general guarded formats messages frame.place.value) :
    ∃ found, frame.findingsOf checker budget demand = some found ∧
      Logs (checker.halts frame.tried)
        (checker.meet (checker.visit budget) frame.place.value frame.tried demand)
        frame.place.tokens frame.active found := by
  obtain ⟨all, known⟩ := reached.known
  unfold findings at known
  rw [isChecks, Findings.ofRule] at known
  obtain ⟨found, own⟩ := Findings.known_of_combine known _ (List.mem_map_of_mem asked)
  refine ⟨found, own, Checker.meet_logs frame.tried ?_ ?_ own⟩
  · exact fun rule tried found known => checker.visit_logs tried reached.openHere known
  · exact fun token part rule found known =>
      checker.visit_logs frame.tried (reached.openHere.below token) known

end Reached

end Frame

end JsonSchema
