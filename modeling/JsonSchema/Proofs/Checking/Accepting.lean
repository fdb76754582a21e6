import JsonSchema.Proofs.Checking.FailFast
import JsonSchema.Proofs.Checking.GreatestFixedPoint

set_option autoImplicit false

/-! What a rule that finds nothing in a value tells about the rules inside it. A run skips a slot that is
entered again at the same place, and so what is found under a slot that is open says nothing about the
slot; but it has been entered before, and nothing was found there either. So a value is accepted with a
list of slots that are all accepted with it. Other than what can be supported, this needs no condition on
the rules. -/

namespace JsonSchema

namespace Rule

/-- A run finds nothing in a value when it starts with some of these slots open. -/
def Passes (table : Array Rule) (slots : List Nat) (rule : Rule) (value : Json) : Prop :=
  ∃ budget tokens here, here ⊆ slots ∧
    Findings.ofRule table budget tokens here rule value = some []

/-- A value is accepted by a rule: the rule passes, with slots open that pass in the same way. -/
def Accepts (table : Array Rule) (rule : Rule) (value : Json) : Prop :=
  ∃ slots : List Nat, (∀ slot ∈ slots, Passes table slots (ofSlot table slot) value) ∧
    Passes table slots rule value

variable {table : Array Rule} {rule : Rule} {value : Json} {slots more : List Nat}

theorem Passes.mono (passes : Passes table slots rule value) (subset : slots ⊆ more) :
    Passes table more rule value := by
  rcases passes with ⟨budget, tokens, here, within, known⟩
  exact ⟨budget, tokens, here, fun slot isOpen => subset (within isOpen), known⟩

private theorem accepts_of_findings {budget : Nat} {tokens : List String}
    (known : Findings.ofRule table budget tokens [] rule value = some []) :
    Accepts table rule value := by
  refine ⟨[], ?_, budget, tokens, [], List.nil_subset _, known⟩
  intro slot isOpen
  cases isOpen

theorem Accepts.of_slot {slot : Nat} (accepts : Accepts table (.slot slot) value) :
    Accepts table (ofSlot table slot) value := by
  rcases accepts with ⟨slots, each, budget, tokens, here, within, known⟩
  cases budget with
  | zero => cases known
  | succ budget =>
      rw [Findings.ofRule] at known
      by_cases isOpen : slot ∈ here
      · exact ⟨slots, each, each slot (within isOpen)⟩
      · rw [if_neg isOpen] at known
        have entered : Passes table (slot :: slots) (ofSlot table slot) value := by
          unfold ofSlot
          cases filled : table[slot]? with
          | none => exact ⟨1, [], [], List.nil_subset _, rfl⟩
          | some body =>
              rw [filled] at known
              exact ⟨budget, tokens, slot :: here, List.cons_subset_cons slot within, known⟩
        refine ⟨slot :: slots, ?_, entered⟩
        intro other isOther
        rcases List.mem_cons.mp isOther with rfl | before
        · exact entered
        · exact (each other before).mono (List.subset_cons_self slot slots)

section Checks

variable {general : List Check} {guarded : List (Kind × List Check)} {formats : List FormatCheck}
  {messages : Messages}

private theorem demand_of_findings {budget : Nat} {tokens : List String} {here : List Nat}
    (known : Findings.ofRule table (budget + 1) tokens here (.checks general guarded formats messages)
      value = some [])
    {demand : Demand Rule} (asked : demand ∈ Rule.demands general guarded formats messages value) :
    demand.findings (fun rule => Findings.ofRule table budget tokens here rule value)
      (fun token part rule => Findings.ofRule table budget (token :: tokens) [] rule part) tokens =
        some [] := by
  rw [Findings.ofRule, Demand.findingsOf, Findings.gather_eq_some_nil_iff] at known
  exact known _ (List.mem_map.mpr ⟨demand, asked, rfl⟩)

variable (accepts : Accepts table (.checks general guarded formats messages) value)

include accepts

theorem Accepts.same {inside : Rule}
    (asked : .same inside ∈ Rule.demands general guarded formats messages value) :
    Accepts table inside value := by
  rcases accepts with ⟨slots, each, budget, tokens, here, within, known⟩
  cases budget with
  | zero => cases known
  | succ budget => exact ⟨slots, each, budget, tokens, here, within, demand_of_findings known asked⟩

theorem Accepts.inner {token : String} {part : Json} {inside : Rule}
    (asked : .inner token part inside ∈ Rule.demands general guarded formats messages value) :
    Accepts table inside part := by
  rcases accepts with ⟨_, _, budget, tokens, here, _, known⟩
  cases budget with
  | zero => cases known
  | succ budget => exact accepts_of_findings (demand_of_findings known asked)

theorem Accepts.not_failure {keyword : Keyword} {property message : Option String} :
    .failure keyword property message ∉ Rule.demands general guarded formats messages value := by
  intro asked
  rcases accepts with ⟨_, _, budget, tokens, here, _, known⟩
  cases budget with
  | zero => cases known
  | succ budget => cases demand_of_findings known asked

end Checks

end Rule

theorem Validator.accepts_of_isValid {validator : Validator} {value : Json}
    (valid : validator.isValid value = .ok true) :
    validator.entry.Accepts validator.checker.table value := by
  obtain ⟨found, known, errors⟩ := validator.checker.errors_eq_findings validator.entry value
  have validated := validator.isValid_of_validate errors
  rw [valid] at validated
  have nothing : found = [] := by
    have noErrors := Except.ok.inj validated
    cases found with
    | nil => rfl
    | cons error more =>
        cases greedy : validator.checker.greedy <;> rw [greedy] at noErrors <;> cases noErrors
  subst nothing
  exact Rule.accepts_of_findings known

end JsonSchema
