import Mathlib.Tactic.ByContra
import JsonSchema.Validator
import JsonSchema.Proofs.Checking.Budget
import JsonSchema.Proofs.Checking.Meets

set_option autoImplicit false

/-! The meaning of references that go in circles. A run skips a slot that is entered again at the same
place. For rules without `oneOf` and `not` this is what the greatest fixed point says: a value is valid
exactly if some set of slots at places supports itself and, with it, the entry. -/

namespace JsonSchema

/-- No rule inside is under a `oneOf` or a `not`. Slots are not followed. -/
inductive Rule.Positive : Rule → Prop where
  | free : Rule.Positive .free
  | slot {slot : Nat} : Rule.Positive (.slot slot)
  | checks {general : List Check} {guarded : List (Kind × List Check)}
      {formats : List FormatCheck} {messages : Messages}
      (counting : ∀ check ∈ Rule.allChecks general guarded,
        check.keyword ≠ .oneOf ∧ check.keyword ≠ .not)
      (inside : ∀ rule ∈ Rule.rulesInside general guarded, Rule.Positive rule) :
      Rule.Positive (.checks general guarded formats messages)

def Rule.ofSlot (table : Array Rule) (slot : Nat) : Rule := table[slot]?.getD .free

/-- Slots at places of a value support each other: where a slot holds, the rule in it is met as long as
these slots hold, and those that are assumed. -/
def SupportedUnder (table : Array Rule) (root : Json) (assumed holds : Nat → Place → Prop) : Prop :=
  ∀ slot place, holds slot place →
    place.Inside root ∧
      (Rule.ofSlot table slot).Meets (fun slot place => holds slot place ∨ assumed slot place) place

def Supported (table : Array Rule) (root : Json) (holds : Nat → Place → Prop) : Prop :=
  ∀ slot place, holds slot place →
    place.Inside root ∧ (Rule.ofSlot table slot).Meets holds place

/-- The greatest set of slots at places that supports itself under an assumption. -/
def Supportable (table : Array Rule) (root : Json) (assumed : Nat → Place → Prop) (slot : Nat)
    (place : Place) : Prop :=
  ∃ holds, SupportedUnder table root assumed holds ∧ holds slot place

/-- What holds under an assumption: what can be supported, and what is assumed. -/
def HoldsUnder (table : Array Rule) (root : Json) (assumed : Nat → Place → Prop) (slot : Nat)
    (place : Place) : Prop :=
  Supportable table root assumed slot place ∨ assumed slot place

def OpenAt (place : Place) (here : List Nat) (slot : Nat) (there : Place) : Prop :=
  there = place ∧ slot ∈ here

section Support

variable {table : Array Rule} {root : Json}

private theorem supportedUnder_supportable (assumed : Nat → Place → Prop) :
    SupportedUnder table root assumed (Supportable table root assumed) := by
  rintro slot place ⟨holds, supported, held⟩
  obtain ⟨inside, meets⟩ := supported slot place held
  refine ⟨inside, meets.mono ?_⟩
  rintro other there (heldThere | isAssumed)
  · exact .inl ⟨holds, supported, heldThere⟩
  · exact .inr isAssumed

private theorem supported_supportable :
    Supported table root (Supportable table root fun _ _ => False) := by
  intro slot place held
  obtain ⟨inside, meets⟩ := supportedUnder_supportable _ slot place held
  refine ⟨inside, meets.mono ?_⟩
  rintro other there (heldThere | nothing)
  · exact heldThere
  · cases nothing

theorem HoldsUnder.of_closed {closed assumed : Nat → Place → Prop} {slot : Nat} {place : Place}
    (never : ∀ slot place, ¬closed slot place) (held : HoldsUnder table root closed slot place) :
    HoldsUnder table root assumed slot place := by
  rcases held with ⟨holds, supported, heldHere⟩ | isClosed
  · refine .inl ⟨holds, ?_, heldHere⟩
    intro other there heldThere
    obtain ⟨inside, meets⟩ := supported other there heldThere
    refine ⟨inside, meets.mono ?_⟩
    rintro third somewhere (held | isClosed)
    · exact .inl held
    · exact (never third somewhere isClosed).elim
  · exact (never slot place isClosed).elim

/-- A slot whose rule is met when the slot itself is open holds without being open. -/
theorem Supportable.of_enter {here : List Nat} {slot : Nat} {place : Place}
    (inside : place.Inside root)
    (meets : (Rule.ofSlot table slot).Meets
      (HoldsUnder table root (OpenAt place (slot :: here))) place) :
    Supportable table root (OpenAt place here) slot place := by
  -- What can be supported while the slot is open, and the slot here, support each other.
  refine ⟨fun other there => Supportable table root (OpenAt place (slot :: here)) other there ∨
    (other = slot ∧ there = place), ?_, .inr ⟨rfl, rfl⟩⟩
  have weaken : ∀ other there, HoldsUnder table root (OpenAt place (slot :: here)) other there →
      (Supportable table root (OpenAt place (slot :: here)) other there ∨
        (other = slot ∧ there = place)) ∨ OpenAt place here other there := by
    rintro other there (held | ⟨atPlace, isOpen⟩)
    · exact .inl (.inl held)
    · rcases List.mem_cons.mp isOpen with isSlot | before
      · exact .inl (.inr ⟨isSlot, atPlace⟩)
      · exact .inr ⟨atPlace, before⟩
  rintro other there (held | ⟨rfl, rfl⟩)
  · obtain ⟨isInside, kept⟩ := supportedUnder_supportable _ other there held
    exact ⟨isInside, kept.mono weaken⟩
  · exact ⟨inside, meets.mono weaken⟩

end Support

/-! ### A run against what can be supported -/

theorem Rule.Positive.choice {general : List Check} {guarded : List (Kind × List Check)}
    {formats : List FormatCheck} {messages : Messages} {value : Json} {wanted : Choice}
    {message : Option String} {branches : List Rule}
    (positive : (Rule.checks general guarded formats messages).Positive)
    (asked : .choice wanted message branches ∈
      Rule.demands general guarded formats messages value) : wanted = .any := by
  cases positive with
  | checks counting inside =>
      rcases Rule.mem_demands asked with isFormat | ⟨check, isCheck, ofCheck⟩
      · cases isFormat
      · obtain ⟨notOne, notNone⟩ := counting check isCheck
        have same := Check.choice_of_demands ofCheck
        cases wanted with
        | any => rfl
        | one => exact (notOne same).elim
        | none => exact (notNone same).elim

/-- A rule that finds nothing at a place is met there by what can be supported. -/
theorem Findings.meets_of_ofRule {table : Array Rule} {root : Json} {budget : Nat}
    {tokens : List String} {here : List Nat} {rule : Rule} {value : Json}
    (positiveTable : ∀ (slot : Nat) (body : Rule), table[slot]? = some body → body.Positive)
    (positive : rule.Positive) (inside : Place.Inside root ⟨tokens, value⟩)
    (known : Findings.ofRule table budget tokens here rule value = some []) :
    rule.Meets (HoldsUnder table root (OpenAt ⟨tokens, value⟩ here)) ⟨tokens, value⟩ := by
  induction budget generalizing tokens here rule value with
  | zero => cases known
  | succ budget ih =>
      cases rule with
      | free => exact .free
      | slot slot =>
          rw [Findings.ofRule] at known
          split at known
          next isOpen => exact .slot (.inr ⟨rfl, isOpen⟩)
          next =>
            refine .slot (.inl (Supportable.of_enter inside ?_))
            cases entry : table[slot]? with
            | none =>
                rw [Rule.ofSlot, entry]
                exact .free
            | some body =>
                rw [entry] at known
                rw [Rule.ofSlot, entry]
                exact ih (positiveTable slot body entry) inside known
      | checks general guarded formats messages =>
          rw [Findings.ofRule, Demand.findingsOf, Findings.gather_eq_some_nil_iff] at known
          rw [Rule.meets_checks_iff]
          intro demand asked
          have nothing := known _ (List.mem_map.mpr ⟨demand, asked, rfl⟩)
          have within := Rule.demands_within asked
          have positiveInside : ∀ rule ∈ Rule.rulesInside general guarded, rule.Positive := by
            cases positive with
            | checks counting inside => exact inside
          cases demand with
          | failure keyword property message => cases nothing
          | same other => exact ih (positiveInside other within) inside nothing
          | inner token part other =>
              have meets := ih (positiveInside other within.1) (inside.part within.2) nothing
              refine meets.mono ?_
              rintro slot place held
              exact HoldsUnder.of_closed (fun _ _ isOpen => List.not_mem_nil isOpen.2) held
          | choice wanted message branches =>
              obtain rfl := positive.choice asked
              obtain ⟨count, counted, outcome⟩ := Demand.findings_choice_eq_some _ _ _ nothing
              have positiveCount : 0 < count := by
                by_contra none
                rw [Choice.accepts, decide_eq_false none] at outcome
                cases outcome
              obtain ⟨findings, atBranch, success⟩ :=
                (Findings.tally_pos_iff counted).mp positiveCount
              obtain ⟨branch, isBranch, rfl⟩ := List.mem_map.mp atBranch
              exact ⟨branch, isBranch,
                ih (positiveInside branch (within branch isBranch)) inside success⟩

/-- A rule that is met at a place finds nothing there, whatever slots are open. -/
theorem Findings.eq_nil_of_meets {table : Array Rule} {root : Json}
    {holds : Nat → Place → Prop} (supported : Supported table root holds) {budget : Nat}
    {tokens : List String} {here : List Nat} {rule : Rule} {value : Json}
    {found : List ValidationError} (meets : rule.Meets holds ⟨tokens, value⟩)
    (known : Findings.ofRule table budget tokens here rule value = some found) : found = [] := by
  induction budget generalizing tokens here rule value found with
  | zero => cases known
  | succ budget ih =>
      cases rule with
      | free => exact (Option.some.inj known).symm
      | slot slot =>
          rw [Findings.ofRule] at known
          split at known
          next => exact (Option.some.inj known).symm
          next =>
            cases meets with
            | slot held =>
                have keeps := (supported slot _ held).2
                cases entry : table[slot]? with
                | none =>
                    rw [entry] at known
                    exact (Option.some.inj known).symm
                | some body =>
                    rw [entry] at known
                    rw [Rule.ofSlot, entry] at keeps
                    exact ih keeps known
      | checks general guarded formats messages =>
          rw [Rule.meets_checks_iff] at meets
          rw [Findings.ofRule] at known
          apply Findings.eq_nil_of_gather known
          intro findings member own atDemand
          obtain ⟨demand, asked, rfl⟩ := List.mem_map.mp member
          have met := meets demand asked
          cases demand with
          | failure keyword property message => cases met
          | same other => exact ih met atDemand
          | inner token part other => exact ih met atDemand
          | choice wanted message branches =>
              cases wanted with
              | any =>
                  obtain ⟨branch, isBranch, keep⟩ := met
                  obtain ⟨count, counted, outcome⟩ :=
                    Demand.findings_choice_eq_some _ _ _ atDemand
                  have atBranch := List.mem_map_of_mem
                    (f := fun branch => Findings.ofRule table budget tokens here branch value)
                    isBranch
                  obtain ⟨ofBranch, found⟩ := Findings.known_of_combine counted _ atBranch
                  have nothing := ih keep found
                  have counts : 0 < count :=
                    (Findings.tally_pos_iff counted).mpr ⟨_, atBranch, nothing ▸ found⟩
                  rw [Choice.accepts, decide_eq_true counts] at outcome
                  exact outcome
              | one => cases met
              | none => cases met

/-- References that go in circles mean the greatest fixed point. A value is valid by rules without
`oneOf` and `not` exactly if there are slots at places in it that support each other, the rule of each
being met where it holds, such that the entry is met at the whole value. -/
theorem Validator.isValid_iff_supported {validator : Validator}
    (positive : validator.entry.Positive)
    (positiveTable : ∀ (slot : Nat) (body : Rule),
      validator.checker.table[slot]? = some body → body.Positive)
    (value : Json) :
    ∃ valid : Bool, validator.isValid value = .ok valid ∧
      (valid = true ↔ ∃ holds : Nat → Place → Prop,
        Supported validator.checker.table value holds ∧
          validator.entry.Meets holds ⟨[], value⟩) := by
  obtain ⟨found, known, errors⟩ := validator.checker.errors_eq_findings validator.entry value
  refine ⟨found.isEmpty, ?_, ?_⟩
  · rw [Validator.isValid, Validator.validate, errors]
    cases validator.checker.greedy <;> cases found <;> rfl
  · constructor
    · intro nothing
      rw [List.isEmpty_iff] at nothing
      subst nothing
      refine ⟨_, supported_supportable, ?_⟩
      refine (Findings.meets_of_ofRule positiveTable positive .whole known).mono ?_
      rintro slot place held
      rcases HoldsUnder.of_closed (fun _ _ isOpen => List.not_mem_nil isOpen.2) held with
        supportable | nothing
      · exact supportable
      · cases nothing
    · rintro ⟨holds, supported, meets⟩
      rw [Findings.eq_nil_of_meets supported meets known]
      rfl

/-- Links of a chain, each with a name. The rule asks for itself twice: in place, where this adds
nothing, and for the next link. -/
def chainRule : Rule :=
  .checks [.allOf [.slot 0]]
    [(.object, [.required ["name"], .properties [("next", .slot 0)]])] [] ⟨none, [], []⟩

def chainValidator : Validator :=
  ⟨⟨.object [], [], false⟩, chainRule, ⟨#[chainRule], false⟩⟩

private theorem positive_chainRule : chainRule.Positive := by
  refine .checks ?_ ?_
  · decide
  · intro rule inside
    rcases List.mem_cons.mp inside with rfl | nested
    · exact .slot
    · rw [List.mem_singleton.mp nested]
      exact .slot

theorem Validator.isValid_iff_supported_chain :
    chainValidator.entry.Positive ∧
      ∃ valid : Bool, chainValidator.isValid (.object [("name", .null)]) = .ok valid ∧
        (valid = true ↔ ∃ holds : Nat → Place → Prop,
          Supported #[chainRule] (.object [("name", .null)]) holds ∧
            chainRule.Meets holds ⟨[], .object [("name", .null)]⟩) := by
  refine ⟨positive_chainRule, ?_⟩
  have positive : chainValidator.entry.Positive := positive_chainRule
  refine isValid_iff_supported positive ?_ _
  intro slot body filled
  have member := Array.mem_of_getElem? filled
  rw [List.mem_singleton.mp (Array.mem_toList_iff.mpr member)]
  exact positive_chainRule

end JsonSchema
