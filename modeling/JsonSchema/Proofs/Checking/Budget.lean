import Mathlib.Data.Finset.Range
import JsonSchema.Proofs.Checking.Log

set_option autoImplicit false

/-! The budget of the checker is never too small. Between two slots the rules only nest; at one place of
a value every slot is entered at most once; and a step into a part of the value leads to a value of
smaller depth. The need of a rule adds these three up, and each demand of a rule needs less. The main
statements are `Findings.ofRule_isSome` and `Checker.errors_eq_findings`. -/

namespace JsonSchema

/-! ### Heights and depths of parts -/

theorem Rule.height_le_heights {rule : Rule} {rules : List Rule} (member : rule ∈ rules) :
    rule.height ≤ Rule.heights rules :=
  measure_le_total Nat.le_max_left Nat.le_max_right Rule.height (fun _ _ => Rule.heights.eq_2 _ _) member

theorem Rule.height_le_declaredHeight {name : String} {rule : Rule}
    {declared : List (String × Rule)} (member : (name, rule) ∈ declared) :
    rule.height ≤ Rule.declaredHeight declared :=
  measure_le_total Nat.le_max_left Nat.le_max_right (fun entry => entry.2.height)
    (fun _ _ => Rule.declaredHeight.eq_2 _ _ _) member

theorem Rule.height_le_patternsHeight {regex : Regex} {rule : Rule}
    {patterns : List (Regex × Rule)} (member : (regex, rule) ∈ patterns) :
    rule.height ≤ Rule.patternsHeight patterns :=
  measure_le_total Nat.le_max_left Nat.le_max_right (fun entry => entry.2.height)
    (fun _ _ => Rule.patternsHeight.eq_2 _ _ _) member

theorem Dependency.height_le_heights {name : String} {dependency : Dependency}
    {entries : List (String × Dependency)} (member : (name, dependency) ∈ entries) :
    dependency.height ≤ Dependency.heights entries :=
  measure_le_total Nat.le_max_left Nat.le_max_right (fun entry => entry.2.height)
    (fun _ _ => Dependency.heights.eq_2 _ _ _) member

theorem Check.height_le_heights {check : Check} {checks : List Check} (member : check ∈ checks) :
    check.height ≤ Check.heights checks :=
  measure_le_total Nat.le_max_left Nat.le_max_right Check.height (fun _ _ => Check.heights.eq_2 _ _) member

theorem Check.heights_le_guardedHeight {kind : Kind} {checks : List Check}
    {guarded : List (Kind × List Check)} (member : (kind, checks) ∈ guarded) :
    Check.heights checks ≤ Check.guardedHeight guarded :=
  measure_le_total Nat.le_max_left Nat.le_max_right (fun entry => Check.heights entry.2)
    (fun _ _ => Check.guardedHeight.eq_2 _ _ _) member

/-! ### Heights of the rules inside -/

theorem Check.height_of_rulesInside {check : Check} {rule : Rule}
    (inside : rule ∈ check.rulesInside) : rule.height ≤ check.height := by
  cases check with
  | items each =>
      rw [List.mem_singleton.mp inside]
      exact Nat.le_refl _
  | tuple declared additional =>
      rcases List.mem_append.mp inside with atPosition | isAdditional
      · exact Nat.le_trans (Rule.height_le_heights atPosition) (Nat.le_max_left _ _)
      · rw [Option.mem_toList.mp isAdditional]
        exact Nat.le_max_right _ _
  | properties declared =>
      obtain ⟨⟨name, rule⟩, isDeclared, rfl⟩ := List.mem_map.mp inside
      exact Rule.height_le_declaredHeight isDeclared
  | members declared patterns additional =>
      rcases List.mem_append.mp inside with named | other
      · rcases List.mem_append.mp named with atDeclared | atPattern
        · obtain ⟨⟨name, rule⟩, isDeclared, rfl⟩ := List.mem_map.mp atDeclared
          exact Nat.le_trans (Rule.height_le_declaredHeight isDeclared) (Nat.le_max_left _ _)
        · obtain ⟨⟨regex, rule⟩, isPattern, rfl⟩ := List.mem_map.mp atPattern
          exact Nat.le_trans (Rule.height_le_patternsHeight isPattern)
            (Nat.le_trans (Nat.le_max_left _ _) (Nat.le_max_right _ _))
      · cases additional with
        | rule rule =>
            rw [List.mem_singleton.mp other]
            exact Nat.le_trans (Nat.le_max_right _ _) (Nat.le_max_right _ _)
        | _ => cases other
  | dependencies entries =>
      obtain ⟨⟨name, dependency⟩, isEntry, ofEntry⟩ := List.mem_flatMap.mp inside
      have bound := Dependency.height_le_heights isEntry
      cases dependency with
      | rule whole =>
          rw [List.mem_singleton.mp ofEntry]
          exact bound
      | names names => cases ofEntry
  | allOf branches => exact Rule.height_le_heights inside
  | anyOf branches => exact Rule.height_le_heights inside
  | oneOf branches => exact Rule.height_le_heights inside
  | not rule =>
      rw [List.mem_singleton.mp inside]
      exact Nat.le_refl _
  | _ => cases inside

theorem Rule.height_of_rulesInside {general : List Check} {guarded : List (Kind × List Check)}
    {rule : Rule} (inside : rule ∈ Rule.rulesInside general guarded) :
    rule.height ≤ max (Check.heights general) (Check.guardedHeight guarded) := by
  obtain ⟨check, isCheck, within⟩ := List.mem_flatMap.mp inside
  apply Nat.le_trans (Check.height_of_rulesInside within)
  rcases List.mem_append.mp isCheck with atGeneral | atGuarded
  · exact Nat.le_trans (Check.height_le_heights atGeneral) (Nat.le_max_left _ _)
  · obtain ⟨⟨kind, group⟩, isGroup, inGroup⟩ := List.mem_flatMap.mp atGuarded
    exact Nat.le_trans
      (Nat.le_trans (Check.height_le_heights inGroup) (Check.heights_le_guardedHeight isGroup))
      (Nat.le_max_right _ _)

/-! ### The need of a rule -/

def slotsLeft (table : Array Rule) (here : List Nat) : Nat := leftOf (Finset.range table.size) here

private theorem slotsLeft_le (table : Array Rule) (here : List Nat) :
    slotsLeft table here ≤ table.size := by
  have bound := leftOf_le (Finset.range table.size) here
  rwa [Finset.card_range] at bound

private theorem slotsLeft_enter {table : Array Rule} {here : List Nat} {slot : Nat} {body : Rule}
    (filled : table[slot]? = some body) (notOpen : slot ∉ here) :
    slotsLeft table (slot :: here) < slotsLeft table here := by
  obtain ⟨inRange, _⟩ := Array.getElem?_eq_some_iff.mp filled
  exact leftOf_cons_lt (Finset.mem_range.mpr inRange) notOpen

/-- How large a budget a rule needs at a value when no rule is higher than `highest`: a whole table of
slots for every level of the value below, the slots left at this one, and the rule itself. -/
def budgetNeed (table : Array Rule) (highest : Nat) (here : List Nat) (rule : Rule)
    (value : Json) : Nat :=
  value.depth * ((table.size + 1) * (highest + 1)) + slotsLeft table here * (highest + 1) +
    rule.height + 1

theorem budgetNeed_same {table : Array Rule} {highest budget height : Nat} {here : List Nat}
    {rule inside : Rule} {value : Json} (higher : rule.height = height + 1)
    (bound : inside.height ≤ height)
    (enough : budgetNeed table highest here rule value ≤ budget + 1) :
    budgetNeed table highest here inside value ≤ budget := by
  unfold budgetNeed at enough ⊢
  omega

theorem budgetNeed_enter {table : Array Rule} {highest budget slot : Nat} {here : List Nat}
    {body : Rule} {value : Json} (filled : table[slot]? = some body) (notOpen : slot ∉ here)
    (bound : body.height ≤ highest)
    (enough : budgetNeed table highest here (.slot slot) value ≤ budget + 1) :
    budgetNeed table highest (slot :: here) body value ≤ budget := by
  have fewer : (slotsLeft table (slot :: here) + 1) * (highest + 1) ≤
      slotsLeft table here * (highest + 1) :=
    Nat.mul_le_mul_right _ (slotsLeft_enter filled notOpen)
  rw [Nat.succ_mul] at fewer
  unfold budgetNeed at enough ⊢
  omega

theorem budgetNeed_inner {table : Array Rule} {highest budget : Nat} {here there : List Nat}
    {rule inside : Rule} {value part : Json} (inRange : inside.height ≤ highest)
    (deeper : part.depth < value.depth)
    (enough : budgetNeed table highest here rule value ≤ budget + 1) :
    budgetNeed table highest there inside part ≤ budget := by
  have levels : (part.depth + 1) * ((table.size + 1) * (highest + 1)) ≤
      value.depth * ((table.size + 1) * (highest + 1)) := Nat.mul_le_mul_right _ deeper
  have slots : slotsLeft table there * (highest + 1) ≤ table.size * (highest + 1) :=
    Nat.mul_le_mul_right _ (slotsLeft_le table there)
  rw [Nat.succ_mul, Nat.succ_mul table.size] at levels
  unfold budgetNeed at enough ⊢
  rw [Nat.succ_mul table.size] at enough ⊢
  omega

/-- A budget as large as the need of a rule is enough for it. -/
theorem Findings.ofRule_isSome {table : Array Rule} {highest : Nat}
    (bounded : ∀ (slot : Nat) (body : Rule), table[slot]? = some body → body.height ≤ highest)
    {budget : Nat} (tokens : List String) {here : List Nat} {rule : Rule} {value : Json}
    (inRange : rule.height ≤ highest)
    (enough : budgetNeed table highest here rule value ≤ budget) :
    (Findings.ofRule table budget tokens here rule value).isSome = true := by
  induction budget generalizing tokens here rule value with
  | zero =>
      unfold budgetNeed at enough
      omega
  | succ budget ih =>
      cases rule with
      | free => rfl
      | slot slot =>
          rw [Findings.ofRule]
          by_cases isOpen : slot ∈ here
          · rw [if_pos isOpen]
            rfl
          · rw [if_neg isOpen]
            cases entry : table[slot]? with
            | none => rfl
            | some body =>
                have inTable := bounded slot body entry
                exact ih tokens inTable (budgetNeed_enter entry isOpen inTable enough)
      | checks general guarded formats messages =>
          have higher : (Rule.checks general guarded formats messages).height =
              max (Check.heights general) (Check.guardedHeight guarded) + 1 := by
            rw [Rule.height]
          have lower {inside : Rule} (within : inside ∈ Rule.rulesInside general guarded) :
              inside.height ≤ highest :=
            Nat.le_trans (Rule.height_of_rulesInside within) (by omega)
          rw [Findings.ofRule, Demand.findingsOf]
          apply Findings.combine_isSome
          intro findings member
          obtain ⟨demand, isDemand, rfl⟩ := List.mem_map.mp member
          have within := Rule.demands_within isDemand
          cases demand with
          | failure keyword property message => rfl
          | same inside =>
              exact ih tokens (lower within)
                (budgetNeed_same higher (Rule.height_of_rulesInside within) enough)
          | inner token part inside =>
              exact ih (token :: tokens) (lower within.1)
                (budgetNeed_inner (lower within.1) within.2.depth_lt enough)
          | choice wanted message branches =>
              have counted : (Findings.tally (branches.map fun branch =>
                  Findings.ofRule table budget tokens here branch value)).isSome = true := by
                apply Findings.combine_isSome
                intro findings atBranch
                obtain ⟨branch, isBranch, rfl⟩ := List.mem_map.mp atBranch
                have inside := within branch isBranch
                exact ih tokens (lower inside)
                  (budgetNeed_same higher (Rule.height_of_rulesInside inside) enough)
              obtain ⟨count, counts⟩ := Option.isSome_iff_exists.mp counted
              rw [Demand.findings, counts]
              rfl

/-! ### The budget of a whole check -/

theorem Checker.height_le_height (checker : Checker) (entry : Rule) :
    entry.height ≤ checker.height entry ∧
      ∀ (slot : Nat) (body : Rule), checker.table[slot]? = some body →
        body.height ≤ checker.height entry := by
  have folded : ∀ (rules : List Rule) (height : Nat),
      height ≤ rules.foldl (fun height rule => max height rule.height) height ∧
        ∀ rule ∈ rules,
          rule.height ≤ rules.foldl (fun height rule => max height rule.height) height := by
    intro rules
    induction rules with
    | nil => intro height; simp
    | cons first rest ih =>
        intro height
        rw [List.foldl_cons]
        obtain ⟨least, others⟩ := ih (max height first.height)
        refine ⟨by omega, ?_⟩
        intro rule member
        rcases List.mem_cons.mp member with rfl | later
        · omega
        · exact others rule later
  rw [Checker.height, ← Array.foldl_toList]
  obtain ⟨least, others⟩ := folded checker.table.toList entry.height
  refine ⟨least, ?_⟩
  intro slot body filled
  apply others
  rw [← Array.getElem?_toList] at filled
  exact List.mem_of_getElem? filled

/-- The budget of a check is as large as the need of its entry. -/
theorem Checker.need_le_budget (checker : Checker) (entry : Rule) (value : Json) :
    budgetNeed checker.table (checker.height entry) [] entry value ≤ checker.budget entry value := by
  have atEntry := (checker.height_le_height entry).1
  have slots : slotsLeft checker.table [] * (checker.height entry + 1) ≤
      checker.table.size * (checker.height entry + 1) :=
    Nat.mul_le_mul_right _ (slotsLeft_le checker.table [])
  unfold budgetNeed Checker.budget
  rw [Nat.mul_assoc, Nat.succ_mul value.depth, Nat.succ_mul checker.table.size]
  omega

/-- The budget of a check is enough: what the entry finds in the value is known. -/
theorem Checker.findings_known (checker : Checker) (entry : Rule) (value : Json) :
    ∃ found, Findings.ofRule checker.table (checker.budget entry value) [] [] entry value =
      some found := by
  obtain ⟨atEntry, inTable⟩ := checker.height_le_height entry
  exact Option.isSome_iff_exists.mp
    (Findings.ofRule_isSome inTable [] atEntry (checker.need_le_budget entry value))

/-- A check comes to an end, with all errors that the entry finds or with the first of them. -/
theorem Checker.errors_eq_findings (checker : Checker) (entry : Rule) (value : Json) :
    ∃ found, Findings.ofRule checker.table (checker.budget entry value) [] [] entry value =
        some found ∧
      checker.errors entry value = .ok (if checker.greedy then found else found.take 1) := by
  obtain ⟨found, known⟩ := checker.findings_known entry value
  exact ⟨found, known, checker.errors_of_findings known⟩

end JsonSchema
