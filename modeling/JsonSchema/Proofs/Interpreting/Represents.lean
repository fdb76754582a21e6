import JsonSchema.Proofs.Interpreting.Alike
import JsonSchema.Proofs.Interpreting.Interpreter

set_option autoImplicit false

/-! Rules that stand for nodes of a schema. A rule represents a node in a table of slots when it makes
the demands that the interpreter makes at the node, and a slot is filled when its rule represents what
the reference of the slot stands for. The main statement is `Interpreter.agree_of_represents`: such a
rule finds what the interpreter finds. -/

namespace JsonSchema

def Slot.node (slot : Slot) : SchemaNode :=
  ⟨.object [("$ref", .string slot.reference)], slot.scope⟩

@[simp] theorem Slot.field?_node (slot : Slot) :
    slot.node.schema.field? "$ref" = some (.string slot.reference) := rfl

namespace Interpreter

/-- A rule stands for a node. The number bounds how deeply nodes nest; references are not followed. -/
def Represents (interpreter : Interpreter) (slots : Array Slot) : Nat → SchemaNode → Rule → Prop
  | 0, _, _ => False
  | depth + 1, node, rule =>
      match node.schema with
      | .object members =>
          match members.lookup "$ref" with
          | some reference =>
              ∃ (index : Nat) (slot : Slot), slots[index]? = some slot ∧
                slot.scope = node.scope ∧ reference = .string slot.reference ∧ rule = .slot index
          | none =>
              ∃ general guarded formats messages,
                rule = .checks general guarded formats messages ∧
                ∀ value, Demand.AllAlike (interpreter.Represents slots depth)
                  (interpreter.demands members node.scope value)
                  (Rule.demands general guarded formats messages value)
      | _ => rule = .free

/-- A rule stands for what a reference stands for. -/
def Fits (interpreter : Interpreter) (slots : Array Slot) (slot : Slot) (body : Rule) : Prop :=
  match interpreter.documents.resolve slot.node.schema slot.scope with
  | .ok (some (target, scope)) => ∃ depth, interpreter.Represents slots depth ⟨target, scope⟩ body
  | .ok none => body = .free
  | .error _ => False

def Filled (interpreter : Interpreter) (slots : Array Slot) : Prop :=
  ∀ (index : Nat) (slot : Slot), slots[index]? = some slot →
    ∃ body, slot.body = some body ∧ interpreter.Fits slots slot body

def bodies (slots : Array Slot) : Array Rule := slots.map fun slot => slot.body.getD .free

/-! ### Growth with the fuel -/

private theorem findings_succ (interpreter : Interpreter) {fuel : Nat} {tokens : List String}
    {node : SchemaNode} {value : Json} :
    KnownIn (interpreter.findings fuel tokens node value)
      (interpreter.findings (fuel + 1) tokens node value) := by
  induction fuel generalizing tokens node value with
  | zero =>
      intro errors known
      cases known
  | succ fuel ih =>
      rw [findings, findings]
      split
      next members _ =>
        split
        next =>
          split
          next => exact ih
          next => exact fun errors known => known
        next =>
          refine Demand.findingsOf_match compatible_knownIn ?_ ?_ (Demand.allAlike_refl _)
          · rintro inside _ rfl
            exact ih
          · rintro token part inside _ rfl
            exact ih
      next => exact fun errors known => known

private theorem findings_mono (interpreter : Interpreter) {fuel more : Nat} (bound : fuel ≤ more)
    {tokens : List String} {node : SchemaNode} {value : Json} :
    KnownIn (interpreter.findings fuel tokens node value)
      (interpreter.findings more tokens node value) := by
  induction bound with
  | refl => exact fun errors known => known
  | step _ ih => exact fun errors known => interpreter.findings_succ errors (ih errors known)

private theorem findings_none_of_le (interpreter : Interpreter) {fuel more : Nat} (bound : fuel ≤ more)
    {tokens : List String} {node : SchemaNode} {value : Json}
    (unknown : interpreter.findings more tokens node value = none) :
    interpreter.findings fuel tokens node value = none := by
  cases known : interpreter.findings fuel tokens node value with
  | none => rfl
  | some errors =>
      rw [interpreter.findings_mono bound errors known] at unknown
      cases unknown

private theorem exists_least_fuel (interpreter : Interpreter) {fuel : Nat} {tokens : List String}
    {node : SchemaNode} {value : Json} {errors : List ValidationError}
    (known : interpreter.findings fuel tokens node value = some errors) :
    ∃ least < fuel, interpreter.findings least tokens node value = none ∧
      interpreter.findings (least + 1) tokens node value = some errors := by
  induction fuel with
  | zero => cases known
  | succ fuel ih =>
      cases before : interpreter.findings fuel tokens node value with
      | none => exact ⟨fuel, Nat.lt_succ_self fuel, before, known⟩
      | some earlier =>
          have same := interpreter.findings_succ earlier before
          rw [known] at same
          obtain rfl := Option.some.inj same
          obtain ⟨least, bound, rest⟩ := ih before
          exact ⟨least, Nat.lt_succ_of_lt bound, rest⟩

end Interpreter

/-! ### References -/

/-- What a node with a reference stands for depends on nothing but the reference. -/
theorem Documents.resolve_congr (documents : Documents) {node other reference : Json}
    (atNode : node.field? "$ref" = some reference) (atOther : other.field? "$ref" = some reference)
    (scope : Scope) : documents.resolve node scope = documents.resolve other scope := by
  unfold resolve follow
  rw [atNode, atOther]
  cases reference <;> rfl

namespace Interpreter

private theorem findings_reference {interpreter : Interpreter} {fuel : Nat} {tokens : List String}
    {members : List (String × Json)} {scope : Scope} {value reference : Json}
    (atReference : members.lookup "$ref" = some reference) :
    interpreter.findings (fuel + 1) tokens ⟨.object members, scope⟩ value =
      match interpreter.documents.resolve (.object members) scope with
      | .ok (some (target, scope)) => interpreter.findings fuel tokens ⟨target, scope⟩ value
      | _ => some [] := by
  rw [findings]
  dsimp only
  split
  next => rfl
  next noReference =>
    rw [atReference] at noReference
    cases noReference

private theorem findings_members {interpreter : Interpreter} {fuel : Nat} {tokens : List String}
    {members : List (String × Json)} {scope : Scope} {value : Json}
    (noReference : members.lookup "$ref" = none) :
    interpreter.findings (fuel + 1) tokens ⟨.object members, scope⟩ value =
      Demand.findingsOf (fun inside => interpreter.findings fuel tokens inside value)
        (fun token part inside => interpreter.findings fuel (token :: tokens) inside part)
        tokens (interpreter.demands members scope value) := by
  rw [findings]
  dsimp only
  split
  next reference atReference =>
    rw [noReference] at atReference
    cases atReference
  next => rfl

private theorem findings_slot {interpreter : Interpreter} {fuel : Nat} {tokens : List String}
    {members : List (String × Json)} {value : Json} {slot : Slot}
    (atReference : members.lookup "$ref" = some (.string slot.reference)) :
    interpreter.findings fuel tokens ⟨.object members, slot.scope⟩ value =
      interpreter.findings fuel tokens slot.node value := by
  cases fuel with
  | zero => rfl
  | succ fuel =>
      have atNode : (Json.object members).field? "$ref" = some (.string slot.reference) :=
        atReference
      have same := interpreter.documents.resolve_congr atNode slot.field?_node slot.scope
      rw [Slot.node, findings_reference atReference, findings_reference slot.field?_node, same]
      rfl

/-! ### Agreement -/

section Agreement

variable {interpreter : Interpreter} {slots : Array Slot} {fuel depth budget : Nat}
  {tokens : List String} {here : List Nat} {value : Json} {errors found : List ValidationError}

theorem getElem?_bodies {index : Nat} {slot : Slot} {body : Rule} (atIndex : slots[index]? = some slot)
    (isFilled : slot.body = some body) : (bodies slots)[index]? = some body := by
  rw [bodies, Array.getElem?_map, atIndex, Option.map_some, isFilled]
  rfl

/-- What is found at a slot that is not open is found by its rule and, with less fuel, by the interpreter
at the node that the rule represents, unless the reference stands for nothing. -/
theorem target_of_slot (filled : interpreter.Filled slots) {index : Nat} {slot : Slot}
    (atIndex : slots[index]? = some slot) (notOpen : index ∉ here)
    (known : interpreter.findings fuel tokens slot.node value = some errors)
    (ruled : Findings.ofRule (bodies slots) (budget + 1) tokens here (.slot index) value =
      some found) :
    errors = found ∨ ∃ least < fuel, ∃ target targetDepth body,
      interpreter.findings least tokens slot.node value = none ∧
      interpreter.Represents slots targetDepth target body ∧
      interpreter.findings least tokens target value = some errors ∧
      Findings.ofRule (bodies slots) budget tokens (index :: here) body value = some found := by
  obtain ⟨least, bound, unknown, reached⟩ := interpreter.exists_least_fuel known
  obtain ⟨body, isFilled, fits⟩ := filled index slot atIndex
  rw [Findings.ofRule, if_neg notOpen, getElem?_bodies atIndex isFilled] at ruled
  rw [Slot.node, findings_reference slot.field?_node] at reached
  unfold Fits at fits
  cases resolved : interpreter.documents.resolve slot.node.schema slot.scope with
  | error error =>
      rw [resolved] at fits
      exact fits.elim
  | ok target =>
      rw [resolved] at fits
      rw [Slot.node] at resolved
      rw [resolved] at reached
      cases target with
      | none =>
          subst fits
          cases budget with
          | zero => cases ruled
          | succ budget => exact .inl (Option.some.inj (reached.symm.trans ruled))
      | some target =>
          obtain ⟨target, targetScope⟩ := target
          obtain ⟨targetDepth, represents⟩ := fits
          exact .inr ⟨least, bound, ⟨target, targetScope⟩, targetDepth, body, unknown, represents,
            reached, ruled⟩

/-- A rule that represents a node finds what the interpreter finds at the node, if this comes to an end.
The slots in `here` are open at this place; with the fuel at hand the interpreter gets nowhere with the
reference of any of these, so it does not meet one again. -/
theorem agree_of_represents (filled : interpreter.Filled slots) {node : SchemaNode} {rule : Rule}
    (represents : interpreter.Represents slots depth node rule)
    (closed : ∀ index ∈ here, ∀ slot, slots[index]? = some slot →
      interpreter.findings fuel tokens slot.node value = none) :
    Agree (interpreter.findings fuel tokens node value)
      (Findings.ofRule (bodies slots) budget tokens here rule value) := by
  induction fuel using Nat.strongRecOn
    generalizing depth budget tokens here node rule value with
  | _ fuel ih =>
      have closedBelow (least : Nat) (bound : least ≤ fuel) :
          ∀ index ∈ here, ∀ slot, slots[index]? = some slot →
            interpreter.findings least tokens slot.node value = none := by
        intro index isOpen slot atIndex
        exact interpreter.findings_none_of_le bound (closed index isOpen slot atIndex)
      intro errors found known ruled
      cases fuel with
      | zero => cases known
      | succ fuel =>
      cases budget with
      | zero => cases ruled
      | succ budget =>
      cases depth with
      | zero => exact represents.elim
      | succ depth =>
      obtain ⟨schema, scope⟩ := node
      cases schema with
      | object members =>
          rw [Represents] at represents
          dsimp only at represents
          cases atReference : members.lookup "$ref" with
          | some reference =>
              rw [atReference] at represents
              obtain ⟨index, slot, atIndex, rfl, rfl, rfl⟩ := represents
              rw [findings_slot atReference] at known
              by_cases isOpen : index ∈ here
              · rw [closed index isOpen slot atIndex] at known
                cases known
              · rcases target_of_slot filled atIndex isOpen known ruled with same | goesOn
                · exact same
                · obtain ⟨least, bound, target, _, body, unknown, stands, reached, runs⟩ := goesOn
                  refine ih least bound stands ?_ errors found reached runs
                  intro other isOpen otherSlot atOther
                  rcases List.mem_cons.mp isOpen with rfl | before
                  · obtain rfl := Option.some.inj (atIndex.symm.trans atOther)
                    exact unknown
                  · exact closedBelow least (Nat.le_of_lt bound) other before otherSlot atOther
          | none =>
              rw [atReference] at represents
              obtain ⟨general, guarded, formats, messages, rfl, alike⟩ := represents
              rw [findings_members atReference] at known
              rw [Findings.ofRule] at ruled
              refine Demand.findingsOf_match compatible_agree ?_ ?_ (alike value)
                errors found known ruled
              · intro inside rule same
                exact ih fuel (Nat.lt_succ_self fuel) same (closedBelow fuel (Nat.le_succ fuel))
              · intro token part inside rule same
                refine ih fuel (Nat.lt_succ_self fuel) same ?_
                intro index isOpen
                cases isOpen
      | _ =>
          rw [Represents] at represents
          dsimp only at represents
          subst represents
          exact Option.some.inj (known.symm.trans ruled)

end Agreement

end Interpreter

end JsonSchema
