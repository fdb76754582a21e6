import JsonSchema.Proofs.Compiling.Grouping
import JsonSchema.Proofs.Compiling.Leading

set_option autoImplicit false

/-! What nodes are compiled to. The checks of a node are grouped as the interpreter groups what it asks,
a reference takes one slot and fills it, and so the rule of a node represents the node. The main
statement is `Compiler.represents_of_run`. -/

namespace JsonSchema

namespace Compiler

section Reference

variable {compiler : Compiler} {compile : Json → Scope → Compiling Rule} {schema : Json}
  {scope : Scope} {name : String} {slots : Array Slot}

theorem compileReference_found {index : Nat}
    (found : slots.findIdx? (fun slot => slot.scope = scope ∧ slot.reference = name) = some index) :
    compiler.compileReference compile schema (.string name) scope slots =
      .ok (.slot index, slots) := by
  simp only [compileReference]
  rw [Compiling.bind_ok rfl]
  rw [found]
  rfl

def fill (slots : Array Slot) (index : Nat) (body : Rule) : Array Slot :=
  slots.modify index fun entry => { entry with body := some body }

theorem compileReference_new
    (notFound : slots.findIdx? (fun slot => slot.scope = scope ∧ slot.reference = name) = none) :
    compiler.compileReference compile schema (.string name) scope slots =
      match compiler.documents.resolve schema scope with
      | .error error => .error (.setup (.resolve error))
      | .ok none => .ok (.slot slots.size, fill (slots.push ⟨scope, name, none⟩) slots.size .free)
      | .ok (some (target, targetScope)) =>
          match compile target targetScope (slots.push ⟨scope, name, none⟩) with
          | .error stop => .error stop
          | .ok (body, inside) => .ok (.slot slots.size, fill inside slots.size body) := by
  simp only [compileReference]
  rw [Compiling.bind_ok rfl]
  rw [notFound]
  cases compiler.documents.resolve schema scope with
  | error error => rfl
  | ok target =>
      cases target with
      | none => rfl
      | some target =>
          obtain ⟨target, targetScope⟩ := target
          change (compile target targetScope >>= fun body => do
            modify fun entered => fill entered slots.size body
            return Rule.slot slots.size) (slots.push ⟨scope, name, none⟩) = _
          cases ran : compile target targetScope (slots.push ⟨scope, name, none⟩) with
          | error stop =>
              rw [Compiling.bind_error ran]
              dsimp only
              rw [ran]
          | ok result =>
              rw [Compiling.bind_ok ran]
              dsimp only
              rw [ran]
              rfl

end Reference

/-! ### The slot of a reference -/

@[simp] theorem size_fill (slots : Array Slot) (index : Nat) (body : Rule) :
    (fill slots index body).size = slots.size := Array.size_modify

@[simp] theorem getElem?_fill (slots : Array Slot) (index other : Nat) (body : Rule) :
    (fill slots index body)[other]? =
      if index = other then slots[other]?.map fun entry => { entry with body := some body }
      else slots[other]? := Array.getElem?_modify

/-- A new slot, in a table that was entered with it and is left with it filled. -/
theorem keeps_fill {earlier inside : Array Slot} {slot : Slot} {body : Rule}
    (keeps : Keeps (earlier.push slot) inside) :
    Keeps earlier (fill inside earlier.size body) := by
  obtain ⟨larger, same⟩ := keeps
  rw [Array.size_push] at larger same
  refine ⟨by simp; omega, ?_⟩
  intro index inEarlier
  have notLast : ¬index = earlier.size := by omega
  simp [Ne.symm notLast, notLast, same index (by omega), Array.getElem?_push]

theorem covers_of_fill {final inside : Array Slot} {index : Nat} {body : Rule}
    (covers : Covers final (fill inside index body)) : Covers final inside := by
  intro other slot atOther
  by_cases equal : index = other
  · have atFilled : (fill inside index body)[other]? = some { slot with body := some body } := by
      simp [equal, atOther]
    obtain ⟨last, atLast, sameScope, sameReference⟩ := covers other _ atFilled
    exact ⟨last, atLast, sameScope, sameReference⟩
  · have atFilled : (fill inside index body)[other]? = some slot := by
      simp [equal, atOther]
    exact covers other slot atFilled

theorem getElem?_entered {earlier inside : Array Slot} {slot : Slot}
    (keeps : Keeps (earlier.push slot) inside) : inside[earlier.size]? = some slot := by
  rw [keeps.2 _ (by rw [Array.size_push]; omega), Array.getElem?_push, if_pos rfl]

private theorem filledFrom_fill {interpreter : Interpreter} {final earlier inside : Array Slot}
    {slot : Slot} {body : Rule} (keeps : Keeps (earlier.push slot) inside)
    (filled : FilledFrom interpreter final (earlier.push slot).size inside)
    (fits : interpreter.Fits final slot body) :
    FilledFrom interpreter final earlier.size (fill inside earlier.size body) := by
  intro index entry behind atIndex
  rw [getElem?_fill] at atIndex
  rw [Array.size_push] at filled
  split at atIndex
  next isNew =>
    subst isNew
    rw [getElem?_entered keeps] at atIndex
    obtain rfl := Option.some.inj atIndex
    exact ⟨body, rfl, fits⟩
  next isOther => exact filled index entry (by omega) atIndex

private theorem leave_slot {interpreter : Interpreter} {final earlier inside : Array Slot} {slot : Slot}
    {body : Rule} (keeps : Keeps (earlier.push slot) inside)
    (atEnd : Covers final inside → interpreter.Fits final slot body ∧
      FilledFrom interpreter final (earlier.push slot).size inside) :
    Keeps earlier (fill inside earlier.size body) ∧
      (Covers final (fill inside earlier.size body) →
        (∃ other, final[earlier.size]? = some other ∧ other.scope = slot.scope ∧
          other.reference = slot.reference) ∧
        FilledFrom interpreter final earlier.size (fill inside earlier.size body)) := by
  refine ⟨keeps_fill keeps, fun covers => ?_⟩
  have coversInside := covers_of_fill covers
  obtain ⟨fits, filled⟩ := atEnd coversInside
  exact ⟨coversInside _ _ (getElem?_entered keeps), filledFrom_fill keeps filled fits⟩

section Reference

variable {compiler : Compiler} {final : Array Slot} {depth : Nat}
  {compile : Json → Scope → Compiling Rule} {members : List (String × Json)} {scope : Scope}

/-- A new slot for a reference is left with a rule that fits it. -/
theorem yields_newSlot {name : String}
    (inside : ∀ schema scope, Yields compiler.interpreter final (compile schema scope)
      (compiler.interpreter.Represents final depth ⟨schema, scope⟩))
    (atReference : members.lookup "$ref" = some (.string name)) {earlier later : Array Slot}
    {rule : Rule}
    (notFound : earlier.findIdx? (fun slot => slot.scope = scope ∧ slot.reference = name) = none)
    (ran : compiler.compileReference compile (.object members) (.string name) scope earlier =
      .ok (rule, later)) :
    rule = .slot earlier.size ∧ Keeps earlier later ∧
      (Covers final later →
        (∃ other, final[earlier.size]? = some other ∧ other.scope = scope ∧
          other.reference = name) ∧
        FilledFrom compiler.interpreter final earlier.size later) := by
  have atNode : (Json.object members).field? "$ref" = some (.string name) := atReference
  have resolves := compiler.documents.resolve_congr atNode (Slot.field?_node ⟨scope, name, none⟩)
    scope
  rw [compileReference_new notFound, resolves] at ran
  cases resolved : compiler.documents.resolve (Slot.node ⟨scope, name, none⟩).schema scope with
  | error error =>
      rw [resolved] at ran
      cases ran
  | ok target =>
      rw [resolved] at ran
      cases target with
      | none =>
          cases ran
          refine ⟨rfl, leave_slot (.refl _) fun _ => ⟨?_, filledFrom_size _⟩⟩
          unfold Interpreter.Fits interpreter
          dsimp only
          rw [resolved]
      | some target =>
          obtain ⟨target, targetScope⟩ := target
          dsimp only at ran
          cases ranInside : compile target targetScope (earlier.push ⟨scope, name, none⟩) with
          | error stop =>
              rw [ranInside] at ran
              cases ran
          | ok result =>
              obtain ⟨body, middle⟩ := result
              rw [ranInside] at ran
              cases ran
              obtain ⟨keeps, atEnd⟩ := inside _ _ _ _ _ ranInside
              refine ⟨rfl, leave_slot keeps fun covers => ?_⟩
              obtain ⟨represents, filled⟩ := atEnd covers
              refine ⟨?_, filled⟩
              unfold Interpreter.Fits
              dsimp only [interpreter] at represents ⊢
              rw [resolved]
              exact ⟨depth, represents⟩

/-- A reference yields the slot that it names; if it takes a new one, the slot gets filled. -/
theorem yields_compileReference {reference : Json}
    (inside : ∀ schema scope, Yields compiler.interpreter final (compile schema scope)
      (compiler.interpreter.Represents final depth ⟨schema, scope⟩))
    (atReference : members.lookup "$ref" = some reference) :
    Yields compiler.interpreter final
      (compiler.compileReference compile (.object members) reference scope)
      fun rule => ∃ (index : Nat) (slot : Slot), final[index]? = some slot ∧
        slot.scope = scope ∧ reference = .string slot.reference ∧ rule = .slot index := by
  cases reference with
  | string name =>
      intro earlier rule later ran
      cases found : earlier.findIdx? fun slot => slot.scope = scope ∧ slot.reference = name with
      | some index =>
          rw [compileReference_found found] at ran
          cases ran
          refine ⟨.refl earlier, fun covers => ⟨?_, filledFrom_size earlier⟩⟩
          obtain ⟨inRange, named, _⟩ := Array.findIdx?_eq_some_iff_getElem.mp found
          obtain ⟨sameScope, sameReference⟩ := of_decide_eq_true named
          obtain ⟨other, atIndex, otherScope, otherReference⟩ :=
            covers index earlier[index] (Array.getElem?_eq_getElem inRange)
          refine ⟨index, other, atIndex, otherScope.trans sameScope, ?_, rfl⟩
          rw [otherReference, sameReference]
      | none =>
          obtain ⟨rfl, keeps, atEnd⟩ := yields_newSlot inside atReference found ran
          refine ⟨keeps, fun covers => ?_⟩
          obtain ⟨⟨other, atIndex, otherScope, rfl⟩, filled⟩ := atEnd covers
          exact ⟨⟨earlier.size, other, atIndex, otherScope, rfl, rfl⟩, filled⟩
  | _ => exact .throw

end Reference

/-! ### The keywords of a node -/

section Node

variable {compiler : Compiler} {final : Array Slot} {Same : SchemaNode → Rule → Prop}
  {compile : Json → Scope → Compiling Rule} {members : List (String × Json)} {scope : Scope}

private theorem yields_compileKeywords
    (inside : ∀ schema scope,
      Yields compiler.interpreter final (compile schema scope) (Same ⟨schema, scope⟩))
    (keywords : List Keyword) :
    Yields compiler.interpreter final (compiler.compileKeywords compile members scope keywords)
      (List.Forall₂ (Emits Same (.ofMembers members))
        (compiler.interpreter.asks members scope keywords)) := by
  induction keywords with
  | nil => exact .pure .nil
  | cons keyword rest ih =>
      unfold compileKeywords
      cases found : members.lookup keyword.name with
      | none =>
          have dropped : compiler.interpreter.asks members scope (keyword :: rest) =
              compiler.interpreter.asks members scope rest := by
            rw [Interpreter.asks, List.filterMap_cons, found]
            rfl
          simp only [pure_bind]
          rw [dropped]
          exact ih.map fun more others => others
      | some value =>
          dsimp only
          refine (yields_compileKeyword inside keyword value).bind fun check => ?_
          refine ih.map ?_
          intro more others answers
          rw [Interpreter.asks, List.filterMap_cons, found, Option.bind_some]
          revert answers
          generalize compiler.interpreter.ask? members scope keyword value = ask
          intro answers
          cases answers with
          | none => exact others
          | some answers => exact .cons ⟨rfl, answers⟩ others

private theorem allAlike_ownFormats (value : Json) :
    Demand.AllAlike Same (compiler.interpreter.askFormat members value)
      ((compiler.ownFormats members).flatMap fun format =>
        Demand.failIf (!format.accepts value) .format
          ((Messages.ofMembers members).find? .format none)) := by
  unfold Interpreter.askFormat ownFormats
  cases (members.lookup "format").bind Json.string? with
  | none => exact .nil
  | some name =>
      dsimp only
      rw [List.flatMap_map]
      apply forall₂_flatMap_self
      intro format
      rw [FormatCheck.accepts_ofFormat]
      exact Demand.corresponds_failIf

end Node

/-- What a node is compiled to represents it, if what the nodes inside are compiled to does. -/
theorem yields_compileNode {compiler : Compiler} {final : Array Slot} {depth : Nat}
    {compile : Json → Scope → Compiling Rule}
    (inside : ∀ schema scope, Yields compiler.interpreter final (compile schema scope)
      (compiler.interpreter.Represents final depth ⟨schema, scope⟩))
    (schema : Json) (scope : Scope) :
    Yields compiler.interpreter final (compiler.compileNode compile schema scope)
      (compiler.interpreter.Represents final (depth + 1) ⟨schema, scope⟩) := by
  cases schema with
  | object members =>
      unfold compileNode
      dsimp only
      cases atReference : members.lookup "$ref" with
      | some reference =>
          refine (yields_compileReference inside atReference).imp ?_
          intro rule named
          rw [Interpreter.Represents]
          dsimp only
          rwa [atReference]
      | none =>
          refine (yields_compileKeywords inside _).map ?_
          intro emitted emits
          rw [Interpreter.Represents]
          dsimp only
          rw [atReference]
          refine ⟨_, _, _, _, rfl, fun value => ?_⟩
          rw [keywordsOf_eq] at emits
          exact List.rel_append (allAlike_grouped emits value) (allAlike_ownFormats value)
  | _ =>
      refine .pure ?_
      rw [Interpreter.Represents]

theorem yields_compile (compiler : Compiler) (final : Array Slot) (budget : Nat) (schema : Json)
    (scope : Scope) :
    Yields compiler.interpreter final (compiler.compile budget schema scope)
      (compiler.interpreter.Represents final budget ⟨schema, scope⟩) := by
  induction budget generalizing schema scope with
  | zero => exact .throw
  | succ budget ih => exact yields_compileNode ih schema scope

theorem compiled_of_run {compiler : Compiler} {entry : Rule} {table : Array Rule}
    (ran : compiler.run = .ok (entry, table)) :
    ∃ slots : Array Slot, table = Interpreter.bodies slots ∧
      compiler.compile compiler.budget compiler.documents.main .main #[] = .ok (entry, slots) := by
  unfold run at ran
  cases compiled : compiler.compile compiler.budget compiler.documents.main .main #[] with
  | error stop =>
      rw [StateT.run, compiled] at ran
      cases ran
  | ok result =>
      obtain ⟨rule, slots⟩ := result
      rw [StateT.run, compiled] at ran
      cases ran
      exact ⟨slots, rfl, rfl⟩

/-- A run from no slots leaves all slots filled, with a rule for its node. -/
theorem represents_of_compile {compiler : Compiler} {budget : Nat} {schema : Json} {scope : Scope}
    {rule : Rule} {slots : Array Slot}
    (compiled : compiler.compile budget schema scope #[] = .ok (rule, slots)) :
    compiler.interpreter.Filled slots ∧
      compiler.interpreter.Represents slots budget ⟨schema, scope⟩ rule := by
  obtain ⟨_, atEnd⟩ := yields_compile compiler slots _ _ _ _ _ _ compiled
  obtain ⟨represents, filled⟩ := atEnd (.refl slots)
  exact ⟨fun index slot atIndex => filled index slot (Nat.zero_le index) atIndex, represents⟩

/-- A whole run ends in a table whose slots are all filled, with a rule for the main schema. -/
theorem represents_of_run {compiler : Compiler} {entry : Rule} {table : Array Rule}
    (ran : compiler.run = .ok (entry, table)) :
    ∃ slots : Array Slot, table = Interpreter.bodies slots ∧ compiler.interpreter.Filled slots ∧
      ∃ depth, compiler.interpreter.Represents slots depth ⟨compiler.documents.main, .main⟩ entry := by
  obtain ⟨slots, sameTable, compiled⟩ := compiled_of_run ran
  obtain ⟨filled, represents⟩ := represents_of_compile compiled
  exact ⟨slots, sameTable, filled, compiler.budget, represents⟩

end Compiler

end JsonSchema
