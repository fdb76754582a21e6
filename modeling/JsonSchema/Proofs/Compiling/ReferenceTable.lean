import JsonSchema.Proofs.Checking.Frames
import JsonSchema.Proofs.Compiling.Replaying

set_option autoImplicit false

/-! The table of references. A run takes one slot for each reference that has none, and when it is over
the slot holds the rule of what the reference stands for; until then it is empty, and it is entered
only by its number. The main statement is `Validator.links_of_compile`: the table has a filled slot for
every number that occurs, one for each pair of a scope and a reference. -/

namespace JsonSchema

def Rule.Holds (whole inside : Rule) : Prop :=
  Relation.ReflTransGen (fun outer inner => inner ∈ outer.parts) whole inside

theorem Rule.Holds.eq_of_no_parts {whole inside : Rule} (leaf : whole.parts = [])
    (holds : whole.Holds inside) : inside = whole := by
  rcases holds.cases_head with same | ⟨part, isPart, _⟩
  · exact same.symm
  · rw [leaf] at isPart
    cases isPart

/-- A check comes only to rules inside its entry or inside one of the table. -/
theorem Frame.Visits.exists_holds {table : Array Rule} {start frame : Frame}
    (visits : Frame.Visits table start frame) :
    ∃ origin, (origin = start.rule ∨ origin ∈ table) ∧ origin.Holds frame.rule := by
  induction visits with
  | refl => exact ⟨start.rule, .inl rfl, .refl⟩
  | @tail caller callee _ calls ih =>
      obtain ⟨origin, known, holds⟩ := ih
      have below {general : List Check} {guarded : List (Kind × List Check)}
          {formats : List FormatCheck} {messages : Messages} {inside : Rule}
          (isChecks : caller.rule = .checks general guarded formats messages)
          (within : inside ∈ Rule.rulesInside general guarded) : origin.Holds inside := by
        refine holds.tail ?_
        rw [isChecks]
        exact within
      cases calls with
      | enter isSlot closed filled => exact ⟨_, .inr (Array.mem_of_getElem? filled), .refl⟩
      | same isChecks asked => exact ⟨origin, known, below isChecks (Rule.demands_within asked)⟩
      | inner isChecks asked => exact ⟨origin, known, below isChecks (Rule.demands_within asked).1⟩
      | branch isChecks asked isBranch =>
          exact ⟨origin, known, below isChecks (Rule.demands_within asked _ isBranch)⟩

namespace Compiler

variable {compiler : Compiler}

/-! ### The slots that a rule names -/

theorem Trace.exists_of_mem {compile : Json → Scope → Compiling Rule}
    {trace : List (SchemaNode × Rule)} {earlier later : Array Slot} {node : SchemaNode} {rule : Rule}
    (walked : Trace compile trace earlier later) (member : (node, rule) ∈ trace) :
    ∃ before after rest, compile node.schema node.scope before = .ok (rule, after) ∧
      Walks compile rest after later := by
  induction walked with
  | nil => cases member
  | cons ran more ih =>
      rcases List.mem_cons.mp member with first | inRest
      · cases first
        exact ⟨_, _, _, ran, more.walks⟩
      · exact ih inRest

/-- All slots that are named in the rule of a node are there after the run. -/
theorem slot_lt_of_holds {budget index : Nat} {schema : Json} {scope : Scope}
    {earlier later : Array Slot} {rule : Rule}
    (ran : compiler.compile budget schema scope earlier = .ok (rule, later))
    (holds : rule.Holds (.slot index)) : index < later.size := by
  induction budget generalizing schema scope earlier rule later with
  | zero => cases ran
  | succ budget ih =>
      cases schema with
      | object members =>
          cases named : members.lookup "$ref" with
          | some reference =>
              obtain ⟨own, slot, atOwn, _, _, rfl⟩ := slot_of_compile named ran (.refl later)
              cases holds.eq_of_no_parts rfl
              exact (Array.getElem?_eq_some_iff.mp atOwn).1
          | none =>
              obtain ⟨trace, walked, ⟨emitted, assembles⟩, _⟩ :=
                replays_compileNode named _ _ _ _ ran
              rcases holds.cases_head with same | ⟨part, isPart, inPart⟩
              · rw [assembles.isRule] at same
                cases same
              · rw [assembles.parts_perm.mem_iff] at isPart
                obtain ⟨⟨node, own⟩, inTrace, rfl⟩ := List.mem_map.mp isPart
                obtain ⟨before, after, rest, ranInside, walks⟩ := walked.exists_of_mem inTrace
                exact Nat.lt_of_lt_of_le (ih ranInside inPart) walks.keeps.1
      | _ =>
          cases ran
          cases holds.eq_of_no_parts rfl

/-! ### What slots are left with -/

/-- The slot that is taken during a walk is taken by the run at one of the nodes. -/
theorem Walks.exists_taking {budget index : Nat} {nodes : List SchemaNode} {earlier later : Array Slot}
    {slot : Slot} (walks : Walks (compiler.compile budget) nodes earlier later)
    (new : earlier.size ≤ index) (atIndex : later[index]? = some slot) :
    ∃ (before after : List SchemaNode) (inner : compiler.Run), inner.budget = budget ∧
      nodes = before ++ inner.node :: after ∧
      Walks (compiler.compile budget) before earlier inner.earlier ∧
      Walks (compiler.compile budget) after inner.later later ∧
      inner.earlier.size ≤ index ∧ inner.later[index]? = some slot := by
  induction walks with
  | nil =>
      have inRange := (Array.getElem?_eq_some_iff.mp atIndex).1
      omega
  | @cons node rest earlier middle later rule ran more ih =>
      by_cases taken : index < middle.size
      · let inner : compiler.Run := ⟨budget, node, earlier, rule, middle, ran⟩
        refine ⟨[], rest, inner, rfl, rfl, .nil, more, new, ?_⟩
        exact (more.keeps.2 index taken).symm.trans atIndex
      · obtain ⟨before, after, inner, isBudget, order, first, others, newInside, inside⟩ :=
          ih (by omega) atIndex
        refine ⟨node :: before, after, inner, isBudget, ?_, .cons ran first, others, newInside, inside⟩
        rw [order, List.cons_append]

namespace Run

variable {outer inner : compiler.Run}

inductive Binds (run : compiler.Run) (slot : Slot) : Rule → Prop where
  | missing (resolved : compiler.documents.resolve slot.node.schema slot.scope = .ok none) :
      Binds run slot .free
  | target {inner : compiler.Run} (within : run.Within inner)
      (resolved : compiler.documents.resolve slot.node.schema slot.scope =
        .ok (some (inner.node.schema, inner.node.scope))) : Binds run slot inner.rule

theorem Makes.binds {slot : Slot} {body : Rule} (makes : outer.Makes inner)
    (binds : inner.Binds slot body) : outer.Binds slot body := by
  cases binds with
  | missing resolved => exact .missing resolved
  | target within resolved => exact .target (.head makes within) resolved

private theorem binds_new {index : Nat} {slot : Slot} (run : compiler.Run) (new : run.earlier.size ≤ index)
    (atIndex : run.later[index]? = some slot) : ∃ body, slot.body = some body ∧ run.Binds slot body := by
  obtain ⟨budget, node, earlier, rule, later, ends⟩ := run
  induction budget generalizing node earlier rule later with
  | zero => cases ends
  | succ budget ih =>
      dsimp only at new atIndex
      have inRange := (Array.getElem?_eq_some_iff.mp atIndex).1
      have step : Step compiler (compiler.compile budget) node earlier later := step_of_ok ends
      cases step with
      | free => omega
      | known => omega
      | inside noReference reads walks =>
          obtain ⟨before, after, inner, rfl, order, first, rest, newInside, inside⟩ :=
            walks.exists_taking new atIndex
          obtain ⟨body, isBody, binds⟩ := ih _ _ _ _ inner.ends newInside inside
          exact ⟨body, isBody, Makes.binds (.inside rfl rfl noReference order first rest) binds⟩
      | @nothing members scope name _ named isNew resolved =>
          simp only [size_fill, Array.size_push] at inRange
          obtain rfl : index = earlier.size := by omega
          simp only [getElem?_fill, if_true, Array.getElem?_push, Option.map_some,
            Option.some.injEq] at atIndex
          subst atIndex
          exact ⟨.free, rfl, .missing ((resolve_key named).trans resolved)⟩
      | @target members scope targetScope name target _ inside body named isNew resolved ran =>
          let inner : compiler.Run := ⟨budget, ⟨target, targetScope⟩, _, body, inside, ran⟩
          have makes : Makes ⟨budget + 1, _, earlier, rule, _, ends⟩ inner :=
            .target rfl rfl named isNew resolved rfl rfl
          rw [getElem?_fill] at atIndex
          split at atIndex
          next isOwn =>
            subst isOwn
            rw [getElem?_entered (keeps_of_compile ran)] at atIndex
            cases atIndex
            exact ⟨body, rfl, .target (.single makes) ((resolve_key named).trans resolved)⟩
          next isOther =>
            have newInside : inner.earlier.size ≤ index := by
              simp [inner]
              omega
            obtain ⟨own, isOwn, binds⟩ := ih _ _ _ _ ran newInside atIndex
            exact ⟨own, isOwn, makes.binds binds⟩

theorem Makes.budget_lt (makes : outer.Makes inner) : inner.budget < outer.budget := by
  cases makes with
  | inside budget => omega
  | target budget => omega

theorem Within.budget_le (within : outer.Within inner) : inner.budget ≤ outer.budget := by
  induction within with
  | refl => exact Nat.le_refl _
  | tail _ makes ih => exact Nat.le_trans (Nat.le_of_lt makes.budget_lt) ih

theorem nodup_keys (run : compiler.Run) (alone : run.earlier = #[]) : (keys run.later).Nodup := by
  apply nodup_keys_of_compile run.ends
  rw [alone]
  exact List.nodup_nil

/-- A node that is compiled within a run is given its rule again in the table of the whole run. -/
theorem Within.again {larger : Nat} (within : outer.Within inner) (alone : outer.earlier = #[])
    (more : outer.budget ≤ larger) :
    compiler.compile larger inner.node.schema inner.node.scope outer.later =
      .ok (inner.rule, outer.later) :=
  compile_again inner.ends (Nat.le_trans within.budget_le more) (outer.nodup_keys alone)
    (within.covers (.refl outer.later))

theorem Within.slot_lt {index : Nat} (within : outer.Within inner)
    (holds : inner.rule.Holds (.slot index)) : index < outer.later.size := by
  have inRange := slot_lt_of_holds inner.ends holds
  obtain ⟨slot, atIndex, _⟩ := within.covers (.refl outer.later) index _
    (Array.getElem?_eq_getElem inRange)
  exact (Array.getElem?_eq_some_iff.mp atIndex).1

theorem Within.named {name : String} (within : outer.Within inner)
    (isReference : inner.node.schema.field? "$ref" = some (.string name)) :
    ∃ index, inner.rule = .slot index ∧
      (keys outer.later)[index]? = some (inner.node.scope, name) := by
  obtain ⟨members, isObject⟩ := Json.object_of_field isReference
  have ends := inner.ends
  rw [isObject] at ends isReference
  obtain ⟨index, slot, atIndex, sameScope, isText, isSlot⟩ :=
    slot_of_compile isReference ends (within.covers (.refl outer.later))
  cases isText
  refine ⟨index, isSlot, ?_⟩
  simp [keys, atIndex, sameScope]

/-- The table of a whole run: its slots are all filled, no two are for one reference, every number that
occurs in a rule is that of a slot, and each slot has the rule of what its reference stands for. -/
structure Links (whole : compiler.Run) (table : Array Rule) : Prop where
  filled : whole.later.map Slot.body = table.map some
  distinct : (keys whole.later).Nodup
  inRange : ∀ rule, rule = whole.rule ∨ rule ∈ table → ∀ index, rule.Holds (.slot index) →
    index < table.size
  entered : ∀ value frame, Frame.Visits table (.start whole.rule value) frame → ∀ index,
    frame.rule = .slot index → ∃ body, table[index]? = some body
  named : ∀ run, whole.Within run → ∀ name, run.node.schema.field? "$ref" = some (.string name) →
    ∃ index, run.rule = .slot index ∧ (keys whole.later)[index]? = some (run.node.scope, name)
  shared : ∀ first second, whole.Within first → whole.Within second →
    first.node.scope = second.node.scope → ∀ name,
    first.node.schema.field? "$ref" = some (.string name) →
    second.node.schema.field? "$ref" = some (.string name) → first.rule = second.rule
  bound : ∀ (index : Nat) (slot : Slot) (body : Rule), whole.later[index]? = some slot →
    table[index]? = some body → whole.Binds slot body
  again : ∀ run, whole.Within run →
    compiler.compile whole.budget run.node.schema run.node.scope whole.later =
      .ok (run.rule, whole.later)

theorem links (whole : compiler.Run) (alone : whole.earlier = #[]) :
    whole.Links (Interpreter.bodies whole.later) := by
  have binds (index : Nat) (slot : Slot) (atIndex : whole.later[index]? = some slot) :
      ∃ body, slot.body = some body ∧ whole.Binds slot body := by
    refine whole.binds_new ?_ atIndex
    rw [alone]
    exact Nat.zero_le index
  have bound (index : Nat) (slot : Slot) (body : Rule) (atIndex : whole.later[index]? = some slot)
      (atTable : (Interpreter.bodies whole.later)[index]? = some body) : whole.Binds slot body := by
    obtain ⟨own, isOwn, bindsOwn⟩ := binds index slot atIndex
    rw [Interpreter.getElem?_bodies atIndex isOwn] at atTable
    cases atTable
    exact bindsOwn
  have inRange (rule : Rule) (known : rule = whole.rule ∨ rule ∈ Interpreter.bodies whole.later)
      (index : Nat) (holds : rule.Holds (.slot index)) :
      index < (Interpreter.bodies whole.later).size := by
    rw [Interpreter.bodies, Array.size_map]
    rcases known with rfl | inTable
    · exact Within.slot_lt .refl holds
    · obtain ⟨slot, isSlot, rfl⟩ := Array.mem_map.mp inTable
      obtain ⟨place, atPlace⟩ := Array.mem_iff_getElem?.mp isSlot
      obtain ⟨body, isBody, bindsBody⟩ := binds place slot atPlace
      rw [isBody, Option.getD_some] at holds
      cases bindsBody with
      | missing => cases holds.eq_of_no_parts rfl
      | target within => exact within.slot_lt holds
  have distinct : (keys whole.later).Nodup := whole.nodup_keys alone
  constructor
  case filled =>
    apply Array.ext_getElem?
    intro index
    simp only [Interpreter.bodies, Array.getElem?_map, Option.map_map]
    cases atIndex : whole.later[index]? with
    | none => rfl
    | some slot =>
        obtain ⟨body, isBody, _⟩ := binds index slot atIndex
        simp [isBody]
  case distinct => exact distinct
  case inRange => exact inRange
  case entered =>
    intro value frame visits index isSlot
    obtain ⟨origin, known, holds⟩ := visits.exists_holds
    rw [isSlot] at holds
    exact ⟨_, Array.getElem?_eq_getElem (inRange origin known index holds)⟩
  case named => exact fun run within name isReference => within.named isReference
  case shared =>
    intro first second withinFirst withinSecond sameScope name atFirst atSecond
    obtain ⟨index, isSlot, atIndex⟩ := withinFirst.named atFirst
    obtain ⟨other, isOther, atOther⟩ := withinSecond.named atSecond
    have inKeys := (List.getElem?_eq_some_iff.mp atIndex).1
    have same : index = other := by
      apply (List.getElem?_inj inKeys distinct).mp
      rw [atIndex, atOther, sameScope]
    rw [isSlot, isOther, same]
  case bound => exact bound
  case again => exact fun run within => within.again alone (Nat.le_refl _)

end Run

end Compiler

namespace Validator

/-- Compiling a schema leaves a table in which the references are linked to what they stand for. -/
theorem links_of_compile {schema : Json} {options : Options} {validator : Validator}
    (compiled : compile schema options = .ok validator) :
    ∃ whole : Compiler.Run
        ⟨⟨schema, options.schemas, options.missingRefAllowed⟩, options.registry, options.formats⟩,
      whole.node = ⟨schema, .main⟩ ∧ whole.earlier = #[] ∧ whole.rule = validator.entry ∧
        whole.Links validator.checker.table := by
  obtain ⟨_, ran, _, _⟩ := compile_eq_ok compiled
  obtain ⟨slots, isTable, ends⟩ := Compiler.compiled_of_run ran
  refine ⟨⟨_, ⟨schema, .main⟩, #[], validator.entry, slots, ends⟩, rfl, rfl, rfl, ?_⟩
  rw [isTable]
  exact Compiler.Run.links _ rfl

def listSchema : Json :=
  .object
    [("properties", .object
      [("head", .object [("$ref", .string "#/definitions/head")]),
        ("rest", .object [("$ref", .string "#")])]),
      ("definitions", .object [("head", .object [("$ref", .string "#/definitions/head")])])]

theorem links_of_compile_list :
    ∃ validator, compile listSchema .default = .ok validator ∧ validator.checker.table.size = 2 ∧
      ∃ whole : Compiler.Run ⟨⟨listSchema, [], false⟩, .standard, []⟩,
        whole.node = ⟨listSchema, .main⟩ ∧ whole.earlier = #[] ∧ whole.rule = validator.entry ∧
          whole.Links validator.checker.table := by
  have counted : (compile listSchema .default).toOption.map (·.checker.table.size) = some 2 := by
    decide +kernel
  cases compiled : compile listSchema .default with
  | error stop =>
      rw [compiled] at counted
      cases counted
  | ok validator =>
      rw [compiled] at counted
      exact ⟨validator, rfl, Option.some.inj counted, links_of_compile compiled⟩

end Validator

end JsonSchema
