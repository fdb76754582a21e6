import JsonSchema.Proofs.Checking.FailFast
import JsonSchema.Proofs.Compiling.Members
import JsonSchema.Proofs.Locations

set_option autoImplicit false

/-! Objects and the keywords about members. Going by the declared members or by those of the object comes to
the same demands in another order, so the one check of the three keywords finds what they say of each
member of the object. The main statement is `Validator.members_checked_as_unit`. -/

namespace JsonSchema

/-! ### Two ways through the members -/

namespace Demand

variable {Node Entry : Type}

/-- One demand at most for each entry, below its name: no demand is made twice. -/
theorem nodup_below {entries : List (String × Entry)} (distinct : (Entries.names entries).Nodup)
    (ask : String × Entry → Option (Json × Node)) :
    (entries.flatMap fun entry =>
      ((ask entry).map fun asked => inner entry.1 asked.1 asked.2).toList).Nodup := by
  rw [List.nodup_flatMap]
  constructor
  · intro entry _
    cases ask entry with
    | none => exact List.nodup_nil
    | some asked => exact List.nodup_singleton _
  · refine (List.pairwise_map.mp distinct).imp ?_
    intro entry other different demand inFirst inSecond
    obtain ⟨_, _, rfl⟩ := Option.map_eq_some_iff.mp (Option.mem_toList.mp inFirst)
    obtain ⟨_, _, same⟩ := Option.map_eq_some_iff.mp (Option.mem_toList.mp inSecond)
    exact different (inner.inj same).1.symm

/-- Looking the declared names up among the members, or the members up among the declared names. -/
theorem ofDeclared_perm {declared : List (String × Node)} {members : List (String × Json)}
    (distinct : (Entries.names declared).Nodup) (ofMembers : (Entries.names members).Nodup) :
    (ofDeclared declared members).Perm
      (Demand.ofMembers (fun name => (declared.lookup name).toList) (fun _ _ => []) members) := by
  have byDeclared : ofDeclared declared members = declared.flatMap fun entry =>
      (((members.lookup entry.1).map fun part => (part, entry.2)).map
        fun asked => inner entry.1 asked.1 asked.2).toList := by
    simp only [Option.map_map]
    rfl
  have byMembers : Demand.ofMembers (fun name => (declared.lookup name).toList) (fun _ _ => []) members =
      members.flatMap fun entry =>
        (((declared.lookup entry.1).map fun node => (entry.2, node)).map
          fun asked => inner entry.1 asked.1 asked.2).toList := by
    unfold Demand.ofMembers
    congr 1
    funext entry
    obtain ⟨name, part⟩ := entry
    dsimp only
    cases declared.lookup name <;> rfl
  have noneTwice : (ofDeclared declared members).Nodup := byDeclared ▸ nodup_below distinct _
  have noneTwiceEither : (Demand.ofMembers (fun name => (declared.lookup name).toList)
      (fun _ _ => []) members).Nodup := byMembers ▸ nodup_below ofMembers _
  rw [List.perm_ext_iff_of_nodup noneTwice noneTwiceEither]
  intro demand
  rw [mem_ofDeclared, mem_ofMembers]
  constructor
  · rintro ⟨name, node, part, isDeclared, found, rfl⟩
    refine ⟨name, part, Entries.mem_of_lookup found, .inr ⟨node, ?_, rfl⟩⟩
    rw [Entries.lookup_of_mem distinct isDeclared]
    exact List.mem_cons_self
  · rintro ⟨name, part, isMember, ⟨_, nothing⟩ | ⟨node, isNode, rfl⟩⟩
    · cases nothing
    · have isDeclared := Entries.mem_of_lookup (Option.mem_toList.mp isNode)
      exact ⟨name, node, part, isDeclared, Entries.lookup_of_mem ofMembers isMember, rfl⟩

end Demand

/-- The check in the place of a loop makes the demands of the loop. -/
theorem Check.Replaces.demands_perm {Same : SchemaNode → Rule → Prop} {members : List (String × Json)}
    {scope : Scope} {unit : Option Check} {loop : Check} (replaces : Replaces unit loop)
    (loops : Compiler.Loops Same members scope loop)
    (distinct : (Entries.names (Compiler.table members "properties")).Nodup)
    {inside : List (String × Json)} (ofInside : (Entries.names inside).Nodup) (messages : Messages) :
    (unit.toList.flatMap (Check.demands messages (.object inside))).Perm
      (loop.demands messages (.object inside)) := by
  cases replaces with
  | loop => simp
  | declared declared =>
      obtain ⟨named, _⟩ := loops
      have undecided : Checker.rulesFor declared [] = fun name => (declared.lookup name).toList := by
        funext name
        simp [Checker.rulesFor]
      rw [Option.toList_some, List.flatMap_singleton]
      change (Demand.ofDeclared declared inside).Perm
        (Demand.ofMembers (Checker.rulesFor declared []) _ inside)
      rw [undecided]
      exact Demand.ofDeclared_perm (named ▸ distinct) ofInside
  | nothing =>
      have nothing : (Check.members [] [] .allowed).demands messages (.object inside) = [] :=
        List.flatMap_eq_nil_iff.mpr fun _ _ => rfl
      rw [nothing]
      exact .nil

/-! ### What is found in the members -/

namespace Interpreter

variable {members : List (String × Json)} {scope : Scope}

def nodesOf (members : List (String × Json)) (scope : Scope) (name : String) : List SchemaNode :=
  match nodesFor scope (Compiler.table members "properties")
      (Compiler.table members "patternProperties") name with
  | [] => Compiler.objectInside (members.lookup "additionalProperties") scope
  | nodes => nodes

/-- The errors of an object by the keywords about members, from what its members are found to lack: of
each member those by the nodes for it, and one more for each that is forbidden. -/
def memberErrors (members : List (String × Json)) (scope : Scope) (tokens : List String)
    (errors : String → Json → SchemaNode → List ValidationError) (inside : List (String × Json)) :
    List ValidationError :=
  inside.flatMap fun (name, part) =>
    match nodesOf members scope name, members.lookup "additionalProperties" with
    | [], some (.bool false) =>
        [⟨errorPath tokens none, .additionalProperties,
          message members .additionalProperties none⟩]
    | nodes, _ => nodes.flatMap (errors name part)

private theorem asked_of_nodesOf {inside : List (String × Json)} {name : String} {part : Json}
    {node : SchemaNode} (isMember : (name, part) ∈ inside)
    (isNode : node ∈ nodesOf members scope name) :
    .inner name part node ∈ askEachMember members scope (.object inside) := by
  refine Demand.mem_ofMembers.mpr ⟨name, part, isMember, ?_⟩
  unfold nodesOf at isNode
  split at isNode
  next nothing =>
    refine .inl ⟨nothing, ?_⟩
    unfold Compiler.objectInside at isNode
    split at isNode
    next others found =>
      rw [List.mem_singleton.mp isNode, found]
      exact List.mem_cons_self
    next => cases isNode
  next nodes _ => exact .inr ⟨node, isNode, rfl⟩

private theorem flatMap_askEachMember {tokens : List String} {found : Demand Rule → List ValidationError}
    {ruleOf : SchemaNode → Rule}
    (ofFailure : ∀ keyword property message, found (.failure keyword property message) =
      [⟨errorPath tokens property, keyword, message⟩]) (inside : List (String × Json)) :
    ((askEachMember members scope (.object inside)).map (Demand.map ruleOf)).flatMap found =
      memberErrors members scope tokens (fun name part node => found (.inner name part (ruleOf node)))
        inside := by
  unfold askEachMember Demand.ofMembers memberErrors nodesOf
  rw [List.map_flatMap, List.flatMap_assoc]
  congr 1
  funext member
  obtain ⟨name, part⟩ := member
  dsimp only
  cases nodesFor scope (Compiler.table members "properties")
      (Compiler.table members "patternProperties") name with
  | cons first rest => simp [List.flatMap_map, Demand.map]
  | nil =>
      cases members.lookup "additionalProperties" with
      | none => rfl
      | some additional =>
          cases additional with
          | bool allowed =>
              cases allowed with
              | false => simp [askOther, Demand.map, ofFailure, Compiler.objectInside]
              | true => rfl
          | object others => simp [askOther, Demand.map, Compiler.objectInside]
          | _ => rfl

end Interpreter

/-! ### Objects that are checked -/

/-- How the members of an object are checked in a call. Each node finds something in a member, from
whatever log, and these are the errors that are logged for the object, with one for each member that is
forbidden: in this order by the loop, and in some order by the one check that is made. -/
structure Frame.ChecksMembers (checker : Checker) (budget : Nat) (frame : Frame) {compiler : Compiler}
    (whole : compiler.Run) (members : List (String × Json)) (scope : Scope)
    (inside : List (String × Json)) (unit : Option Check) (loop : Check)
    (errors : String → Json → SchemaNode → List ValidationError) : Prop where
  nodes : ∀ name part, (name, part) ∈ inside → ∀ node ∈ Interpreter.nodesOf members scope name,
    ∃ rule, whole.Assigns node rule ∧
      Logs false (checker.visit budget rule part frame.tried) (name :: frame.place.tokens) frame.active
        (errors name part node)
  unit : ∃ own, own.Perm (Interpreter.memberErrors members scope frame.place.tokens errors inside) ∧
    Logs false (unit.toList.forM
      (checker.check (checker.visit budget) (.ofMembers members) frame.place.value frame.tried))
      frame.place.tokens frame.active own
  loop : Logs false
    (checker.check (checker.visit budget) (.ofMembers members) frame.place.value frame.tried loop)
    frame.place.tokens frame.active
    (Interpreter.memberErrors members scope frame.place.tokens errors inside)

section Object

variable {checker : Checker} {entry : Rule} {value : Json} {budget : Nat} {frame : Frame}
  {compiler : Compiler} {whole : compiler.Run} {members : List (String × Json)} {scope : Scope}
  {general : List Check} {guarded : List (Kind × List Check)} {formats : List FormatCheck}
  {unit : Option Check} {loop : Check} {inside : List (String × Json)}

theorem Frame.Reached.checksMembers (greedy : checker.greedy = true)
    (reached : Frame.Reached checker entry value (budget + 1) frame)
    (isChecks : frame.rule = .checks general guarded formats (.ofMembers members))
    (isObject : frame.place.value = .object inside) (alone : whole.earlier = #[])
    (unites : whole.Unites members scope general guarded unit loop)
    (distinct : (Entries.names (Compiler.table members "properties")).Nodup)
    (ofInside : (Entries.names inside).Nodup) :
    ∃ errors, frame.ChecksMembers checker budget whole members scope inside unit loop errors := by
  have loops := whole.loops alone unites.ofKeywords
  have perm := unites.replaces.demands_perm loops distinct ofInside (.ofMembers members)
  have alike : Demand.AllAlike whole.Assigns
      (Interpreter.askEachMember members scope (.object inside))
      (loop.demands (.ofMembers members) (.object inside)) := by
    obtain ⟨_, answers⟩ := loops
    exact answers (.object inside)
  have ofUnit (demand : Demand Rule)
      (asked : demand ∈ unit.toList.flatMap (Check.demands (.ofMembers members) (.object inside))) :
      demand ∈ Rule.demands general guarded formats (.ofMembers members) frame.place.value := by
    obtain ⟨check, isUnit, asked⟩ := List.mem_flatMap.mp asked
    rw [← unites.isRun inside] at isUnit
    rw [isObject]
    exact Rule.mem_demands_of_run (List.mem_of_mem_filter isUnit) asked
  let found (demand : Demand Rule) : List ValidationError :=
    (frame.findingsOf checker budget demand).getD []
  have logs (demand : Demand Rule)
      (asked : demand ∈ loop.demands (.ofMembers members) (.object inside)) :
      frame.findingsOf checker budget demand = some (found demand) ∧
        Logs false (checker.meet (checker.visit budget) (.object inside) frame.tried demand)
          frame.place.tokens frame.active (found demand) := by
    obtain ⟨own, known, logs⟩ := reached.demand_logs isChecks (ofUnit demand (perm.mem_iff.mpr asked))
    have same : found demand = own := by simp only [found, known, Option.getD_some]
    rw [isObject, Checker.halts, greedy] at logs
    rw [same]
    exact ⟨known, logs⟩
  let errors (name : String) (part : Json) (node : SchemaNode) : List ValidationError :=
    found (.inner name part (whole.ruleOf node))
  have together : (loop.demands (.ofMembers members) (.object inside)).flatMap found =
      Interpreter.memberErrors members scope frame.place.tokens errors inside := by
    rw [← alike.map_eq fun _ _ assigns => Compiler.Run.Assigns.ruleOf_eq assigns]
    exact Interpreter.flatMap_askEachMember (fun _ _ _ => rfl) inside
  refine ⟨errors, ?_⟩
  constructor
  case nodes =>
    intro name part isMember node isNode
    have asked := Interpreter.asked_of_nodesOf isMember isNode
    obtain ⟨demand, isDemand, same⟩ := (Shuffled.of_forall₂ alike).exists_right asked
    cases same with
    | @inner _ _ _ _ rule equal assigns =>
        subst equal
        refine ⟨rule, assigns, ?_⟩
        have known := (logs _ isDemand).1
        have logged := checker.visit_logs frame.tried (reached.openHere.below name) known
        rw [Checker.halts, greedy] at logged
        simp only [errors, assigns.ruleOf_eq]
        exact logged
  case unit =>
    refine ⟨_, (perm.flatMap_right found).trans (.of_eq together), ?_⟩
    have run : checker.check (checker.visit budget) (.ofMembers members) (.object inside) frame.tried =
        fun check => (check.demands (.ofMembers members) (.object inside)).forM
          (checker.meet (checker.visit budget) (.object inside) frame.tried) :=
      funext fun check => checker.check_eq_forM _ _ _ _ check
    rw [isObject, run, ← forM_flatMap]
    exact Logs.forM fun demand asked => (logs demand (perm.mem_iff.mp asked)).2
  case loop =>
    rw [← together, isObject, Checker.check_eq_forM]
    exact Logs.forM fun demand asked => (logs demand asked).2

end Object

/-! ### Objects that hold each key once -/

theorem Compiler.nodup_names_table {members : List (String × Json)}
    (distinct : (Json.object members).keysDistinct = true) (key : String) :
    (Entries.names (table members key)).Nodup := by
  unfold table
  cases found : members.lookup key with
  | none => exact List.nodup_nil
  | some value =>
      have isPart : (Json.object members).Part key value := .of_field found
      have ofValue := isPart.keysDistinct distinct
      cases value with
      | object entries => exact Json.nodup_names rfl ofValue
      | _ => exact List.nodup_nil

theorem Place.Inside.keysDistinct {root : Json} {place : Place} (inside : place.Inside root)
    (distinct : root.keysDistinct = true) : place.value.keysDistinct = true := by
  induction inside with
  | whole => exact distinct
  | part _ isPart ih => exact isPart.keysDistinct ih

namespace Validator

/-- Whichever of the keywords about members a node has, and in whatever order, at most one check is made of
them. At every object that comes to the rule of the node, wherever the run begins, it finds in some order
what the keywords say of each member; and so does the check that goes by the members of the object, even
where the one that is made goes by the declared ones. -/
theorem members_checked_as_unit {schema : Json} {options : Options} {validator : Validator}
    (compiled : compile schema options = .ok validator)
    (distinct : validator.documents.keysDistinct = true) :
    ∃ whole : Compiler.Run
        ⟨⟨schema, options.schemas, options.missingRefAllowed⟩, options.registry, options.formats⟩,
      whole.node = ⟨schema, .main⟩ ∧ whole.earlier = #[] ∧ whole.rule = validator.entry ∧
        ∀ run, whole.Within run → ∀ members scope, run.node = ⟨.object members, scope⟩ →
          members.lookup "$ref" = none →
          ∃ general guarded formats unit loop,
            run.rule = .checks general guarded formats (.ofMembers members) ∧
              whole.Unites members scope general guarded unit loop ∧
              ∀ (entry : Rule) (value : Json) (budget : Nat) (frame : Frame)
                (inside : List (String × Json)),
                let checker := (validator.inMode true).checker
                value.keysDistinct = true →
                Frame.Reached checker entry value (budget + 1) frame →
                frame.rule = run.rule → frame.place.value = .object inside →
                ∃ errors,
                  frame.ChecksMembers checker budget whole members scope inside unit loop errors := by
  obtain ⟨_, ran, documents, _⟩ := compile_eq_ok compiled
  obtain ⟨slots, _, ends⟩ := Compiler.compiled_of_run ran
  rw [documents] at distinct
  let whole : Compiler.Run
      ⟨⟨schema, options.schemas, options.missingRefAllowed⟩, options.registry, options.formats⟩ :=
    ⟨_, ⟨schema, .main⟩, #[], validator.entry, slots, ends⟩
  refine ⟨whole, rfl, rfl, rfl, ?_⟩
  intro run within members scope isNode noReference
  obtain ⟨general, guarded, formats, unit, loop, isRule, unites⟩ :=
    within.unites rfl isNode noReference
  refine ⟨general, guarded, formats, unit, loop, isRule, unites, ?_⟩
  intro entry value budget frame inside checker ofValue reached sameRule isObject
  have ofNode : (Json.object members).keysDistinct = true := by
    have contains := within.contains .refl
    rw [isNode] at contains
    exact Documents.keysDistinct_of_holds distinct contains.holds
  have ofPlace := reached.visits.within.place.keysDistinct ofValue
  rw [isObject] at ofPlace
  exact reached.checksMembers rfl (sameRule.trans isRule) isObject rfl unites
    (Compiler.nodup_names_table ofNode "properties") (Json.nodup_names rfl ofPlace)

def closedMembers : List (String × Json) :=
  [("additionalProperties", .bool false),
    ("properties", .object [("name", .object [("type", .string "string")])]),
    ("patternProperties", .object [("^x-", .object [("type", .string "number")])])]

theorem members_checked_as_unit_closed :
    ∃ validator, compile (.object closedMembers) .default = .ok validator ∧
      ∃ (whole : Compiler.Run ⟨⟨.object closedMembers, [], false⟩, .standard, []⟩)
        (general : List Check) (guarded : List (Kind × List Check)) (unit : Option Check)
        (loop : Check) (budget : Nat) (errors : String → Json → SchemaNode → List ValidationError),
        let inside : List (String × Json) :=
          [("x-1", .string "one"), ("other", .null), ("name", .bool true)]
        whole.Unites closedMembers .main general guarded unit loop ∧
          (Frame.start validator.entry (.object inside)).ChecksMembers
            (validator.inMode true).checker budget whole closedMembers .main inside unit loop
            errors := by
  obtain ⟨validator, compiled, documents⟩ :=
    exists_of_isOk (.object closedMembers) .default (by decide +kernel)
  have distinct : validator.documents.keysDistinct = true := by
    rw [documents]
    decide +kernel
  obtain ⟨whole, isNode, _, isEntry, each⟩ := members_checked_as_unit compiled distinct
  obtain ⟨general, guarded, _, unit, loop, _, unites, checks⟩ :=
    each whole .refl closedMembers .main isNode rfl
  let inside : List (String × Json) :=
    [("x-1", .string "one"), ("other", .null), ("name", .bool true)]
  let checker := (validator.inMode true).checker
  have positive : checker.budget validator.entry (.object inside) ≠ 0 := by
    simp [Checker.budget]
  obtain ⟨budget, isBudget⟩ := Nat.exists_eq_succ_of_ne_zero positive
  have reached : Frame.Reached checker validator.entry (.object inside) (budget + 1)
      (.start validator.entry (.object inside)) := by
    rw [← Nat.succ_eq_add_one, ← isBudget]
    exact .start
  obtain ⟨errors, checked⟩ := checks validator.entry (.object inside) budget _ inside
    (by decide +kernel) reached isEntry.symm rfl
  exact ⟨validator, compiled, whole, general, guarded, unit, loop, budget, errors, unites, checked⟩

end Validator

end JsonSchema
