import JsonSchema.Checking
import JsonSchema.Proofs.Parts

set_option autoImplicit false

/-! What a node asks of one value, as a list of demands. A demand is settled on the spot, or it hands a
value on to another node: the same value, a part of it, or the same value to several nodes of which
a number has to succeed. `Demand.findings` says what a demand finds when the findings of the nodes
are known. The parameter `Node` is whatever stands for a node: a rule, or a place in a schema. -/

namespace JsonSchema

/-- The errors that are found, or `none` when finding them did not come to an end. -/
abbrev Findings := Option (List ValidationError)

namespace Findings

/-- What several things find, put together from the last of them on. -/
def combine {Total : Type} (add : List ValidationError → Total → Total) (nothing : Total) :
    List Findings → Option Total
  | [] => some nothing
  | first :: rest => do return add (← first) (← combine add nothing rest)

abbrev gather : List Findings → Findings := combine (· ++ ·) []

abbrev tally : List Findings → Option Nat := combine (fun own count => own.isEmpty.toNat + count) 0

section Combine

variable {Total : Type} {add : List ValidationError → Total → Total} {nothing : Total}

theorem combine_cons_eq_some {first : Findings} {rest : List Findings} {total : Total}
    (known : combine add nothing (first :: rest) = some total) :
    ∃ own more, first = some own ∧ combine add nothing rest = some more ∧ total = add own more := by
  cases first with
  | none => cases known
  | some own =>
      cases others : combine add nothing rest with
      | none => simp [combine, others] at known
      | some more =>
          simp only [combine, others] at known
          exact ⟨own, more, rfl, rfl, (Option.some.inj known).symm⟩

theorem combine_cons_some {own : List ValidationError} {rest : List Findings} {total : Total}
    (atRest : combine add nothing rest = some total) :
    combine add nothing (some own :: rest) = some (add own total) := by
  rw [combine, atRest]
  rfl

theorem combine_isSome {all : List Findings} (known : ∀ each ∈ all, each.isSome = true) :
    (combine add nothing all).isSome = true := by
  induction all with
  | nil => rfl
  | cons first rest ih =>
      obtain ⟨own, atFirst⟩ := Option.isSome_iff_exists.mp (known first List.mem_cons_self)
      obtain ⟨more, atRest⟩ := Option.isSome_iff_exists.mp
        (ih fun each member => known each (List.mem_cons_of_mem first member))
      rw [atFirst, combine_cons_some atRest]
      rfl

theorem known_of_combine {all : List Findings} {total : Total}
    (known : combine add nothing all = some total) : ∀ each ∈ all, ∃ own, each = some own := by
  induction all generalizing total with
  | nil =>
      intro each member
      cases member
  | cons first rest ih =>
      obtain ⟨own, more, atFirst, atRest, _⟩ := combine_cons_eq_some known
      rw [List.forall_mem_cons]
      exact ⟨⟨own, atFirst⟩, ih atRest⟩

end Combine

theorem gather_eq_some_nil_iff (all : List Findings) :
    gather all = some [] ↔ ∀ each ∈ all, each = some [] := by
  induction all with
  | nil => simp [combine]
  | cons first rest ih =>
      rw [List.forall_mem_cons, ← ih]
      constructor
      · intro known
        obtain ⟨own, more, atFirst, atRest, parts⟩ := combine_cons_eq_some known
        obtain ⟨ownNil, moreNil⟩ := List.append_eq_nil_iff.mp parts.symm
        exact ⟨ownNil ▸ atFirst, moreNil ▸ atRest⟩
      · rintro ⟨rfl, atRest⟩
        exact combine_cons_some atRest

theorem eq_nil_of_gather {all : List Findings} {found : List ValidationError}
    (known : gather all = some found)
    (nothing : ∀ each ∈ all, ∀ own, each = some own → own = []) : found = [] := by
  induction all generalizing found with
  | nil => exact (Option.some.inj known).symm
  | cons first rest ih =>
      obtain ⟨own, more, atFirst, atRest, parts⟩ := combine_cons_eq_some known
      have ownNil := nothing first List.mem_cons_self own atFirst
      have moreNil := ih atRest fun each member => nothing each (List.mem_cons_of_mem first member)
      rw [parts, ownNil, moreNil, List.append_nil]

theorem tally_pos_iff {all : List Findings} {count : Nat} (known : tally all = some count) :
    0 < count ↔ ∃ each ∈ all, each = some [] := by
  induction all generalizing count with
  | nil =>
      cases known
      simp
  | cons first rest ih =>
      obtain ⟨own, more, atFirst, atRest, sum⟩ := combine_cons_eq_some known
      simp only [List.mem_cons, or_and_right, exists_or, exists_eq_left]
      rw [← ih atRest, atFirst, sum]
      cases own with
      | nil =>
          have counted : ([] : List ValidationError).isEmpty.toNat + more = more + 1 :=
            Nat.add_comm _ _
          rw [counted]
          exact ⟨fun _ => .inl rfl, fun _ => Nat.succ_pos more⟩
      | cons error errors => simp

end Findings

inductive Choice where
  | any
  | one
  | none
deriving DecidableEq

namespace Choice

def keyword : Choice → Keyword
  | .any => .anyOf
  | .one => .oneOf
  | .none => .not

def accepts : Choice → Nat → Bool
  | .any, count => 0 < count
  | .one, count => count = 1
  | .none, count => count = 0

end Choice

/-- One thing that is asked of a value: nothing can help any more, the value keeps another node, a part
of the value keeps a node, or so many of several nodes are kept. -/
inductive Demand (Node : Type) where
  | failure (keyword : Keyword) (property : Option String) (message : Option String)
  | same (node : Node)
  | inner (token : String) (value : Json) (node : Node)
  | choice (wanted : Choice) (message : Option String) (branches : List Node)

namespace Demand

variable {Node : Type}

section Findings

variable (same : Node → Findings) (inner : String → Json → Node → Findings)
  (tokens : List String)

/-- What a demand finds. `same` tells what a node finds in the value itself, `inner` what it finds in
the part behind a token. The errors of a combinator's branches are not errors of the value. -/
def findings : Demand Node → Findings
  | .failure keyword property message => some [⟨errorPath tokens property, keyword, message⟩]
  | .same node => same node
  | .inner token value node => inner token value node
  | .choice wanted message branches => do
      let count ← Findings.tally (branches.map same)
      return if wanted.accepts count then [] else [⟨errorPath tokens none, wanted.keyword, message⟩]

def findingsOf (demands : List (Demand Node)) : Findings :=
  Findings.gather (demands.map (findings same inner tokens))

theorem findings_choice_eq_some {wanted : Choice} {message : Option String} {branches : List Node}
    {found : List ValidationError}
    (known : (choice wanted message branches).findings same inner tokens = some found) :
    ∃ count, Findings.tally (branches.map same) = some count ∧
      found = if wanted.accepts count then []
        else [⟨errorPath tokens none, wanted.keyword, message⟩] := by
  cases counted : Findings.tally (branches.map same) with
  | none => simp [findings, counted] at known
  | some count =>
      rw [findings, counted] at known
      exact ⟨count, rfl, (Option.some.inj known).symm⟩

end Findings

/-! ### The forms in which keywords make demands -/

def failIf (fails : Bool) (keyword : Keyword) (message : Option String) : List (Demand Node) :=
  if fails then [.failure keyword none message] else []

def ofElements (each : Node) (first : Nat) (elements : List Json) : List (Demand Node) :=
  (elements.zipIdx first).map fun (element, index) => .inner (toString index) element each

def ofPositions (declared : List Node) (elements : List Json) : List (Demand Node) :=
  (declared.zip elements).zipIdx.map fun ((node, element), index) =>
    .inner (toString index) element node

def ofDeclared (declared : List (String × Node)) (members : List (String × Json)) :
    List (Demand Node) :=
  declared.flatMap fun (name, node) =>
    ((members.lookup name).map fun value => .inner name value node).toList

def ofMembers (nodesFor : String → List Node) (others : String → Json → List (Demand Node))
    (members : List (String × Json)) : List (Demand Node) :=
  members.flatMap fun (name, value) =>
    match nodesFor name with
    | [] => others name value
    | nodes => nodes.map (.inner name value)

def ofNames (keyword : Keyword) (message : String → Option String) (names : List String)
    (members : List (String × Json)) : List (Demand Node) :=
  names.flatMap fun name =>
    if Entries.hasKey members name then [] else [.failure keyword (some name) (message name)]

def ofPresent {Entry : Type} (ask : Entry → List (Demand Node)) (entries : List (String × Entry))
    (members : List (String × Json)) : List (Demand Node) :=
  entries.flatMap fun (name, entry) => if Entries.hasKey members name then ask entry else []

/-! ### Which demands the forms hold -/

theorem mem_failIf {demand : Demand Node} {fails : Bool} {keyword : Keyword}
    {message : Option String} :
    demand ∈ failIf fails keyword message ↔
      fails = true ∧ demand = .failure keyword none message := by
  cases fails <;> simp [failIf]

theorem mem_ofElements {demand : Demand Node} {each : Node} {first : Nat} {elements : List Json} :
    demand ∈ ofElements each first elements ↔
      ∃ index element, elements[index]? = some element ∧
        demand = .inner (toString (first + index)) element each := by
  constructor
  · intro member
    obtain ⟨⟨element, place⟩, atPlace, rfl⟩ := List.mem_map.mp member
    obtain ⟨behind, found⟩ := List.mk_mem_zipIdx_iff_le_and_getElem?_sub.mp atPlace
    exact ⟨place - first, element, found, by rw [Nat.add_sub_cancel' behind]⟩
  · rintro ⟨index, element, found, rfl⟩
    refine List.mem_map.mpr ⟨(element, first + index), ?_, rfl⟩
    rw [List.mk_mem_zipIdx_iff_le_and_getElem?_sub, Nat.add_sub_cancel_left]
    exact ⟨Nat.le_add_right first index, found⟩

theorem mem_ofPositions {demand : Demand Node} {declared : List Node} {elements : List Json} :
    demand ∈ ofPositions declared elements ↔
      ∃ (index : Nat) (node : Node) (element : Json), declared[index]? = some node ∧
        elements[index]? = some element ∧ demand = .inner (toString index) element node := by
  constructor
  · intro member
    obtain ⟨⟨⟨node, element⟩, index⟩, atPlace, rfl⟩ := List.mem_map.mp member
    obtain ⟨atNode, atElement⟩ :=
      List.getElem?_zip_eq_some.mp (List.mk_mem_zipIdx_iff_getElem?.mp atPlace)
    exact ⟨index, node, element, atNode, atElement, rfl⟩
  · rintro ⟨index, node, element, atNode, atElement, rfl⟩
    refine List.mem_map.mpr ⟨((node, element), index), ?_, rfl⟩
    exact List.mk_mem_zipIdx_iff_getElem?.mpr
      (List.getElem?_zip_eq_some.mpr ⟨atNode, atElement⟩)

theorem mem_ofDeclared {demand : Demand Node} {declared : List (String × Node)}
    {members : List (String × Json)} :
    demand ∈ ofDeclared declared members ↔
      ∃ name node part, (name, node) ∈ declared ∧ members.lookup name = some part ∧
        demand = .inner name part node := by
  constructor
  · intro member
    obtain ⟨⟨name, node⟩, isDeclared, atMember⟩ := List.mem_flatMap.mp member
    obtain ⟨part, found, rfl⟩ := Option.map_eq_some_iff.mp (Option.mem_toList.mp atMember)
    exact ⟨name, node, part, isDeclared, found, rfl⟩
  · rintro ⟨name, node, part, isDeclared, found, rfl⟩
    refine List.mem_flatMap.mpr ⟨(name, node), isDeclared, ?_⟩
    simp [found]

theorem mem_ofMembers {demand : Demand Node} {nodesFor : String → List Node}
    {others : String → Json → List (Demand Node)} {members : List (String × Json)} :
    demand ∈ ofMembers nodesFor others members ↔
      ∃ name part, (name, part) ∈ members ∧
        ((nodesFor name = [] ∧ demand ∈ others name part) ∨
          ∃ node ∈ nodesFor name, demand = .inner name part node) := by
  rw [ofMembers, List.mem_flatMap]
  constructor
  · rintro ⟨⟨name, part⟩, isMember, asked⟩
    refine ⟨name, part, isMember, ?_⟩
    dsimp only at asked
    cases nodes : nodesFor name with
    | nil =>
        rw [nodes] at asked
        exact .inl ⟨rfl, asked⟩
    | cons node more =>
        rw [nodes] at asked
        obtain ⟨chosen, isNode, rfl⟩ := List.mem_map.mp asked
        exact .inr ⟨chosen, isNode, rfl⟩
  · rintro ⟨name, part, isMember, ⟨none, asked⟩ | ⟨node, isNode, rfl⟩⟩
    · refine ⟨(name, part), isMember, ?_⟩
      simpa only [none] using asked
    · refine ⟨(name, part), isMember, ?_⟩
      dsimp only
      cases nodes : nodesFor name with
      | nil =>
          rw [nodes] at isNode
          cases isNode
      | cons first more => exact List.mem_map.mpr ⟨node, nodes ▸ isNode, rfl⟩

theorem mem_ofNames {demand : Demand Node} {keyword : Keyword}
    {message : String → Option String} {names : List String} {members : List (String × Json)} :
    demand ∈ ofNames keyword message names members ↔
      ∃ name ∈ names, Entries.hasKey members name = false ∧
        demand = .failure keyword (some name) (message name) := by
  rw [ofNames, List.mem_flatMap]
  constructor
  · rintro ⟨name, isName, asked⟩
    cases present : Entries.hasKey members name with
    | true => simp [present] at asked
    | false =>
        rw [present] at asked
        exact ⟨name, isName, present, List.mem_singleton.mp asked⟩
  · rintro ⟨name, isName, absent, rfl⟩
    exact ⟨name, isName, by simp [absent]⟩

theorem mem_ofPresent {Entry : Type} {demand : Demand Node} {ask : Entry → List (Demand Node)}
    {entries : List (String × Entry)} {members : List (String × Json)} :
    demand ∈ ofPresent ask entries members ↔
      ∃ name entry, (name, entry) ∈ entries ∧ Entries.hasKey members name = true ∧
        demand ∈ ask entry := by
  rw [ofPresent, List.mem_flatMap]
  constructor
  · rintro ⟨⟨name, entry⟩, isEntry, asked⟩
    dsimp only at asked
    cases present : Entries.hasKey members name with
    | true =>
        rw [present] at asked
        exact ⟨name, entry, isEntry, present, asked⟩
    | false => simp [present] at asked
  · rintro ⟨name, entry, isEntry, present, asked⟩
    exact ⟨(name, entry), isEntry, by simpa [present] using asked⟩

end Demand

/-! ### The demands of rules -/

def Additional.demands (messages : Messages) (additional : Additional) (name : String)
    (value : Json) : List (Demand Rule) :=
  match additional with
  | .allowed => []
  | .forbidden =>
      [.failure .additionalProperties none (messages.find? .additionalProperties none)]
  | .rule inside => [.inner name value inside]

def Dependency.demands (messages : Messages) (members : List (String × Json))
    (dependency : Dependency) : List (Demand Rule) :=
  match dependency with
  | .rule whole => [.same whole]
  | .names required =>
      Demand.ofNames .dependencies (fun name => messages.find? .dependencies (some name)) required
        members

def Check.isPlain : Check → Bool
  | .items _ | .tuple _ _ | .required _ | .properties _ | .members _ _ _ | .dependencies _
  | .allOf _ | .anyOf _ | .oneOf _ | .not _ => false
  | _ => true

def Check.demands (messages : Messages) (value : Json) (check : Check) : List (Demand Rule) :=
  let members := value.members?.getD []
  let elements := value.elements?.getD []
  match check with
  | .items each => Demand.ofElements each 0 elements
  | .tuple declared additional =>
      Demand.ofPositions declared elements ++
        additional.toList.flatMap fun rule =>
          Demand.ofElements rule declared.length (elements.drop declared.length)
  | .required names =>
      Demand.ofNames .required (fun name => messages.find? .required (some name))
        (if value.isObject then names else []) members
  | .properties declared => Demand.ofDeclared declared members
  | .members declared patterns additional =>
      Demand.ofMembers (Checker.rulesFor declared patterns) (additional.demands messages) members
  | .dependencies entries => Demand.ofPresent (Dependency.demands messages members) entries members
  | .allOf branches => branches.map .same
  | .anyOf branches => [.choice .any (messages.find? .anyOf none) branches]
  | .oneOf branches => [.choice .one (messages.find? .oneOf none) branches]
  | .not rule => [.choice .none (messages.find? .not none) [rule]]
  | simple => Demand.failIf (simple.fails value) simple.keyword (messages.find? simple.keyword none)

theorem Check.demands_of_isPlain {check : Check} (plain : check.isPlain = true)
    (messages : Messages) (value : Json) :
    check.demands messages value =
      Demand.failIf (check.fails value) check.keyword (messages.find? check.keyword none) := by
  cases check <;> first | rfl | cases plain

/-- What a rule that is no reference asks of a value. -/
def Rule.demands (general : List Check) (guarded : List (Kind × List Check))
    (formats : List FormatCheck) (messages : Messages) (value : Json) : List (Demand Rule) :=
  general.flatMap (Check.demands messages value) ++
    (guarded.flatMap fun (kind, group) =>
      if kind.accepts value then group.flatMap (Check.demands messages value) else []) ++
    formats.flatMap fun format =>
      Demand.failIf (!format.accepts value) .format (messages.find? .format none)

/-! ### Which rules and values demands hand on -/

def Additional.rulesInside : Additional → List Rule
  | .rule inside => [inside]
  | _ => []

def Dependency.rulesInside : Dependency → List Rule
  | .rule whole => [whole]
  | .names _ => []

def Check.rulesInside : Check → List Rule
  | .items each => [each]
  | .tuple declared additional => declared ++ additional.toList
  | .properties declared => declared.map (·.2)
  | .members declared patterns additional =>
      declared.map (·.2) ++ patterns.map (·.2) ++ additional.rulesInside
  | .dependencies entries => entries.flatMap fun entry => entry.2.rulesInside
  | .allOf branches | .anyOf branches | .oneOf branches => branches
  | .not rule => [rule]
  | _ => []

def Rule.allChecks (general : List Check) (guarded : List (Kind × List Check)) : List Check :=
  general ++ guarded.flatMap (·.2)

def Rule.rulesInside (general : List Check) (guarded : List (Kind × List Check)) : List Rule :=
  (Rule.allChecks general guarded).flatMap Check.rulesInside

def Demand.Within {Node : Type} (nodes : List Node) (value : Json) : Demand Node → Prop
  | .failure _ _ _ => True
  | .same node => node ∈ nodes
  | .inner token part node => node ∈ nodes ∧ value.Part token part
  | .choice _ _ branches => ∀ branch ∈ branches, branch ∈ nodes

theorem Demand.Within.mono {Node : Type} {nodes more : List Node} {value : Json}
    {demand : Demand Node} (within : demand.Within nodes value)
    (subset : ∀ node ∈ nodes, node ∈ more) : demand.Within more value := by
  cases demand with
  | failure keyword property message => trivial
  | same node => exact subset node within
  | inner token part node => exact ⟨subset node within.1, within.2⟩
  | choice wanted message branches =>
      exact fun branch isBranch => subset branch (within branch isBranch)

theorem Checker.mem_of_mem_rulesFor {declared : List (String × Rule)}
    {patterns : List (Regex × Rule)} {name : String} {rule : Rule}
    (member : rule ∈ Checker.rulesFor declared patterns name) :
    rule ∈ declared.map (·.2) ++ patterns.map (·.2) := by
  rcases List.mem_append.mp member with atDeclared | atPattern
  · have found := Entries.mem_of_lookup (Option.mem_toList.mp atDeclared)
    exact List.mem_append_left _ (List.mem_map.mpr ⟨(name, rule), found, rfl⟩)
  · obtain ⟨entry, kept, rfl⟩ := List.mem_map.mp atPattern
    exact List.mem_append_right _ (List.mem_map.mpr ⟨entry, (List.mem_filter.mp kept).1, rfl⟩)

theorem Check.demands_within {messages : Messages} {value : Json} {check : Check}
    {demand : Demand Rule} (asked : demand ∈ check.demands messages value) :
    demand.Within check.rulesInside value := by
  cases check with
  | items each =>
      obtain ⟨index, element, found, rfl⟩ := Demand.mem_ofElements.mp asked
      rw [Nat.zero_add]
      exact ⟨List.mem_cons_self, .of_element found⟩
  | tuple declared additional =>
      rcases List.mem_append.mp asked with atPosition | atRest
      · obtain ⟨index, rule, element, atRule, found, rfl⟩ := Demand.mem_ofPositions.mp atPosition
        exact ⟨List.mem_append_left _ (List.mem_of_getElem? atRule), .of_element found⟩
      · obtain ⟨rule, isAdditional, inside⟩ := List.mem_flatMap.mp atRest
        obtain ⟨index, element, found, rfl⟩ := Demand.mem_ofElements.mp inside
        rw [List.getElem?_drop] at found
        exact ⟨List.mem_append_right _ isAdditional, .of_element found⟩
  | required names =>
      obtain ⟨name, _, _, rfl⟩ := Demand.mem_ofNames.mp asked
      trivial
  | properties declared =>
      obtain ⟨name, rule, part, isDeclared, found, rfl⟩ := Demand.mem_ofDeclared.mp asked
      exact ⟨List.mem_map.mpr ⟨(name, rule), isDeclared, rfl⟩,
        .of_member (Entries.mem_of_lookup found)⟩
  | members declared patterns additional =>
      obtain ⟨name, part, isMember, ⟨_, ofOthers⟩ | ⟨rule, isRule, rfl⟩⟩ :=
        Demand.mem_ofMembers.mp asked
      · cases additional with
        | allowed => cases ofOthers
        | forbidden =>
            rw [List.mem_singleton.mp ofOthers]
            trivial
        | rule rule =>
            rw [List.mem_singleton.mp ofOthers]
            exact ⟨List.mem_append_right _ List.mem_cons_self, .of_member isMember⟩
      · exact ⟨List.mem_append_left _ (Checker.mem_of_mem_rulesFor isRule), .of_member isMember⟩
  | dependencies entries =>
      obtain ⟨name, dependency, isEntry, _, ofEntry⟩ := Demand.mem_ofPresent.mp asked
      cases dependency with
      | rule rule =>
          rw [List.mem_singleton.mp ofEntry]
          exact List.mem_flatMap.mpr ⟨(name, .rule rule), isEntry, List.mem_cons_self⟩
      | names names =>
          obtain ⟨missing, _, _, rfl⟩ := Demand.mem_ofNames.mp ofEntry
          trivial
  | allOf branches =>
      obtain ⟨rule, isBranch, rfl⟩ := List.mem_map.mp asked
      exact isBranch
  | anyOf branches =>
      rw [List.mem_singleton.mp asked]
      exact fun branch isBranch => isBranch
  | oneOf branches =>
      rw [List.mem_singleton.mp asked]
      exact fun branch isBranch => isBranch
  | not rule =>
      rw [List.mem_singleton.mp asked]
      exact fun branch isBranch => isBranch
  | _ =>
      rw [(Demand.mem_failIf.mp asked).2]
      trivial

theorem Check.choice_of_demands {messages : Messages} {value : Json} {check : Check}
    {wanted : Choice} {message : Option String} {branches : List Rule}
    (asked : .choice wanted message branches ∈ check.demands messages value) :
    check.keyword = wanted.keyword := by
  cases check with
  | items each =>
      obtain ⟨_, _, _, isElement⟩ := Demand.mem_ofElements.mp asked
      cases isElement
  | tuple declared additional =>
      rcases List.mem_append.mp asked with atPosition | atRest
      · obtain ⟨_, _, _, _, _, isElement⟩ := Demand.mem_ofPositions.mp atPosition
        cases isElement
      · obtain ⟨_, _, inside⟩ := List.mem_flatMap.mp atRest
        obtain ⟨_, _, _, isElement⟩ := Demand.mem_ofElements.mp inside
        cases isElement
  | required names =>
      obtain ⟨_, _, _, isFailure⟩ := Demand.mem_ofNames.mp asked
      cases isFailure
  | properties declared =>
      obtain ⟨_, _, _, _, _, isMember⟩ := Demand.mem_ofDeclared.mp asked
      cases isMember
  | members declared patterns additional =>
      obtain ⟨_, _, _, ⟨_, ofOthers⟩ | ⟨_, _, isMember⟩⟩ := Demand.mem_ofMembers.mp asked
      · cases additional with
        | allowed => cases ofOthers
        | forbidden => cases List.mem_singleton.mp ofOthers
        | rule rule => cases List.mem_singleton.mp ofOthers
      · cases isMember
  | dependencies entries =>
      obtain ⟨_, dependency, _, _, ofEntry⟩ := Demand.mem_ofPresent.mp asked
      cases dependency with
      | rule rule => cases List.mem_singleton.mp ofEntry
      | names names =>
          obtain ⟨_, _, _, isFailure⟩ := Demand.mem_ofNames.mp ofEntry
          cases isFailure
  | allOf branches =>
      obtain ⟨_, _, isSame⟩ := List.mem_map.mp asked
      cases isSame
  | anyOf branches =>
      cases List.mem_singleton.mp asked
      rfl
  | oneOf branches =>
      cases List.mem_singleton.mp asked
      rfl
  | not rule =>
      cases List.mem_singleton.mp asked
      rfl
  | _ => cases (Demand.mem_failIf.mp asked).2

theorem Rule.mem_demands {general : List Check} {guarded : List (Kind × List Check)}
    {formats : List FormatCheck} {messages : Messages} {value : Json} {demand : Demand Rule}
    (asked : demand ∈ Rule.demands general guarded formats messages value) :
    demand = .failure .format none (messages.find? .format none) ∨
      ∃ check ∈ Rule.allChecks general guarded, demand ∈ check.demands messages value := by
  rcases List.mem_append.mp asked with ofCheck | atFormat
  · right
    rcases List.mem_append.mp ofCheck with atGeneral | atGuarded
    · obtain ⟨check, isCheck, inside⟩ := List.mem_flatMap.mp atGeneral
      exact ⟨check, List.mem_append_left _ isCheck, inside⟩
    · obtain ⟨⟨kind, group⟩, isGroup, inside⟩ := List.mem_flatMap.mp atGuarded
      dsimp only at inside
      split at inside
      next =>
        obtain ⟨check, isCheck, within⟩ := List.mem_flatMap.mp inside
        refine ⟨check, List.mem_append_right _ ?_, within⟩
        exact List.mem_flatMap.mpr ⟨(kind, group), isGroup, isCheck⟩
      next => cases inside
  · left
    obtain ⟨format, _, inside⟩ := List.mem_flatMap.mp atFormat
    exact (Demand.mem_failIf.mp inside).2

theorem Rule.demands_within {general : List Check} {guarded : List (Kind × List Check)}
    {formats : List FormatCheck} {messages : Messages} {value : Json} {demand : Demand Rule}
    (asked : demand ∈ Rule.demands general guarded formats messages value) :
    demand.Within (Rule.rulesInside general guarded) value := by
  rcases Rule.mem_demands asked with rfl | ⟨check, isCheck, ofCheck⟩
  · trivial
  · apply (Check.demands_within ofCheck).mono
    intro rule inside
    exact List.mem_flatMap.mpr ⟨check, isCheck, inside⟩

/-! ### Findings of rules -/

/-- What a value at some place is found to lack by a rule. The slots in `here` are being checked at
this very place; one of them entered again asks for nothing. -/
def Findings.ofRule (table : Array Rule) :
    Nat → List String → List Nat → Rule → Json → Findings
  | 0, _, _, _, _ => none
  | budget + 1, tokens, here, rule, value =>
      match rule with
      | .free => some []
      | .slot slot =>
          if slot ∈ here then some []
          else
            match table[slot]? with
            | none => some []
            | some body => Findings.ofRule table budget tokens (slot :: here) body value
      | .checks general guarded formats messages =>
          Demand.findingsOf (fun rule => Findings.ofRule table budget tokens here rule value)
            (fun token part rule => Findings.ofRule table budget (token :: tokens) [] rule part)
            tokens (Rule.demands general guarded formats messages value)

end JsonSchema
