import JsonSchema.Proofs.Checking.Accepting
import JsonSchema.Proofs.Compiling.Traversal

set_option autoImplicit false

/-! What the keywords of a node demand, and what is so of a value that the node accepts. A well-typed
keyword that is limited to no kind, or to that of the value, makes its demands, wherever it stands among
the others; the three keywords about members make theirs together. -/

namespace JsonSchema

def Json.kind? : Json → Option Kind
  | .number _ => some .number
  | .string _ => some .string
  | .array _ => some .array
  | .object _ => some .object
  | _ => none

theorem Kind.accepts_eq (kind : Kind) (value : Json) :
    kind.accepts value = decide (value.kind? = some kind) := by
  cases value <;> cases kind <;> rfl

def Json.matchesPattern (schema : Json) (name : String) : Bool :=
  (((schema.field? "patternProperties").bind Json.members?).getD []).any fun pattern =>
    (Regex.ofString? pattern.1).any (·.matchesIn name)

namespace Interpreter

variable {interpreter : Interpreter} {members : List (String × Json)} {scope : Scope} {value : Json}
  {keyword : Keyword} {argument : Json} {ask : Json → List (Demand SchemaNode)}
  {demand : Demand SchemaNode}

def askedByKind (asks : List (Keyword × (Json → List (Demand SchemaNode)))) (value : Json)
    (kind : Option Kind) : List (Demand SchemaNode) :=
  (asks.filter fun ask => ask.1.kind? = kind).flatMap fun ask => ask.2 value

private theorem flatMap_accepted {kinds : List Kind} (distinct : kinds.Nodup) (value : Json)
    (asked : Kind → List (Demand SchemaNode)) :
    (kinds.flatMap fun kind => if kind.accepts value then asked kind else []) =
      value.kind?.toList.flatMap fun kind => if kind ∈ kinds then asked kind else [] := by
  induction kinds with
  | nil => cases value.kind? <;> rfl
  | cons first rest ih =>
      obtain ⟨notInRest, distinctRest⟩ := List.nodup_cons.mp distinct
      rw [List.flatMap_cons, ih distinctRest, Kind.accepts_eq]
      cases value.kind? with
      | none => rfl
      | some kind =>
          simp only [Option.toList_some, List.flatMap_singleton]
          by_cases isFirst : kind = first
          · subst isFirst
            simp [notInRest]
          · simp [isFirst]

/-- A value has one kind, so the order of the kinds is of no account. -/
theorem grouped_eq (asks : List (Keyword × (Json → List (Demand SchemaNode)))) (value : Json) :
    grouped asks value = askedByKind asks value none ++
      value.kind?.toList.flatMap fun kind => askedByKind asks value (some kind) := by
  unfold grouped
  dsimp only
  rw [flatMap_accepted (nodup_eraseDups _)]
  change askedByKind asks value none ++ _ = _
  congr 2
  funext kind
  split
  next => rfl
  next absent =>
    rw [List.mem_eraseDups, List.mem_filterMap] at absent
    symm
    unfold askedByKind
    rw [List.filter_eq_nil_iff.mpr, List.flatMap_nil]
    intro ask member ofKind
    exact absent ⟨ask, member, of_decide_eq_true ofKind⟩

private theorem mem_grouped {asks : List (Keyword × (Json → List (Demand SchemaNode)))}
    (isAsk : (keyword, ask) ∈ asks) (limited : keyword.kind? = none ∨ keyword.kind? = value.kind?)
    (asked : demand ∈ ask value) : demand ∈ grouped asks value := by
  have byKind : demand ∈ askedByKind asks value keyword.kind? := by
    refine List.mem_flatMap.mpr ⟨(keyword, ask), ?_, asked⟩
    simp [isAsk]
  rw [grouped_eq, List.mem_append]
  rcases limited with general | ofKind
  · left
    rwa [general] at byKind
  · rw [ofKind] at byKind
    cases kind : value.kind? with
    | none =>
        left
        rwa [kind] at byKind
    | some kind =>
        right
        simp_all

private theorem ask?_of_about {interpreter : Interpreter} {scope : Scope} {keyword : Keyword}
    (about : keyword.isAboutMembers = true) (argument : Json) :
    interpreter.ask? members scope keyword argument = askMembers? members scope := by
  cases keyword <;> first | rfl | cases about

theorem asked_about {interpreter : Interpreter} {scope : Scope} {keyword : Keyword}
    (about : keyword.isAboutMembers = true) (present : Entries.hasKey members keyword.name = true) :
    (members.lookup keyword.name).bind (interpreter.ask? members scope keyword) =
      askMembers? members scope := by
  obtain ⟨argument, found⟩ := Option.isSome_iff_exists.mp present
  rw [found, Option.bind_some, ask?_of_about about]

/-- What a keyword asks is asked by the keyword itself, or by the first of those about members. -/
theorem mem_asks (found : members.lookup keyword.name = some argument)
    (asks : interpreter.ask? members scope keyword argument = some ask) :
    ∃ leading, leading.kind? = keyword.kind? ∧
      (leading, ask) ∈ interpreter.asks members scope (keywords members) := by
  rw [← Compiler.keywordsOf_eq]
  rcases Compiler.exists_leading found with own | ⟨about, leading, isLeading, leadingAbout⟩
  · refine ⟨keyword, rfl, List.mem_filterMap.mpr ⟨keyword, own, ?_⟩⟩
    rw [found, Option.bind_some, asks]
    rfl
  · refine ⟨leading, ?_, List.mem_filterMap.mpr ⟨leading, isLeading, ?_⟩⟩
    · rw [Keyword.kind?_of_about leadingAbout, Keyword.kind?_of_about about]
    · have together : interpreter.ask? members scope keyword argument = askMembers? members scope :=
        ask?_of_about about argument
      rw [asked_about leadingAbout (Compiler.hasKey_of_mem_keywordsOf isLeading), ← together, asks]
      rfl

private theorem mem_demands (keyword : Keyword) (found : members.lookup keyword.name = some argument)
    (asks : interpreter.ask? members scope keyword argument = some ask)
    (limited : keyword.kind? = none ∨ keyword.kind? = value.kind?) (asked : demand ∈ ask value) :
    demand ∈ interpreter.demands members scope value := by
  obtain ⟨leading, sameKind, isAsk⟩ := mem_asks found asks
  rw [← sameKind] at limited
  exact List.mem_append_left _ (mem_grouped isAsk limited asked)

/-! ### The nodes that are asked -/

private theorem mem_of_nodesFor {declared patterns : List (String × Json)} {name : String}
    {node : SchemaNode} (isNode : node ∈ nodesFor scope declared patterns name) :
    node ∈ declared.map (fun entry => SchemaNode.mk entry.2 scope) ∨
      node ∈ patterns.map fun entry => SchemaNode.mk entry.2 scope := by
  obtain ⟨schema, isSchema, rfl⟩ := List.mem_map.mp isNode
  rcases List.mem_append.mp isSchema with atName | ofPattern
  · have found := Entries.mem_of_lookup (Option.mem_toList.mp atName)
    exact .inl (List.mem_map.mpr ⟨_, found, rfl⟩)
  · obtain ⟨pattern, isMatching, rfl⟩ := List.mem_map.mp ofPattern
    exact .inr (List.mem_map.mpr ⟨pattern, List.mem_of_mem_filter isMatching, rfl⟩)

private theorem within_of_askMembers (asks : askMembers? members scope = some ask)
    (asked : demand ∈ ask value) : demand.Within (Compiler.membersInside members scope) value := by
  unfold askMembers? at asks
  dsimp only at asks
  split at asks
  next =>
    split at asks
    next => cases asks
    next =>
      obtain rfl := Option.some.inj asks
      obtain ⟨name, node, part, declared, found, rfl⟩ := Demand.mem_ofDeclared.mp asked
      obtain ⟨entry, isEntry, same⟩ := List.mem_map.mp declared
      cases same
      refine ⟨List.mem_append_left _ ?_, .of_member (Entries.mem_of_lookup found)⟩
      exact List.mem_map.mpr ⟨entry, isEntry, rfl⟩
  next =>
    obtain rfl := Option.some.inj asks
    obtain ⟨name, part, isMember, ⟨_, ofOthers⟩ | ⟨node, isNode, rfl⟩⟩ :=
      Demand.mem_ofMembers.mp asked
    · unfold askOther at ofOthers
      split at ofOthers
      next =>
        rw [List.mem_singleton.mp ofOthers]
        trivial
      next others found =>
        rw [List.mem_singleton.mp ofOthers]
        refine ⟨List.mem_append_right _ (List.mem_append_right _ ?_), .of_member isMember⟩
        rw [found]
        exact List.mem_cons_self
      next => cases ofOthers
    · refine ⟨List.mem_append.mpr ?_, .of_member isMember⟩
      exact (mem_of_nodesFor isNode).imp_right (List.mem_append_left _)

private theorem within_of_askItems (asks : askItems? members scope argument = some ask)
    (asked : demand ∈ ask value) :
    demand.Within (Compiler.itemsInside members scope argument) value := by
  cases argument with
  | object each =>
      obtain rfl := Option.some.inj asks
      obtain ⟨index, part, atIndex, rfl⟩ := Demand.mem_ofElements.mp asked
      rw [Nat.zero_add]
      exact ⟨List.mem_cons_self, .of_element atIndex⟩
  | array tuple =>
      obtain rfl := Option.some.inj asks
      rcases List.mem_append.mp asked with atPosition | behind
      · obtain ⟨index, node, part, atNode, atIndex, rfl⟩ := Demand.mem_ofPositions.mp atPosition
        exact ⟨List.mem_append_left _ (List.mem_of_getElem? atNode), .of_element atIndex⟩
      · split at behind
        next others found =>
          obtain ⟨index, part, atIndex, rfl⟩ := Demand.mem_ofElements.mp behind
          rw [List.getElem?_drop] at atIndex
          refine ⟨List.mem_append_right _ ?_, .of_element atIndex⟩
          rw [found]
          exact List.mem_cons_self
        next => cases behind
  | _ => cases asks

/-- A keyword hands values to nothing but the nodes that are compiled for it. -/
theorem within_of_ask (asks : interpreter.ask? members scope keyword argument = some ask)
    (asked : demand ∈ ask value) :
    demand.Within (Compiler.keywordInside members scope keyword argument) value := by
  cases keyword with
  | items => exact within_of_askItems asks asked
  | properties | patternProperties | additionalProperties => exact within_of_askMembers asks asked
  | required =>
      obtain ⟨names, _, rfl⟩ := Option.map_eq_some_iff.mp asks
      obtain ⟨name, _, _, rfl⟩ := Demand.mem_ofNames.mp asked
      trivial
  | dependencies =>
      obtain ⟨entries, isObject, rfl⟩ := Option.map_eq_some_iff.mp asks
      obtain ⟨name, dependency, isEntry, _, ofEntry⟩ := Demand.mem_ofPresent.mp asked
      unfold Compiler.keywordInside
      rw [isObject]
      cases dependency with
      | object whole =>
          rw [List.mem_singleton.mp ofEntry]
          exact List.mem_flatMap.mpr ⟨_, isEntry, List.mem_cons_self⟩
      | array names =>
          obtain ⟨missing, _, _, rfl⟩ := Demand.mem_ofNames.mp ofEntry
          trivial
      | _ => cases ofEntry
  | allOf =>
      obtain ⟨branches, isArray, rfl⟩ := Option.map_eq_some_iff.mp asks
      obtain ⟨branch, isBranch, rfl⟩ := List.mem_map.mp asked
      unfold Compiler.keywordInside
      rw [isArray]
      exact List.mem_map.mpr ⟨branch, isBranch, rfl⟩
  | anyOf | oneOf =>
      obtain ⟨branches, isArray, rfl⟩ := Option.map_eq_some_iff.mp asks
      rw [List.mem_singleton.mp asked]
      unfold Compiler.keywordInside
      rw [isArray]
      exact fun branch isBranch => isBranch
  | not =>
      obtain ⟨inside, isObject, rfl⟩ := Option.map_eq_some_iff.mp asks
      rw [List.mem_singleton.mp asked]
      obtain rfl := Json.members?_eq_some_iff.mp isObject
      exact fun branch isBranch => isBranch
  | _ =>
      obtain ⟨fails, _, rfl⟩ := Option.map_eq_some_iff.mp asks
      rw [(Demand.mem_failIf.mp asked).2]
      trivial

private theorem mem_of_grouped {asks : List (Keyword × (Json → List (Demand SchemaNode)))}
    (asked : demand ∈ grouped asks value) :
    ∃ keyword ask, (keyword, ask) ∈ asks ∧ demand ∈ ask value := by
  have ofKind {kind : Option Kind} (byKind : demand ∈ askedByKind asks value kind) :
      ∃ keyword ask, (keyword, ask) ∈ asks ∧ demand ∈ ask value := by
    obtain ⟨⟨keyword, ask⟩, isAsk, inside⟩ := List.mem_flatMap.mp byKind
    exact ⟨keyword, ask, List.mem_of_mem_filter isAsk, inside⟩
  rw [grouped_eq, List.mem_append] at asked
  rcases asked with general | guarded
  · exact ofKind general
  · obtain ⟨kind, _, byKind⟩ := List.mem_flatMap.mp guarded
    exact ofKind byKind

/-- A node hands values to nothing but the nodes that are compiled inside it. -/
theorem demands_within (asked : demand ∈ interpreter.demands members scope value) :
    demand.Within (Compiler.nodesInside members scope) value := by
  rcases List.mem_append.mp asked with ofKeyword | ofFormat
  · obtain ⟨keyword, ask, isAsk, inside⟩ := mem_of_grouped ofKeyword
    obtain ⟨_, isKeyword, asks⟩ := List.mem_filterMap.mp isAsk
    obtain ⟨_, asks, same⟩ := Option.map_eq_some_iff.mp asks
    cases same
    obtain ⟨argument, found, asks⟩ := Option.bind_eq_some_iff.mp asks
    apply (within_of_ask asks inside).mono
    intro node isInside
    rw [← Compiler.keywordsOf_eq] at isKeyword
    refine List.mem_flatMap.mpr ⟨keyword, isKeyword, ?_⟩
    rwa [found]
  · unfold askFormat at ofFormat
    split at ofFormat
    next =>
      obtain ⟨format, _, inside⟩ := List.mem_flatMap.mp ofFormat
      rw [(Demand.mem_failIf.mp inside).2]
      trivial
    next => cases ofFormat

/-! ### The keywords with nodes inside -/

theorem branch_demanded {branches : List Json} {branch : Json}
    (found : members.lookup "allOf" = some (.array branches)) (isBranch : branch ∈ branches)
    (value : Json) : .same ⟨branch, scope⟩ ∈ interpreter.demands members scope value :=
  mem_demands .allOf found rfl (.inl rfl) (List.mem_map.mpr ⟨branch, isBranch, rfl⟩)

section Elements

variable {elements : List Json} {index : Nat} {part : Json} (atIndex : elements[index]? = some part)

include atIndex

theorem each_demanded {each : List (String × Json)}
    (found : members.lookup "items" = some (.object each)) :
    .inner (toString index) part ⟨.object each, scope⟩ ∈
      interpreter.demands members scope (.array elements) := by
  refine mem_demands .items found rfl (.inr rfl) ?_
  refine Demand.mem_ofElements.mpr ⟨index, part, atIndex, ?_⟩
  rw [Nat.zero_add]

theorem position_demanded {tuple : List Json} {item : Json}
    (found : members.lookup "items" = some (.array tuple)) (isItem : tuple[index]? = some item) :
    .inner (toString index) part ⟨item, scope⟩ ∈
      interpreter.demands members scope (.array elements) := by
  refine mem_demands .items found rfl (.inr rfl) (List.mem_append_left _ ?_)
  refine Demand.mem_ofPositions.mpr ⟨index, ⟨item, scope⟩, part, ?_, atIndex, rfl⟩
  rw [List.getElem?_map, isItem]
  rfl

theorem additional_demanded {tuple : List Json} {others : List (String × Json)}
    (found : members.lookup "items" = some (.array tuple))
    (additional : members.lookup "additionalItems" = some (.object others))
    (beyond : tuple.length ≤ index) :
    .inner (toString index) part ⟨.object others, scope⟩ ∈
      interpreter.demands members scope (.array elements) := by
  refine mem_demands .items found rfl (.inr rfl) (List.mem_append_right _ ?_)
  rw [additional]
  refine Demand.mem_ofElements.mpr ⟨index - tuple.length, part, ?_, ?_⟩
  · have same : tuple.length + (index - tuple.length) = index := by omega
    rw [List.getElem?_drop, same]
    exact atIndex
  · rw [Nat.add_sub_cancel' beyond]

end Elements

section Members

variable {inside properties : List (String × Json)} {name : String} {part : Json}

private theorem asked_of_property (scope : Scope) {property : Json} (found : inside.lookup name = some part)
    (declared : members.lookup "properties" = some (.object properties))
    (isProperty : properties.lookup name = some property) :
    ∃ ask, askMembers? members scope = some ask ∧
      .inner name part ⟨property, scope⟩ ∈ ask (.object inside) := by
  have isMember := Entries.mem_of_lookup isProperty
  have notEmpty : properties.isEmpty = false := by
    cases properties with
    | nil => cases isMember
    | cons first rest => rfl
  unfold askMembers?
  rw [declared]
  dsimp only [Option.bind_some, Json.members?, Option.getD_some]
  rw [notEmpty]
  split
  next =>
    refine ⟨_, rfl, Demand.mem_ofDeclared.mpr ⟨name, ⟨property, scope⟩, part, ?_, found, rfl⟩⟩
    exact List.mem_map.mpr ⟨(name, property), isMember, rfl⟩
  next =>
    refine ⟨_, rfl, Demand.mem_ofMembers.mpr ⟨name, part, Entries.mem_of_lookup found, .inr ?_⟩⟩
    refine ⟨⟨property, scope⟩, ?_, rfl⟩
    unfold nodesFor
    rw [isProperty]
    exact List.mem_cons_self

theorem property_demanded {property : Json} (found : inside.lookup name = some part)
    (declared : members.lookup "properties" = some (.object properties))
    (isProperty : properties.lookup name = some property) :
    .inner name part ⟨property, scope⟩ ∈ interpreter.demands members scope (.object inside) := by
  obtain ⟨ask, asks, asked⟩ := asked_of_property scope found declared isProperty
  exact mem_demands .properties declared asks (.inr rfl) asked

/-- A node that closes an object demands that the members it does not declare match a pattern. -/
theorem undeclared_demanded (found : inside.lookup name = some part)
    (closed : members.lookup "additionalProperties" = some (.bool false))
    (undeclared :
      (((members.lookup "properties").bind Json.members?).getD []).lookup name = none)
    (noPattern : (Json.object members).matchesPattern name = false) :
    .failure .additionalProperties none (message members .additionalProperties none) ∈
      interpreter.demands members scope (.object inside) := by
  have asks : interpreter.ask? members scope .additionalProperties (.bool false) =
      some fun value => Demand.ofMembers
        (nodesFor scope (((members.lookup "properties").bind Json.members?).getD [])
          (((members.lookup "patternProperties").bind Json.members?).getD []))
        (askOther members scope (members.lookup "additionalProperties"))
        (value.members?.getD []) := by
    change askMembers? members scope = _
    unfold askMembers?
    rw [closed]
    simp [Compiler.limitsAdditional]
  refine mem_demands .additionalProperties closed asks (.inr rfl) ?_
  refine Demand.mem_ofMembers.mpr ⟨name, part, Entries.mem_of_lookup found, .inl ⟨?_, ?_⟩⟩
  · unfold Json.matchesPattern at noPattern
    rw [List.any_eq_false] at noPattern
    unfold nodesFor
    rw [undeclared]
    simpa [Json.field?] using noPattern
  · rw [closed]
    exact List.mem_cons_self

end Members

/-! ### Accepted values -/

/-- A node accepts a value when a rule that stands for the node does. -/
def Accepts (interpreter : Interpreter) (slots : Array Slot) (node : SchemaNode) (value : Json) :
    Prop :=
  ∃ depth rule, interpreter.Represents slots depth node rule ∧ rule.Accepts (bodies slots) value

variable {slots : Array Slot}

theorem Accepts.resolve {node : SchemaNode} {target : Json} {targetScope : Scope}
    (accepts : interpreter.Accepts slots node value) (filled : interpreter.Filled slots)
    (resolved : interpreter.documents.resolve node.schema node.scope =
      .ok (some (target, targetScope))) :
    interpreter.Accepts slots ⟨target, targetScope⟩ value := by
  obtain ⟨schema, scope⟩ := node
  cases atReference : schema.field? "$ref" with
  | none =>
      rw [Documents.resolve_eq_self atReference] at resolved
      cases resolved
      exact accepts
  | some reference =>
      cases schema with
      | object members =>
          obtain ⟨depth, rule, represents, accepted⟩ := accepts
          cases depth with
          | zero => exact represents.elim
          | succ depth =>
              change members.lookup "$ref" = some reference at atReference
              rw [Represents] at represents
              dsimp only at represents
              rw [atReference] at represents
              obtain ⟨index, slot, atIndex, rfl, rfl, rfl⟩ := represents
              obtain ⟨body, isFilled, fits⟩ := filled index slot atIndex
              have atNode : (Json.object members).field? "$ref" = some (.string slot.reference) :=
                atReference
              have same := interpreter.documents.resolve_congr atNode slot.field?_node slot.scope
              unfold Fits at fits
              rw [← same, resolved] at fits
              obtain ⟨targetDepth, stands⟩ := fits
              have inSlot := accepted.of_slot
              unfold Rule.ofSlot at inSlot
              rw [getElem?_bodies atIndex isFilled] at inSlot
              exact ⟨targetDepth, body, stands, inSlot⟩
      | _ => cases atReference

section Demands

variable (accepts : interpreter.Accepts slots ⟨.object members, scope⟩ value)
  (noReference : members.lookup "$ref" = none)

include accepts noReference

/-- To each demand of a node corresponds one of a rule that accepts the value. -/
theorem Accepts.demanded (asked : demand ∈ interpreter.demands members scope value) :
    ∃ depth general guarded formats messages, ∃ counterpart ∈
        Rule.demands general guarded formats messages value,
      Demand.Alike (interpreter.Represents slots depth) demand counterpart ∧
        (Rule.checks general guarded formats messages).Accepts (bodies slots) value := by
  obtain ⟨depth, rule, represents, accepted⟩ := accepts
  cases depth with
  | zero => exact represents.elim
  | succ depth =>
      rw [Represents] at represents
      dsimp only at represents
      rw [noReference] at represents
      obtain ⟨general, guarded, formats, messages, rfl, alike⟩ := represents
      obtain ⟨counterpart, member, same⟩ := (Shuffled.of_forall₂ (alike value)).exists_right asked
      exact ⟨depth, general, guarded, formats, messages, counterpart, member, same, accepted⟩

theorem Accepts.same {inside : SchemaNode}
    (asked : .same inside ∈ interpreter.demands members scope value) :
    interpreter.Accepts slots inside value := by
  obtain ⟨depth, _, _, _, _, _, member, alike, accepted⟩ := accepts.demanded noReference asked
  cases alike with
  | same stands => exact ⟨depth, _, stands, accepted.same member⟩

theorem Accepts.inner {token : String} {part : Json} {inside : SchemaNode}
    (asked : .inner token part inside ∈ interpreter.demands members scope value) :
    interpreter.Accepts slots inside part := by
  obtain ⟨depth, _, _, _, _, _, member, alike, accepted⟩ := accepts.demanded noReference asked
  cases alike with
  | inner equal stands =>
      subst equal
      exact ⟨depth, _, stands, accepted.inner member⟩

theorem Accepts.not_failure {keyword : Keyword} {property message : Option String} :
    .failure keyword property message ∉ interpreter.demands members scope value := by
  intro asked
  obtain ⟨_, _, _, _, _, _, member, alike, accepted⟩ := accepts.demanded noReference asked
  cases alike with
  | failure => exact accepted.not_failure member

end Demands

/-- A node that closes objects accepts a member that it does not declare only by a pattern. -/
theorem Accepts.matchesPattern {inside : List (String × Json)} {name : String} {part : Json}
    (accepts : interpreter.Accepts slots ⟨.object members, scope⟩ (.object inside))
    (noReference : members.lookup "$ref" = none) (found : inside.lookup name = some part)
    (closed : members.lookup "additionalProperties" = some (.bool false))
    (undeclared :
      (((members.lookup "properties").bind Json.members?).getD []).lookup name = none) :
    (Json.object members).matchesPattern name = true := by
  cases isMatch : (Json.object members).matchesPattern name with
  | true => rfl
  | false =>
      exact absurd (undeclared_demanded found closed undeclared isMatch)
        (accepts.not_failure noReference)

end Interpreter

end JsonSchema
