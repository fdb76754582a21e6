import JsonSchema.Proofs.Checking.Demand

set_option autoImplicit false

/-! What it is for a value to meet a rule, without a run of a checker. Which references hold at which
places is taken as given, so that meeting a rule is a matter of the rule and the value alone. -/

namespace JsonSchema

/-- A place in a value: the way to it from the root, innermost token first, and what stands there. -/
structure Place where
  tokens : List String
  value : Json

namespace Place

def below (place : Place) (token : String) (part : Json) : Place :=
  ⟨token :: place.tokens, part⟩

inductive Inside (root : Json) : Place → Prop where
  | whole : Inside root ⟨[], root⟩
  | part {place : Place} {token : String} {part : Json} (inside : Inside root place)
      (isPart : place.value.Part token part) : Inside root (place.below token part)

end Place

mutual

/-- A place meets a rule, where `holds` tells which slots are taken to hold at which places. -/
inductive Rule.Meets (holds : Nat → Place → Prop) : Place → Rule → Prop where
  | free {place : Place} : Rule.Meets holds place .free
  | slot {place : Place} {slot : Nat} (held : holds slot place) : Rule.Meets holds place (.slot slot)
  | checks {place : Place} {general : List Check} {guarded : List (Kind × List Check)}
      {formats : List FormatCheck} {messages : Messages}
      (always : ∀ check ∈ general, Check.Meets holds place check)
      (ofKind : ∀ kind group, (kind, group) ∈ guarded → kind.accepts place.value = true →
        ∀ check ∈ group, Check.Meets holds place check)
      (formatted : ∀ format ∈ formats, format.accepts place.value = true) :
      Rule.Meets holds place (.checks general guarded formats messages)

inductive Check.Meets (holds : Nat → Place → Prop) : Place → Check → Prop where
  | plain {place : Place} {check : Check} (isPlain : check.isPlain = true)
      (passes : check.fails place.value = false) : Check.Meets holds place check
  | items {place : Place} {each : Rule}
      (keep : ∀ (index : Nat) (part : Json), (place.value.elements?.getD [])[index]? = some part →
        Rule.Meets holds (place.below (toString index) part) each) :
      Check.Meets holds place (.items each)
  | tuple {place : Place} {declared : List Rule} {additional : Option Rule}
      (keep : ∀ (index : Nat) (rule : Rule) (part : Json), declared[index]? = some rule →
        (place.value.elements?.getD [])[index]? = some part →
        Rule.Meets holds (place.below (toString index) part) rule)
      (others : ∀ (rule : Rule), additional = some rule → ∀ (index : Nat) (part : Json),
        declared.length ≤ index → (place.value.elements?.getD [])[index]? = some part →
        Rule.Meets holds (place.below (toString index) part) rule) :
      Check.Meets holds place (.tuple declared additional)
  | required {place : Place} {names : List String}
      (present : ∀ members, place.value.members? = some members →
        ∀ name ∈ names, Entries.hasKey members name = true) :
      Check.Meets holds place (.required names)
  | properties {place : Place} {declared : List (String × Rule)}
      (keep : ∀ (name : String) (rule : Rule) (part : Json), (name, rule) ∈ declared →
        (place.value.members?.getD []).lookup name = some part →
        Rule.Meets holds (place.below name part) rule) :
      Check.Meets holds place (.properties declared)
  | members {place : Place} {declared : List (String × Rule)} {patterns : List (Regex × Rule)}
      {additional : Additional}
      (keep : ∀ (name : String) (part : Json) (rule : Rule),
        (name, part) ∈ place.value.members?.getD [] →
        rule ∈ Checker.rulesFor declared patterns name →
        Rule.Meets holds (place.below name part) rule)
      (others : ∀ (name : String) (part : Json), (name, part) ∈ place.value.members?.getD [] →
        Checker.rulesFor declared patterns name = [] →
        Additional.Meets holds (place.below name part) additional) :
      Check.Meets holds place (.members declared patterns additional)
  | dependencies {place : Place} {entries : List (String × Dependency)}
      (keep : ∀ (name : String) (dependency : Dependency), (name, dependency) ∈ entries →
        Entries.hasKey (place.value.members?.getD []) name = true →
        Dependency.Meets holds place dependency) :
      Check.Meets holds place (.dependencies entries)
  | allOf {place : Place} {branches : List Rule}
      (keep : ∀ branch ∈ branches, Rule.Meets holds place branch) :
      Check.Meets holds place (.allOf branches)
  | anyOf {place : Place} {branches : List Rule} {branch : Rule} (isBranch : branch ∈ branches)
      (keep : Rule.Meets holds place branch) : Check.Meets holds place (.anyOf branches)

inductive Additional.Meets (holds : Nat → Place → Prop) : Place → Additional → Prop where
  | allowed {place : Place} : Additional.Meets holds place .allowed
  | rule {place : Place} {rule : Rule} (keep : Rule.Meets holds place rule) :
      Additional.Meets holds place (.rule rule)

inductive Dependency.Meets (holds : Nat → Place → Prop) : Place → Dependency → Prop where
  | names {place : Place} {names : List String}
      (present : ∀ name ∈ names, Entries.hasKey (place.value.members?.getD []) name = true) :
      Dependency.Meets holds place (.names names)
  | rule {place : Place} {rule : Rule} (keep : Rule.Meets holds place rule) :
      Dependency.Meets holds place (.rule rule)

end

/-! ### Meeting more -/

mutual

/-- What a place meets it still meets when more references are taken to hold. -/
theorem Rule.Meets.mono {fewer more : Nat → Place → Prop}
    (stronger : ∀ slot place, fewer slot place → more slot place) {place : Place} {rule : Rule}
    (meets : Rule.Meets fewer place rule) : Rule.Meets more place rule :=
  match meets with
  | .free => .free
  | .slot held => .slot (stronger _ _ held)
  | .checks always ofKind formatted => by
      refine .checks ?_ ?_ formatted
      · intro check member
        exact (always check member).mono stronger
      · intro kind group member accepted check inGroup
        exact (ofKind kind group member accepted check inGroup).mono stronger

theorem Check.Meets.mono {fewer more : Nat → Place → Prop}
    (stronger : ∀ slot place, fewer slot place → more slot place) {place : Place} {check : Check}
    (meets : Check.Meets fewer place check) : Check.Meets more place check :=
  match meets with
  | .plain isPlain passes => .plain isPlain passes
  | .items keep => .items fun index part found => (keep index part found).mono stronger
  | .tuple keep others => by
      refine .tuple ?_ ?_
      · intro index rule part atRule found
        exact (keep index rule part atRule found).mono stronger
      · intro rule isAdditional index part behind found
        exact (others rule isAdditional index part behind found).mono stronger
  | .required present => .required present
  | .properties keep => by
      refine .properties ?_
      intro name rule part isDeclared found
      exact (keep name rule part isDeclared found).mono stronger
  | .members keep others => by
      refine .members ?_ ?_
      · intro name part rule found isRule
        exact (keep name part rule found isRule).mono stronger
      · intro name part found noRule
        exact (others name part found noRule).mono stronger
  | .dependencies keep => by
      refine .dependencies ?_
      intro name dependency isEntry present
      exact (keep name dependency isEntry present).mono stronger
  | .allOf keep => .allOf fun branch isBranch => (keep branch isBranch).mono stronger
  | .anyOf isBranch keep => .anyOf isBranch (keep.mono stronger)

theorem Additional.Meets.mono {fewer more : Nat → Place → Prop}
    (stronger : ∀ slot place, fewer slot place → more slot place) {place : Place}
    {additional : Additional} (meets : Additional.Meets fewer place additional) :
    Additional.Meets more place additional :=
  match meets with
  | .allowed => .allowed
  | .rule keep => .rule (keep.mono stronger)

theorem Dependency.Meets.mono {fewer more : Nat → Place → Prop}
    (stronger : ∀ slot place, fewer slot place → more slot place) {place : Place}
    {dependency : Dependency} (meets : Dependency.Meets fewer place dependency) :
    Dependency.Meets more place dependency :=
  match meets with
  | .names present => .names present
  | .rule keep => .rule (keep.mono stronger)

end

/-! ### Meeting a rule is meeting its demands -/

/-- A combinator other than `anyOf` is never counted as met. -/
def Demand.Met (holds : Nat → Place → Prop) (place : Place) : Demand Rule → Prop
  | .failure _ _ _ => False
  | .same rule => Rule.Meets holds place rule
  | .inner token part rule => Rule.Meets holds (place.below token part) rule
  | .choice .any _ branches => ∃ branch ∈ branches, Rule.Meets holds place branch
  | .choice _ _ _ => False

theorem Additional.Meets.met {holds : Nat → Place → Prop} {place : Place} {messages : Messages}
    {name : String} {part : Json} {additional : Additional}
    (meets : Additional.Meets holds (place.below name part) additional) :
    ∀ demand ∈ additional.demands messages name part, demand.Met holds place := by
  intro demand asked
  cases meets with
  | allowed => cases asked
  | rule keep =>
      rw [List.mem_singleton.mp asked]
      exact keep

theorem Additional.meets_of_met {holds : Nat → Place → Prop} {place : Place}
    {messages : Messages} {name : String} {part : Json} {additional : Additional}
    (met : ∀ demand ∈ additional.demands messages name part, demand.Met holds place) :
    Additional.Meets holds (place.below name part) additional := by
  cases additional with
  | allowed => exact .allowed
  | forbidden => exact (met _ List.mem_cons_self).elim
  | rule rule => exact .rule (met _ List.mem_cons_self)

theorem Dependency.Meets.met {holds : Nat → Place → Prop} {place : Place} {messages : Messages}
    {dependency : Dependency} (meets : Dependency.Meets holds place dependency) :
    ∀ demand ∈ dependency.demands messages (place.value.members?.getD []),
      demand.Met holds place := by
  intro demand asked
  cases meets with
  | names present =>
      obtain ⟨name, isName, absent, rfl⟩ := Demand.mem_ofNames.mp asked
      rw [present name isName] at absent
      cases absent
  | rule keep =>
      rw [List.mem_singleton.mp asked]
      exact keep

theorem Dependency.meets_of_met {holds : Nat → Place → Prop} {place : Place}
    {messages : Messages} {dependency : Dependency}
    (met : ∀ demand ∈ dependency.demands messages (place.value.members?.getD []),
      demand.Met holds place) : Dependency.Meets holds place dependency := by
  cases dependency with
  | names names =>
      refine .names ?_
      intro name isName
      cases present : Entries.hasKey (place.value.members?.getD []) name with
      | true => rfl
      | false => exact (met _ (Demand.mem_ofNames.mpr ⟨name, isName, present, rfl⟩)).elim
  | rule rule => exact .rule (met _ List.mem_cons_self)

theorem Check.Meets.met {holds : Nat → Place → Prop} {place : Place} {messages : Messages}
    {check : Check} (meets : Check.Meets holds place check) :
    ∀ demand ∈ check.demands messages place.value, demand.Met holds place := by
  intro demand asked
  cases meets with
  | plain isPlain passes =>
      rw [Check.demands_of_isPlain isPlain] at asked
      rw [(Demand.mem_failIf.mp asked).1] at passes
      cases passes
  | items keep =>
      obtain ⟨index, part, found, rfl⟩ := Demand.mem_ofElements.mp asked
      rw [Nat.zero_add]
      exact keep index part found
  | tuple keep others =>
      rcases List.mem_append.mp asked with atPosition | atRest
      · obtain ⟨index, rule, part, atRule, found, rfl⟩ := Demand.mem_ofPositions.mp atPosition
        exact keep index rule part atRule found
      · obtain ⟨rule, isAdditional, inside⟩ := List.mem_flatMap.mp atRest
        obtain ⟨index, part, found, rfl⟩ := Demand.mem_ofElements.mp inside
        rw [List.getElem?_drop] at found
        exact others rule (Option.mem_toList.mp isAdditional) _ part (Nat.le_add_right _ _) found
  | required present =>
      obtain ⟨name, isName, absent, rfl⟩ := Demand.mem_ofNames.mp asked
      cases value : place.value with
      | object members =>
          rw [value] at isName absent
          rw [Json.members?, Option.getD_some, present members (by rw [value]; rfl) name isName]
            at absent
          cases absent
      | _ =>
          rw [value] at isName
          cases isName
  | properties keep =>
      obtain ⟨name, rule, part, isDeclared, found, rfl⟩ := Demand.mem_ofDeclared.mp asked
      exact keep name rule part isDeclared found
  | members keep others =>
      obtain ⟨name, part, found, ⟨noRule, inside⟩ | ⟨rule, isRule, rfl⟩⟩ :=
        Demand.mem_ofMembers.mp asked
      · exact (others name part found noRule).met demand inside
      · exact keep name part rule found isRule
  | dependencies keep =>
      obtain ⟨name, dependency, isEntry, present, inside⟩ := Demand.mem_ofPresent.mp asked
      exact (keep name dependency isEntry present).met demand inside
  | allOf keep =>
      obtain ⟨branch, isBranch, rfl⟩ := List.mem_map.mp asked
      exact keep branch isBranch
  | anyOf isBranch keep =>
      rw [List.mem_singleton.mp asked]
      exact ⟨_, isBranch, keep⟩

theorem Check.meets_of_met {holds : Nat → Place → Prop} {place : Place} (messages : Messages)
    {check : Check} (met : ∀ demand ∈ check.demands messages place.value, demand.Met holds place) :
    Check.Meets holds place check := by
  cases check with
  | items each =>
      refine .items ?_
      intro index part found
      have kept := met _ (Demand.mem_ofElements.mpr ⟨index, part, found, rfl⟩)
      rwa [Nat.zero_add] at kept
  | tuple declared additional =>
      refine .tuple ?_ ?_
      · intro index rule part atRule found
        exact met _ (List.mem_append_left _
          (Demand.mem_ofPositions.mpr ⟨index, rule, part, atRule, found, rfl⟩))
      · intro rule isAdditional index part behind found
        have atDropped : ((place.value.elements?.getD []).drop declared.length)[
            index - declared.length]? = some part := by
          rw [List.getElem?_drop, Nat.add_sub_cancel' behind]
          exact found
        have kept := met _ (List.mem_append_right _ (List.mem_flatMap.mpr
          ⟨rule, Option.mem_toList.mpr isAdditional,
            Demand.mem_ofElements.mpr ⟨_, part, atDropped, rfl⟩⟩))
        rwa [Nat.add_sub_cancel' behind] at kept
  | required names =>
      refine .required ?_
      intro members isObject name isName
      cases present : Entries.hasKey members name with
      | true => rfl
      | false =>
          refine (met _ (Demand.mem_ofNames.mpr ⟨name, ?_, ?_, rfl⟩)).elim
          · cases value : place.value with
            | object inside => exact isName
            | _ =>
                rw [value] at isObject
                cases isObject
          · rwa [isObject]
  | properties declared =>
      refine .properties ?_
      intro name rule part isDeclared found
      exact met _ (Demand.mem_ofDeclared.mpr ⟨name, rule, part, isDeclared, found, rfl⟩)
  | members declared patterns additional =>
      refine .members ?_ ?_
      · intro name part rule found isRule
        exact met _ (Demand.mem_ofMembers.mpr ⟨name, part, found, .inr ⟨rule, isRule, rfl⟩⟩)
      · intro name part found noRule
        apply Additional.meets_of_met
        intro demand inside
        exact met demand (Demand.mem_ofMembers.mpr ⟨name, part, found, .inl ⟨noRule, inside⟩⟩)
  | dependencies entries =>
      refine .dependencies ?_
      intro name dependency isEntry present
      apply Dependency.meets_of_met
      intro demand inside
      exact met demand (Demand.mem_ofPresent.mpr ⟨name, dependency, isEntry, present, inside⟩)
  | allOf branches =>
      exact .allOf fun branch isBranch => met _ (List.mem_map.mpr ⟨branch, isBranch, rfl⟩)
  | anyOf branches =>
      obtain ⟨branch, isBranch, keep⟩ := met _ List.mem_cons_self
      exact .anyOf isBranch keep
  | oneOf branches => exact (met _ List.mem_cons_self).elim
  | not rule => exact (met _ List.mem_cons_self).elim
  | _ =>
      refine .plain rfl (Bool.eq_false_iff.mpr ?_)
      intro fails
      exact met _ (Demand.mem_failIf.mpr ⟨fails, rfl⟩)

/-- A place meets the checks of a node exactly if it meets every demand that they make of its value. -/
theorem Rule.meets_checks_iff {holds : Nat → Place → Prop} {place : Place}
    {general : List Check} {guarded : List (Kind × List Check)} {formats : List FormatCheck}
    {messages : Messages} :
    Rule.Meets holds place (.checks general guarded formats messages) ↔
      ∀ demand ∈ Rule.demands general guarded formats messages place.value,
        demand.Met holds place := by
  constructor
  · intro meets demand asked
    cases meets with
    | checks always ofKind formatted =>
        rcases List.mem_append.mp asked with asked | atFormat
        · rcases List.mem_append.mp asked with atGeneral | atGuarded
          · obtain ⟨check, isCheck, inside⟩ := List.mem_flatMap.mp atGeneral
            exact (always check isCheck).met demand inside
          · obtain ⟨⟨kind, group⟩, isGroup, inside⟩ := List.mem_flatMap.mp atGuarded
            dsimp only at inside
            split at inside
            next accepted =>
              obtain ⟨check, isCheck, asked⟩ := List.mem_flatMap.mp inside
              exact (ofKind kind group isGroup accepted check isCheck).met demand asked
            next => cases inside
        · obtain ⟨format, isFormat, inside⟩ := List.mem_flatMap.mp atFormat
          have fails := (Demand.mem_failIf.mp inside).1
          rw [formatted format isFormat] at fails
          cases fails
  · intro met
    refine .checks ?_ ?_ ?_
    · intro check isCheck
      apply Check.meets_of_met messages
      intro demand inside
      exact met demand (List.mem_append_left _
        (List.mem_append_left _ (List.mem_flatMap.mpr ⟨check, isCheck, inside⟩)))
    · intro kind group isGroup accepted check isCheck
      apply Check.meets_of_met messages
      intro demand inside
      refine met demand (List.mem_append_left _ (List.mem_append_right _
        (List.mem_flatMap.mpr ⟨(kind, group), isGroup, ?_⟩)))
      dsimp only
      rw [if_pos accepted]
      exact List.mem_flatMap.mpr ⟨check, isCheck, inside⟩
    · intro format isFormat
      cases accepted : format.accepts place.value with
      | true => rfl
      | false =>
          refine (met _ (List.mem_append_right _ (List.mem_flatMap.mpr
            ⟨format, isFormat, Demand.mem_failIf.mpr ⟨?_, rfl⟩⟩))).elim
          rw [accepted]
          rfl

end JsonSchema
