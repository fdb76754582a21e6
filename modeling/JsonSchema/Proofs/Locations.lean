import JsonSchema.Proofs.Distinct

set_option autoImplicit false

/-! Locations in a value: the steps from the whole to a part, by the keys of objects and the indices of
arrays. A value has at most one part behind a step, and a part can be put there. -/

namespace JsonSchema

inductive Step where
  | member (name : String)
  | element (index : Nat)
deriving DecidableEq

namespace Json

def part? (step : Step) (value : Json) : Option Json :=
  match step, value with
  | .member name, .object members => members.lookup name
  | .element index, .array elements => elements[index]?
  | _, _ => none

def at? (value : Json) : List Step → Option Json
  | [] => some value
  | step :: rest => (value.part? step).bind fun part => part.at? rest

/-- Puts a part behind a step, in place of the one there. A key without a member comes last; an element
beyond the end stands behind nulls. -/
def put (step : Step) (value part : Json) : Json :=
  match step, value with
  | .member name, .object members => .object (Entries.insert members name part)
  | .element index, .array elements =>
      if index < elements.length then .array (elements.set index part)
      else .array (elements ++ List.replicate (index - elements.length) .null ++ [part])
  | _, value => value

@[simp] theorem at?_append (value : Json) (front back : List Step) :
    value.at? (front ++ back) = (value.at? front).bind fun part => part.at? back := by
  induction front generalizing value with
  | nil => rfl
  | cons step rest ih =>
      rw [List.cons_append, at?, at?, Option.bind_assoc]
      exact Option.bind_congr fun part _ => ih part

theorem member_of_part? {name : String} {value part : Json}
    (found : value.part? (.member name) = some part) :
    ∃ members, value = .object members ∧ members.lookup name = some part := by
  cases value with
  | object members => exact ⟨members, rfl, found⟩
  | _ => cases found

theorem element_of_part? {index : Nat} {value part : Json}
    (found : value.part? (.element index) = some part) :
    ∃ elements, value = .array elements ∧ elements[index]? = some part := by
  cases value with
  | array elements => exact ⟨elements, rfl, found⟩
  | _ => cases found

theorem Part.of_part? {step : Step} {value part : Json} (found : value.part? step = some part) :
    ∃ token, value.Part token part := by
  unfold part? at found
  split at found
  next name members => exact ⟨name, .member rfl (Entries.mem_of_lookup found)⟩
  next index elements => exact ⟨toString index, .element rfl found⟩
  next => cases found

def takes (step : Step) (value : Json) : Bool :=
  match step with
  | .member _ => value.members?.isSome
  | .element _ => value.elements?.isSome

/-- What is put somewhere is there, as long as there is a place for it. -/
theorem part?_put {step : Step} {value : Json} (part : Json) (takes : value.takes step = true) :
    (value.put step part).part? step = some part := by
  cases step with
  | member name =>
      cases value with
      | object members =>
          simp [put, part?]
      | _ => cases takes
  | element index =>
      cases value with
      | array elements =>
          unfold put
          dsimp only
          split
          next inside => exact List.getElem?_set_self inside
          next beyond =>
            have last : (elements ++ List.replicate (index - elements.length) Json.null).length =
                index := by
              rw [List.length_append, List.length_replicate]
              omega
            rw [part?, List.getElem?_append_right (by omega), last, Nat.sub_self]
            rfl
      | _ => cases takes

/-! ### Distinct keys -/

@[simp] theorem elementsDistinct_iff {elements : List Json} :
    elementsDistinct elements = true ↔ ∀ element ∈ elements, element.keysDistinct = true := by
  constructor
  · intro distinct element member
    exact keysDistinct_of_mem_elements distinct member
  · intro each
    induction elements with
    | nil => rfl
    | cons first rest ih =>
        obtain ⟨atFirst, atRest⟩ := List.forall_mem_cons.mp each
        exact Bool.and_eq_true_iff.mpr ⟨atFirst, ih atRest⟩

@[simp] theorem membersDistinct_iff {members : List (String × Json)} :
    membersDistinct members = true ↔ ∀ member ∈ members, member.2.keysDistinct = true := by
  constructor
  · intro distinct member isMember
    exact keysDistinct_of_mem_members distinct isMember
  · intro each
    induction members with
    | nil => rfl
    | cons first rest ih =>
        obtain ⟨atFirst, atRest⟩ := List.forall_mem_cons.mp each
        exact Bool.and_eq_true_iff.mpr ⟨atFirst, ih atRest⟩

@[simp] theorem keysDistinct_object_iff {members : List (String × Json)} :
    (object members).keysDistinct = true ↔
      (Entries.names members).Nodup ∧ ∀ member ∈ members, member.2.keysDistinct = true := by
  simp [keysDistinct]

theorem keysDistinct_of_part? {step : Step} {value part : Json}
    (distinct : value.keysDistinct = true) (found : value.part? step = some part) :
    part.keysDistinct = true := by
  obtain ⟨token, isPart⟩ := Part.of_part? found
  exact isPart.keysDistinct distinct

theorem keysDistinct_put {step : Step} {value part : Json} (distinct : value.keysDistinct = true)
    (ofPart : part.keysDistinct = true) : (value.put step part).keysDistinct = true := by
  unfold put
  split
  next name members =>
    obtain ⟨names, each⟩ := keysDistinct_object_iff.mp distinct
    refine keysDistinct_object_iff.mpr ⟨Entries.nodup_names_insert names name part, ?_⟩
    intro member isMember
    rcases Entries.mem_insert isMember with rfl | ⟨_, old⟩
    · exact ofPart
    · exact each member old
  next index elements =>
    have each := elementsDistinct_iff.mp distinct
    split
    next =>
      apply elementsDistinct_iff.mpr
      intro element member
      rcases List.mem_or_eq_of_mem_set member with old | rfl
      · exact each element old
      · exact ofPart
    next =>
      apply elementsDistinct_iff.mpr
      intro element member
      rcases List.mem_append.mp member with before | last
      · rcases List.mem_append.mp before with old | padding
        · exact each element old
        · rw [List.eq_of_mem_replicate padding]
          rfl
      · rw [List.mem_singleton.mp last]
        exact ofPart
  next => exact distinct

end Json

end JsonSchema
