import Mathlib.Logic.Relation
import JsonSchema.Entries
import JsonSchema.Json
import JsonSchema.Proofs.Measures

set_option autoImplicit false

/-! Parts of values. A part is less deep and holds less than the whole. -/

namespace JsonSchema

namespace Entries

section Lookup

variable {Value : Type} {entries : List (String × Value)} {name : String} {value : Value}

theorem mem_of_lookup (found : entries.lookup name = some value) : (name, value) ∈ entries := by
  obtain ⟨before, after, split, _⟩ := List.lookup_eq_some_iff.mp found
  rw [split]
  exact List.mem_append_right before List.mem_cons_self

theorem exists_lookup (member : name ∈ names entries) : ∃ value, entries.lookup name = some value :=
  Option.isSome_iff_exists.mp ((hasKey_iff_mem_names entries name).mpr member)

theorem mem_names_of_lookup (found : entries.lookup name = some value) : name ∈ names entries :=
  (hasKey_iff_mem_names entries name).mp (Option.isSome_iff_exists.mpr ⟨value, found⟩)

end Lookup

end Entries

namespace Json

theorem depth_le_elementsDepth {elements : List Json} {element : Json} (member : element ∈ elements) :
    element.depth ≤ elementsDepth elements :=
  measure_le_total Nat.le_max_left Nat.le_max_right Json.depth (fun _ _ => elementsDepth.eq_2 _ _) member

theorem elementsDepth_le {elements : List Json} {bound : Nat}
    (bounded : ∀ element ∈ elements, element.depth ≤ bound) : elementsDepth elements ≤ bound := by
  induction elements with
  | nil => exact Nat.zero_le bound
  | cons first rest ih =>
      obtain ⟨atFirst, atRest⟩ := List.forall_mem_cons.mp bounded
      exact Nat.max_le.mpr ⟨atFirst, ih atRest⟩

theorem depth_le_membersDepth {members : List (String × Json)} {member : String × Json}
    (isMember : member ∈ members) : member.2.depth ≤ membersDepth members :=
  measure_le_total Nat.le_max_left Nat.le_max_right (fun entry => entry.2.depth)
    (fun _ _ => membersDepth.eq_2 _ _ _) isMember

private theorem weight_le_elementsWeight {elements : List Json} {element : Json}
    (member : element ∈ elements) : element.weight ≤ elementsWeight elements :=
  measure_le_total Nat.le_add_right (fun _ _ => Nat.le_add_left _ _) Json.weight
    (fun _ _ => elementsWeight.eq_2 _ _) member

theorem weight_le_membersWeight {members : List (String × Json)} {member : String × Json}
    (isMember : member ∈ members) : member.2.weight ≤ membersWeight members :=
  measure_le_total Nat.le_add_right (fun _ _ => Nat.le_add_left _ _) (fun entry => entry.2.weight)
    (fun _ _ => membersWeight.eq_2 _ _ _) isMember

inductive Part (value : Json) : String → Json → Prop where
  | element {elements : List Json} {index : Nat} {part : Json}
      (isArray : value.elements? = some elements) (found : elements[index]? = some part) :
      Part value (toString index) part
  | member {members : List (String × Json)} {name : String} {part : Json}
      (isObject : value.members? = some members) (found : (name, part) ∈ members) :
      Part value name part

namespace Part

variable {value part : Json} {token : String}

theorem of_element {index : Nat} (found : (value.elements?.getD [])[index]? = some part) :
    value.Part (toString index) part := by
  cases value with
  | array elements => exact .element rfl found
  | _ => simp [elements?] at found

theorem of_member {name : String} (found : (name, part) ∈ value.members?.getD []) :
    value.Part name part := by
  cases value with
  | object members => exact .member rfl found
  | _ => simp [members?] at found

theorem depth_lt (isPart : value.Part token part) : part.depth < value.depth := by
  cases isPart with
  | element isArray found =>
      obtain rfl := elements?_eq_some_iff.mp isArray
      exact Nat.lt_succ_of_le (depth_le_elementsDepth (List.mem_of_getElem? found))
  | member isObject found =>
      obtain rfl := members?_eq_some_iff.mp isObject
      exact Nat.lt_succ_of_le (depth_le_membersDepth found)

theorem weight_lt (isPart : value.Part token part) : part.weight < value.weight := by
  cases isPart with
  | element isArray found =>
      obtain rfl := elements?_eq_some_iff.mp isArray
      exact Nat.lt_succ_of_le (weight_le_elementsWeight (List.mem_of_getElem? found))
  | member isObject found =>
      obtain rfl := members?_eq_some_iff.mp isObject
      exact Nat.lt_succ_of_le (weight_le_membersWeight found)

end Part

/-- A value holds itself, its parts and all that these hold. -/
def Holds : (value inner : Json) → Prop :=
  Relation.ReflTransGen fun value part => ∃ token, value.Part token part

def HoldsInside : (value inner : Json) → Prop :=
  Relation.TransGen fun value part => ∃ token, value.Part token part

theorem Holds.weight_le {value inner : Json} (holds : value.Holds inner) :
    inner.weight ≤ value.weight := by
  induction holds with
  | refl => exact Nat.le_refl _
  | tail _ isPart ih =>
      obtain ⟨token, isPart⟩ := isPart
      exact Nat.le_trans (Nat.le_of_lt isPart.weight_lt) ih

theorem HoldsInside.weight_lt {value inner : Json} (holds : value.HoldsInside inner) :
    inner.weight < value.weight := by
  induction holds with
  | single isPart =>
      obtain ⟨token, isPart⟩ := isPart
      exact isPart.weight_lt
  | tail _ isPart ih =>
      obtain ⟨token, isPart⟩ := isPart
      exact Nat.lt_trans isPart.weight_lt ih

theorem object_of_field {value part : Json} {key : String} (found : value.field? key = some part) :
    ∃ members, value = .object members := by
  cases value with
  | object members => exact ⟨members, rfl⟩
  | _ => cases found

theorem Part.of_field {value part : Json} {key : String} (found : value.field? key = some part) :
    value.Part key part := by
  cases value with
  | object members => exact .member rfl (Entries.mem_of_lookup found)
  | _ => cases found

end Json

end JsonSchema
