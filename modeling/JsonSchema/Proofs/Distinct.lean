import JsonSchema.Documents
import JsonSchema.Proofs.Parts

set_option autoImplicit false

/-! Values in which every object holds each key once, as text that is read gives them. -/

namespace JsonSchema

mutual

def Json.keysDistinct : Json → Bool
  | .object members => decide (Entries.names members).Nodup && Json.membersDistinct members
  | .array elements => Json.elementsDistinct elements
  | _ => true

def Json.elementsDistinct : List Json → Bool
  | [] => true
  | element :: rest => element.keysDistinct && Json.elementsDistinct rest

def Json.membersDistinct : List (String × Json) → Bool
  | [] => true
  | (_, value) :: rest => value.keysDistinct && Json.membersDistinct rest

end

namespace Json

theorem keysDistinct_of_mem_elements {elements : List Json} {element : Json}
    (distinct : elementsDistinct elements = true) (member : element ∈ elements) :
    element.keysDistinct = true := by
  induction elements with
  | nil => cases member
  | cons first rest ih =>
      obtain ⟨atFirst, atRest⟩ := Bool.and_eq_true_iff.mp distinct
      rcases List.mem_cons.mp member with rfl | later
      · exact atFirst
      · exact ih atRest later

theorem keysDistinct_of_mem_members {members : List (String × Json)} {key : String} {value : Json}
    (distinct : membersDistinct members = true) (member : (key, value) ∈ members) :
    value.keysDistinct = true := by
  induction members with
  | nil => cases member
  | cons first rest ih =>
      obtain ⟨firstKey, firstValue⟩ := first
      obtain ⟨atFirst, atRest⟩ := Bool.and_eq_true_iff.mp distinct
      rcases List.mem_cons.mp member with isFirst | later
      · obtain ⟨rfl, rfl⟩ := Prod.mk.inj isFirst
        exact atFirst
      · exact ih atRest later

theorem Part.keysDistinct {value part : Json} {token : String} (isPart : value.Part token part)
    (distinct : value.keysDistinct = true) : part.keysDistinct = true := by
  cases isPart with
  | element isArray found =>
      obtain rfl := elements?_eq_some_iff.mp isArray
      exact keysDistinct_of_mem_elements distinct (List.mem_of_getElem? found)
  | member isObject found =>
      obtain rfl := members?_eq_some_iff.mp isObject
      exact keysDistinct_of_mem_members (Bool.and_eq_true_iff.mp distinct).2 found

theorem Holds.keysDistinct {value inner : Json} (holds : value.Holds inner)
    (distinct : value.keysDistinct = true) : inner.keysDistinct = true := by
  induction holds with
  | refl => exact distinct
  | tail _ isPart ih =>
      obtain ⟨token, isPart⟩ := isPart
      exact isPart.keysDistinct ih

theorem nodup_names {value : Json} {members : List (String × Json)}
    (isObject : value.members? = some members) (distinct : value.keysDistinct = true) :
    (Entries.names members).Nodup := by
  obtain rfl := members?_eq_some_iff.mp isObject
  exact of_decide_eq_true (Bool.and_eq_true_iff.mp distinct).1

end Json

namespace Documents

def keysDistinct (documents : Documents) : Bool :=
  documents.main.keysDistinct && Json.membersDistinct documents.externals

theorem keysDistinct_of_holds {documents : Documents} {node : Json} {scope : Scope}
    (distinct : documents.keysDistinct = true)
    (holds : (documents.root scope).Holds node) : node.keysDistinct = true := by
  obtain ⟨inMain, inExternals⟩ := Bool.and_eq_true_iff.mp distinct
  apply holds.keysDistinct
  cases scope with
  | main => exact inMain
  | external name =>
      rw [root]
      cases found : documents.externals.lookup name with
      | none => rfl
      | some schema =>
          exact Json.keysDistinct_of_mem_members inExternals (Entries.mem_of_lookup found)

end Documents

end JsonSchema
