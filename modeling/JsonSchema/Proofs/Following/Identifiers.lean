import Mathlib.Data.List.Lex
import JsonSchema.Documents
import JsonSchema.Proofs.Parts

set_option autoImplicit false

/-! The search for an identifier. A node of a document is told by its position, which numbers the child
to take at each step from the root on; equal nodes can stand at several positions. The lexicographic
order of positions puts a node before all that it holds, and what one child holds before the children
behind it. The search finds the first node in this order that has the identifier. The main statement is
`Json.finds_first_identified`. -/

namespace JsonSchema

namespace Json

/-! ### Positions -/

def children : Json → List Json
  | .object members => members.map (·.2)
  | .array elements => elements
  | _ => []

def nodeAt? (value : Json) : List Nat → Option Json
  | [] => some value
  | index :: rest => value.children[index]?.bind fun child => child.nodeAt? rest

private theorem mem_children_iff {value child : Json} :
    child ∈ value.children ↔ ∃ token, value.Part token child := by
  constructor
  · intro isChild
    cases value with
    | object members =>
        obtain ⟨⟨name, part⟩, isMember, rfl⟩ := List.mem_map.mp isChild
        exact ⟨name, .member rfl isMember⟩
    | array elements =>
        obtain ⟨index, atIndex⟩ := List.mem_iff_getElem?.mp isChild
        exact ⟨toString index, .element rfl atIndex⟩
    | _ => cases isChild
  · rintro ⟨token, isPart⟩
    cases isPart with
    | element isArray found =>
        obtain rfl := elements?_eq_some_iff.mp isArray
        exact List.mem_of_getElem? found
    | member isObject found =>
        obtain rfl := members?_eq_some_iff.mp isObject
        exact List.mem_map.mpr ⟨_, found, rfl⟩

private theorem nodeAt?_cons_eq_some_iff {value inner : Json} {index : Nat} {rest : List Nat} :
    value.nodeAt? (index :: rest) = some inner ↔
      ∃ child, value.children[index]? = some child ∧ child.nodeAt? rest = some inner := by
  rw [nodeAt?, Option.bind_eq_some_iff]

private theorem holds_iff_exists_position {value inner : Json} :
    value.Holds inner ↔ ∃ position, value.nodeAt? position = some inner := by
  constructor
  · intro holds
    induction holds using Relation.ReflTransGen.head_induction_on with
    | refl => exact ⟨[], rfl⟩
    | head isPart _ ih =>
        obtain ⟨position, stands⟩ := ih
        obtain ⟨index, atIndex⟩ := List.mem_iff_getElem?.mp (mem_children_iff.mpr isPart)
        exact ⟨index :: position, nodeAt?_cons_eq_some_iff.mpr ⟨_, atIndex, stands⟩⟩
  · rintro ⟨position, stands⟩
    induction position generalizing value with
    | nil =>
        obtain rfl := Option.some.inj stands
        exact .refl
    | cons index rest ih =>
        obtain ⟨child, atIndex, inChild⟩ := nodeAt?_cons_eq_some_iff.mp stands
        exact .head (mem_children_iff.mp (List.mem_of_getElem? atIndex)) (ih inChild)

/-! ### The search -/

private theorem findInElements?_eq_findSome? (id : String) (elements : List Json) :
    findInElements? id elements = elements.findSome? (findById? id) := by
  induction elements with
  | nil => rfl
  | cons element rest ih =>
      rw [findInElements?, ih, List.findSome?_cons]
      cases element.findById? id <;> rfl

private theorem findInMembers?_eq_findSome? (id : String) (members : List (String × Json)) :
    findInMembers? id members = (members.map (·.2)).findSome? (findById? id) := by
  induction members with
  | nil => rfl
  | cons member rest ih =>
      rw [findInMembers?, ih, List.map_cons, List.findSome?_cons]
      cases member.2.findById? id <;> rfl

private theorem bind_string?_eq_some_iff {value : Option Json} {text : String} :
    value.bind string? = some text ↔ value = some (.string text) := by
  rcases value with _ | value
  · exact iff_of_false nofun nofun
  · cases value <;> simp [string?]

private theorem findById?_eq_children (id : String) (value : Json) :
    value.findById? id =
      if value.field? "id" = some (.string id) then some value
      else value.children.findSome? (findById? id) := by
  cases value with
  | object members =>
      rw [findById?, findInMembers?_eq_findSome?]
      exact if_congr bind_string?_eq_some_iff rfl rfl
  | array elements =>
      have other : (array elements).field? "id" ≠ some (.string id) := by
        intro same
        cases same
      rw [findById?, findInElements?_eq_findSome?, if_neg other, children]
  | _ => rfl

private theorem findById?_of_identified {value : Json} {id : String}
    (identified : value.field? "id" = some (.string id)) : value.findById? id = some value := by
  rw [findById?_eq_children, if_pos identified]

private theorem findById?_of_not_identified {value : Json} {id : String}
    (other : value.field? "id" ≠ some (.string id)) :
    value.findById? id = value.children.findSome? (findById? id) := by
  rw [findById?_eq_children, if_neg other]

/-- The search that finds nothing has left out no position. -/
theorem not_identified_of_findById?_eq_none {value inner : Json} {id : String} {position : List Nat}
    (nothing : value.findById? id = none) (stands : value.nodeAt? position = some inner) :
    inner.field? "id" ≠ some (.string id) := by
  have other : value.field? "id" ≠ some (.string id) := by
    intro identified
    rw [findById?_of_identified identified] at nothing
    cases nothing
  induction position generalizing value with
  | nil => exact Option.some.inj stands ▸ other
  | cons index rest ih =>
      obtain ⟨child, atIndex, inChild⟩ := nodeAt?_cons_eq_some_iff.mp stands
      rw [findById?_of_not_identified other, List.findSome?_eq_none_iff] at nothing
      have inNone := nothing child (List.mem_of_getElem? atIndex)
      refine ih inNone inChild ?_
      intro identified
      rw [findById?_of_identified identified] at inNone
      cases inNone

/-! ### The first position -/

structure FirstIdentified (id : String) (document : Json) (position : List Nat) (target : Json) :
    Prop where
  stands : document.nodeAt? position = some target
  identified : target.field? "id" = some (.string id)
  first : ∀ other object, document.nodeAt? other = some object →
    object.field? "id" = some (.string id) → other = position ∨ List.Lex (· < ·) position other

namespace FirstIdentified

variable {id : String} {document target : Json} {position : List Nat}

private theorem root (identified : document.field? "id" = some (.string id)) :
    FirstIdentified id document [] document where
  stands := rfl
  identified := identified
  first := by
    intro other _ _ _
    cases other with
    | nil => exact .inl rfl
    | cons index rest => exact .inr .nil

/-- What comes first inside a child comes first in the whole, if the whole has not the identifier and
nothing in the children before that one has. -/
theorem child {child : Json} {before after : List Json}
    (other : document.field? "id" ≠ some (.string id))
    (order : document.children = before ++ child :: after)
    (nothing : ∀ earlier ∈ before, earlier.findById? id = none)
    (inChild : FirstIdentified id child position target) :
    FirstIdentified id document (before.length :: position) target where
  stands := nodeAt?_cons_eq_some_iff.mpr ⟨child, by simp [order], inChild.stands⟩
  identified := inChild.identified
  first := by
    intro place object stands identified
    cases place with
    | nil => exact (other (Option.some.inj stands ▸ identified)).elim
    | cons index rest =>
        obtain ⟨node, atIndex, inside⟩ := nodeAt?_cons_eq_some_iff.mp stands
        rcases Nat.lt_trichotomy index before.length with earlier | rfl | later
        · rw [order, List.getElem?_append_left earlier] at atIndex
          have inNone := nothing node (List.mem_of_getElem? atIndex)
          exact (not_identified_of_findById?_eq_none inNone inside identified).elim
        · obtain rfl : child = node := by simpa [order] using atIndex
          rcases inChild.first rest object inside identified with rfl | behind
          · exact .inl rfl
          · exact .inr (.cons behind)
        · exact .inr (.rel later)

private theorem unique {otherPosition : List Nat} {other : Json}
    (first : FirstIdentified id document position target)
    (second : FirstIdentified id document otherPosition other) : target = other := by
  have same : position = otherPosition := by
    rcases first.first otherPosition other second.stands second.identified with equal | behind
    · exact equal.symm
    · rcases second.first position target first.stands first.identified with equal | before
      · exact equal
      · exact (asymm behind before).elim
  have stands := first.stands
  rw [same, second.stands] at stands
  exact (Option.some.inj stands).symm

end FirstIdentified

private theorem exists_first_of_findById? {document target : Json} {id : String}
    (found : document.findById? id = some target) :
    ∃ position, FirstIdentified id document position target := by
  induction document using (measure Json.depth).wf.induction with
  | h document ih =>
      by_cases identified : document.field? "id" = some (.string id)
      · rw [findById?_of_identified identified] at found
        exact ⟨[], Option.some.inj found ▸ .root identified⟩
      · rw [findById?_of_not_identified identified] at found
        obtain ⟨before, child, after, order, inChild, nothing⟩ :=
          List.findSome?_eq_some_iff.mp found
        have isChild : child ∈ document.children := by
          rw [order]
          exact List.mem_append_right before List.mem_cons_self
        obtain ⟨token, isPart⟩ := mem_children_iff.mp isChild
        obtain ⟨position, first⟩ := ih child isPart.depth_lt inChild
        exact ⟨_, first.child identified order nothing⟩

/-- An object that a document holds, at whatever depth and in objects and arrays alike, is found by its
`id` exactly if there is one; and the one that is found stands at the first position of them all. -/
theorem finds_first_identified (document : Json) (id : String) :
    ((∃ target, document.findById? id = some target) ↔
      ∃ object, document.Holds object ∧ object.field? "id" = some (.string id)) ∧
    ∀ target, document.findById? id = some target ↔
      ∃ position, FirstIdentified id document position target := by
  have complete {object : Json} (holds : document.Holds object)
      (identified : object.field? "id" = some (.string id)) :
      ∃ target, document.findById? id = some target := by
    obtain ⟨position, stands⟩ := holds_iff_exists_position.mp holds
    apply Option.ne_none_iff_exists'.mp
    intro nothing
    exact not_identified_of_findById?_eq_none nothing stands identified
  refine ⟨⟨?_, ?_⟩, fun target => ⟨exists_first_of_findById?, ?_⟩⟩
  · rintro ⟨target, found⟩
    obtain ⟨position, first⟩ := exists_first_of_findById? found
    exact ⟨target, holds_iff_exists_position.mpr ⟨position, first.stands⟩, first.identified⟩
  · rintro ⟨object, holds, identified⟩
    exact complete holds identified
  · rintro ⟨position, first⟩
    have holds := holds_iff_exists_position.mpr ⟨position, first.stands⟩
    obtain ⟨other, found⟩ := complete holds first.identified
    obtain ⟨otherPosition, otherFirst⟩ := exists_first_of_findById? found
    rw [found, first.unique otherFirst]

/-- An identifier that is given twice, the second time less deep. -/
example : (Json.object [("id", .array []),
      ("first", .array [.null, .object [("id", .string "a"), ("deep", .bool true)]]),
      ("second", .object [("id", .string "a")])]).findById? "a" =
    some (.object [("id", .string "a"), ("deep", .bool true)]) := by
  decide +kernel

end Json

end JsonSchema
