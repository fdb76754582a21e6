import Mathlib.Algebra.BigOperators.Group.List.Basic
import Mathlib.Algebra.GroupWithZero.Nat
import JsonSchema.Proofs.Distinct
import JsonSchema.Proofs.Equality
import JsonSchema.Proofs.Shuffling

set_option autoImplicit false

/-! Values with their keys in another order. Two values correspond when they differ in nothing but the
order of keys, in objects at any depth, each of which holds a key once. What does not ask for the order
of keys answers the same for both. -/

namespace JsonSchema

namespace Entries

/-- Two tables that hold each name once, the same names, and for each of them values that are the same in
the given sense. -/
structure Reordered {Left Right : Type} (Same : Left → Right → Prop) (lefts : List (String × Left))
    (rights : List (String × Right)) : Prop where
  distinct : (names lefts).Nodup
  names_perm : (names lefts).Perm (names rights)
  each : ∀ name left right, lefts.lookup name = some left → rights.lookup name = some right →
    Same left right

namespace Reordered

variable {Left Right : Type} {Same : Left → Right → Prop} {lefts : List (String × Left)}
  {rights : List (String × Right)}

theorem nil : Reordered Same [] [] where
  distinct := List.nodup_nil
  names_perm := .refl []
  each := by
    intro name left right found
    cases found

theorem distinct_right (reordered : Reordered Same lefts rights) : (names rights).Nodup :=
  reordered.names_perm.nodup_iff.mp reordered.distinct

theorem flip (reordered : Reordered Same lefts rights) :
    Reordered (fun right left => Same left right) rights lefts where
  distinct := reordered.distinct_right
  names_perm := reordered.names_perm.symm
  each := fun name right left atRight atLeft => reordered.each name left right atLeft atRight

theorem lookup (reordered : Reordered Same lefts rights) (name : String) :
    Option.Rel Same (lefts.lookup name) (rights.lookup name) := by
  have sameNames := reordered.names_perm.mem_iff (a := name)
  cases atLeft : lefts.lookup name with
  | none =>
      have atRight : rights.lookup name = none :=
        lookup_eq_none_iff.mpr fun member =>
          lookup_eq_none_iff.mp atLeft (sameNames.mpr member)
      rw [atRight]
      exact .none
  | some left =>
      cases atRight : rights.lookup name with
      | none =>
          have absent := mt sameNames.mp (lookup_eq_none_iff.mp atRight)
          rw [lookup_eq_none_iff.mpr absent] at atLeft
          cases atLeft
      | some right => exact .some (reordered.each name left right atLeft atRight)

theorem hasKey (reordered : Reordered Same lefts rights) (name : String) :
    hasKey lefts name = hasKey rights name := Optional.isSome_eq (reordered.lookup name)

private theorem filterMap_lookup_names {Value : Type} {entries : List (String × Value)}
    (distinct : (names entries).Nodup) :
    (names entries).filterMap (fun name => (entries.lookup name).map fun value => (name, value)) =
      entries := by
  rw [names, List.filterMap_map]
  have own : ∀ entry ∈ entries,
      ((fun name => (entries.lookup name).map fun value => (name, value)) ∘ Prod.fst) entry =
        some entry := by
    rintro ⟨name, value⟩ member
    rw [Function.comp_apply, lookup_of_mem distinct member]
    rfl
  rw [List.filterMap_congr own, List.filterMap_some]

theorem shuffled (reordered : Reordered Same lefts rights) :
    Shuffled (SameEntry Same) lefts rights := by
  let find (name : String) : Option (String × Right) :=
    (rights.lookup name).map fun value => (name, value)
  refine ⟨(names lefts).filterMap find, ?_, ?_⟩
  · have inTable : List.Forall₂ (fun left name => left ∈ lefts ∧ left.1 = name) lefts
        (names lefts) := by
      rw [names, List.forall₂_map_right_iff, List.forall₂_same]
      exact fun entry member => ⟨member, rfl⟩
    have found : List.Forall₂ (SameEntry Same)
        (lefts.filterMap some) ((names lefts).filterMap find) := by
      refine List.rel_filterMap ?_ inTable
      rintro ⟨name, left⟩ _ ⟨member, rfl⟩
      obtain ⟨right, atRight, same⟩ := Optional.exists_right (reordered.lookup name)
        (lookup_of_mem reordered.distinct member)
      unfold find
      rw [atRight]
      exact .some ⟨rfl, same⟩
    rwa [List.filterMap_some] at found
  · have moved := reordered.names_perm.filterMap find
    rwa [filterMap_lookup_names reordered.distinct_right] at moved

theorem length_eq (reordered : Reordered Same lefts rights) : lefts.length = rights.length :=
  reordered.shuffled.length_eq

theorem isEmpty_eq (reordered : Reordered Same lefts rights) : lefts.isEmpty = rights.isEmpty := by
  rw [Bool.eq_iff_iff, List.isEmpty_iff_length_eq_zero, List.isEmpty_iff_length_eq_zero,
    reordered.length_eq]

end Reordered

end Entries

namespace Json

/-- Two values with the same keys in each object, every key once, and else the same. -/
inductive Reordered : Json → Json → Prop where
  | null : Reordered .null .null
  | bool (value : Bool) : Reordered (.bool value) (.bool value)
  | number (value : Number) : Reordered (.number value) (.number value)
  | string (value : String) : Reordered (.string value) (.string value)
  | array {lefts rights : List Json} (length : lefts.length = rights.length)
      (each : ∀ (index : Nat) (left right : Json), lefts[index]? = some left →
        rights[index]? = some right → Reordered left right) :
      Reordered (.array lefts) (.array rights)
  | object {lefts rights : List (String × Json)} (distinct : (Entries.names lefts).Nodup)
      (names : (Entries.names lefts).Perm (Entries.names rights))
      (each : ∀ (name : String) (left right : Json), lefts.lookup name = some left →
        rights.lookup name = some right → Reordered left right) :
      Reordered (.object lefts) (.object rights)

theorem forall₂_of_getElem? {Same : Json → Json → Prop} {lefts rights : List Json}
    (length : lefts.length = rights.length)
    (each : ∀ (index : Nat) (left right : Json), lefts[index]? = some left →
      rights[index]? = some right → Same left right) : List.Forall₂ Same lefts rights := by
  refine List.forall₂_of_length_eq_of_get length ?_
  intro index inLeft inRight
  exact each index _ _ (List.getElem?_eq_getElem inLeft) (List.getElem?_eq_getElem inRight)

namespace Reordered

variable {left right value other : Json} {lefts rights : List Json}
  {leftMembers rightMembers : List (String × Json)}

theorem members (reordered : (Json.object leftMembers).Reordered (.object rightMembers)) :
    Entries.Reordered Reordered leftMembers rightMembers := by
  cases reordered with
  | object distinct names each => exact ⟨distinct, names, each⟩

theorem symm (reordered : left.Reordered right) : right.Reordered left := by
  induction reordered with
  | null => exact .null
  | bool value => exact .bool value
  | number value => exact .number value
  | string value => exact .string value
  | array length _ ih =>
      exact .array length.symm fun index left right atLeft atRight =>
        ih index right left atRight atLeft
  | object distinct names _ ih =>
      exact .object (names.nodup_iff.mp distinct) names.symm fun name left right atLeft atRight =>
        ih name right left atRight atLeft

theorem of_shuffled (distinct : (Entries.names leftMembers).Nodup)
    (shuffled : Shuffled (SameEntry Reordered) leftMembers rightMembers) :
    (Json.object leftMembers).Reordered (.object rightMembers) := by
  have names : (Entries.names leftMembers).Perm (Entries.names rightMembers) :=
    shuffled.perm_map fun _ _ same => same.1
  refine .object distinct names ?_
  intro name left right atLeft atRight
  obtain ⟨⟨other, value⟩, member, rfl, same⟩ :=
    shuffled.exists_right (Entries.mem_of_lookup atLeft)
  rw [Entries.lookup_of_mem (names.nodup_iff.mp distinct) member] at atRight
  cases atRight
  exact same

theorem refl_of_keysDistinct : (value : Json) → value.keysDistinct = true → value.Reordered value
  | .null, _ => .null
  | .bool value, _ => .bool value
  | .number value, _ => .number value
  | .string value, _ => .string value
  | .array elements, distinct => by
      refine .array rfl ?_
      intro index left right atLeft atRight
      cases atLeft.symm.trans atRight
      have part := List.mem_of_getElem? atLeft
      exact refl_of_keysDistinct left (keysDistinct_of_mem_elements distinct part)
  | .object members, distinct => by
      obtain ⟨own, inside⟩ := Bool.and_eq_true_iff.mp distinct
      refine of_shuffled (of_decide_eq_true own) (.of_forall₂ (List.forall₂_same.mpr ?_))
      intro entry member
      exact ⟨rfl, refl_of_keysDistinct entry.2 (keysDistinct_of_mem_members inside member)⟩
termination_by value => value.depth
decreasing_by
  · exact Nat.lt_succ_of_le (depth_le_elementsDepth part)
  · exact Nat.lt_succ_of_le (depth_le_membersDepth member)

/-! ### What a value is asked for -/

theorem field? (reordered : left.Reordered right) (key : String) :
    Option.Rel Reordered (left.field? key) (right.field? key) := by
  cases reordered with
  | object distinct names each => exact Entries.Reordered.lookup ⟨distinct, names, each⟩ key
  | _ => exact .none

theorem elements? (reordered : left.Reordered right) :
    Option.Rel (List.Forall₂ Reordered) left.elements? right.elements? := by
  cases reordered with
  | array length each => exact .some (forall₂_of_getElem? length each)
  | _ => exact .none

theorem members? (reordered : left.Reordered right) :
    Option.Rel (Entries.Reordered Reordered) left.members? right.members? := by
  cases reordered with
  | object distinct names each => exact .some ⟨distinct, names, each⟩
  | _ => exact .none

theorem elements_getD (reordered : left.Reordered right) :
    List.Forall₂ Reordered (left.elements?.getD []) (right.elements?.getD []) :=
  Optional.rel_getD reordered.elements? .nil

theorem members_getD (reordered : left.Reordered right) :
    Entries.Reordered Reordered (left.members?.getD []) (right.members?.getD []) :=
  Optional.rel_getD reordered.members? .nil

theorem isObject_eq (reordered : left.Reordered right) : left.isObject = right.isObject := by
  cases reordered <;> rfl

theorem string?_eq (reordered : left.Reordered right) : left.string? = right.string? := by
  cases reordered <;> rfl

private theorem number?_eq (reordered : left.Reordered right) : left.number? = right.number? := by
  cases reordered <;> rfl

theorem nat?_eq (reordered : left.Reordered right) : left.nat? = right.nat? := by
  rw [nat?, nat?, reordered.number?_eq]

theorem binary64?_eq (reordered : left.Reordered right) : left.binary64? = right.binary64? := by
  rw [binary64?, binary64?, reordered.number?_eq]

end Reordered

end Json

namespace Entries.Reordered

variable {lefts rights : List (String × Json)}

theorem toJson (reordered : Reordered Json.Reordered lefts rights) :
    (Json.object lefts).Reordered (.object rights) :=
  .object reordered.distinct reordered.names_perm reordered.each

/-- What is looked up and read in the same way on both sides is the same. -/
theorem lookup_bind_eq {Answer : Type} {read : Json → Option Answer}
    (reordered : Reordered Json.Reordered lefts rights)
    (equal : ∀ left right, Json.Reordered left right → read left = read right) (name : String) :
    (lefts.lookup name).bind read = (rights.lookup name).bind read :=
  Optional.bind_eq (reordered.lookup name) equal

theorem string?_eq (reordered : Reordered Json.Reordered lefts rights) (name : String) :
    (lefts.lookup name).bind Json.string? = (rights.lookup name).bind Json.string? :=
  reordered.lookup_bind_eq (fun _ _ same => same.string?_eq) name

theorem lookup_string {name text : String} (reordered : Reordered Json.Reordered lefts rights)
    (found : lefts.lookup name = some (.string text)) : rights.lookup name = some (.string text) := by
  obtain ⟨value, atName, same⟩ := Optional.exists_right (reordered.lookup name) found
  cases same
  exact atName

theorem inside (reordered : Reordered Json.Reordered lefts rights) (name : String) :
    Reordered Json.Reordered (((lefts.lookup name).bind Json.members?).getD [])
      (((rights.lookup name).bind Json.members?).getD []) :=
  Optional.rel_getD (Optional.rel_bind (reordered.lookup name) fun _ _ same => same.members?) .nil

end Entries.Reordered

namespace Json

/-! ### How much a value holds -/

private theorem elementsWeight_eq (elements : List Json) :
    elementsWeight elements = (elements.map weight).sum := by
  induction elements with
  | nil => rfl
  | cons element rest ih => rw [elementsWeight, ih, List.map_cons, List.sum_cons]

theorem membersWeight_eq (members : List (String × Json)) :
    membersWeight members = (members.map fun entry => entry.2.weight).sum := by
  induction members with
  | nil => rfl
  | cons entry rest ih => rw [membersWeight, ih, List.map_cons, List.sum_cons]

theorem Reordered.weight_eq {left right : Json} (reordered : left.Reordered right) :
    left.weight = right.weight := by
  induction reordered with
  | array length _ ih =>
      have each := Shuffled.of_forall₂ (forall₂_of_getElem? length ih)
      rw [weight, weight, elementsWeight_eq, elementsWeight_eq,
        (each.perm_map fun _ _ same => same).sum_eq]
  | object distinct names _ ih =>
      have shuffled := Entries.Reordered.shuffled ⟨distinct, names, ih⟩
      rw [weight, weight, membersWeight_eq, membersWeight_eq,
        (shuffled.perm_map fun _ _ same => same.2).sum_eq]
  | _ => rfl

/-! ### Equality -/

theorem Reordered.same_of_same {left right other changed : Json} (reordered : left.Reordered right)
    (others : other.Reordered changed) (equal : left.same other = true) :
    right.same changed = true := by
  induction reordered generalizing other changed with
  | array length _ ih =>
      cases others with
      | array otherLength each =>
          rw [same, sameElements_iff] at equal ⊢
          have exchanged := forall₂_exchange equal (forall₂_of_getElem? length ih)
            (forall₂_of_getElem? otherLength each)
          apply exchanged.imp
          rintro right changed ⟨left, other, equal, carried, others⟩
          exact carried others equal
      | _ => cases equal
  | @object lefts rights distinct names each ih =>
      cases others with
      | @object others changed otherDistinct otherNames otherEach =>
          have inOrder : Entries.Reordered Reordered lefts rights := ⟨distinct, names, each⟩
          have otherInOrder : Entries.Reordered Reordered others changed :=
            ⟨otherDistinct, otherNames, otherEach⟩
          rw [same, Bool.and_eq_true, beq_iff_eq, sameMembers_iff] at equal ⊢
          obtain ⟨sameLength, equal⟩ := equal
          rw [← inOrder.length_eq, ← otherInOrder.length_eq]
          refine ⟨sameLength, ?_⟩
          rintro ⟨key, right⟩ member
          have atRight := Entries.lookup_of_mem inOrder.distinct_right member
          obtain ⟨left, atLeft, _⟩ := Optional.exists_left (inOrder.lookup key) atRight
          obtain ⟨other, atOther, sameOther⟩ := equal _ (Entries.mem_of_lookup atLeft)
          obtain ⟨changed, atChanged, carried⟩ :=
            Optional.exists_right (otherInOrder.lookup key) atOther
          exact ⟨changed, atChanged, ih key left right atLeft atRight carried sameOther⟩
      | _ => cases equal
  | _ =>
      cases others with
      | array | object => cases equal
      | _ => exact equal

theorem Reordered.same_eq {left right other changed : Json} (reordered : left.Reordered right)
    (others : other.Reordered changed) : left.same other = right.same changed :=
  Bool.eq_iff_iff.mpr
    ⟨reordered.same_of_same others, reordered.symm.same_of_same others.symm⟩

theorem forall₂_unique {lefts rights : List Json} (each : List.Forall₂ Reordered lefts rights) :
    List.Forall₂ Reordered (unique lefts) (unique rights) := by
  unfold unique
  refine List.rel_foldl ?_ List.Forall₂.nil each
  intro keptLeft keptRight kept left right same
  dsimp only
  rw [any_eq_of_forall₂ kept fun _ _ others => others.same_eq same]
  split
  next => exact kept
  next => exact List.rel_append kept (.cons same .nil)

/-! ### The objects inside a value -/

/- Every object that a value holds, each before those inside it. -/
mutual

def objects : Json → List Json
  | .object members => .object members :: membersObjects members
  | .array elements => elementsObjects elements
  | _ => []

def elementsObjects : List Json → List Json
  | [] => []
  | element :: rest => element.objects ++ elementsObjects rest

def membersObjects : List (String × Json) → List Json
  | [] => []
  | (_, value) :: rest => value.objects ++ membersObjects rest

end

private theorem elementsObjects_eq (elements : List Json) :
    elementsObjects elements = elements.flatMap objects := by
  induction elements with
  | nil => rfl
  | cons element rest ih => rw [elementsObjects, ih, List.flatMap_cons]

private theorem membersObjects_eq (members : List (String × Json)) :
    membersObjects members = members.flatMap fun entry => entry.2.objects := by
  induction members with
  | nil => rfl
  | cons entry rest ih => rw [membersObjects, ih, List.flatMap_cons]

theorem Reordered.objects {left right : Json} (reordered : left.Reordered right) :
    Shuffled Reordered left.objects right.objects := by
  induction reordered with
  | array length _ ih =>
      rw [Json.objects, Json.objects, elementsObjects_eq, elementsObjects_eq]
      exact (Shuffled.of_forall₂ (forall₂_of_getElem? length ih)).flatMap fun _ _ same => same
  | object distinct names each ih =>
      have inside := Entries.Reordered.shuffled ⟨distinct, names, ih⟩
      rw [Json.objects, Json.objects, membersObjects_eq, membersObjects_eq]
      exact (Shuffled.single (.object distinct names each)).append
        (inside.flatMap fun _ _ same => same.2)
  | _ => exact .nil

def identifier? (value : Json) : Option String := (value.field? "id").bind string?

theorem Reordered.identifier?_eq {left right : Json} (reordered : left.Reordered right) :
    left.identifier? = right.identifier? :=
  Optional.bind_eq (reordered.field? "id") fun _ _ same => same.string?_eq

def identifiers (value : Json) : List String := value.objects.filterMap identifier?

end Json

end JsonSchema
