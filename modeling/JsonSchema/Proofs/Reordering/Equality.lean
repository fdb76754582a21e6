import Mathlib.Data.List.Perm.Subperm
import JsonSchema.Proofs.Reordering.Values

set_option autoImplicit false

/-! Equality by meaning does not tell its sides apart. Where every object holds each key once, a value equals
itself and what it is with its keys in another order, and equality holds in both directions: the keys on
the left are as many as those on the right and are all among them, so there are no others. -/

namespace JsonSchema

theorem Number.same_refl (number : Number) : number.same number = true :=
  (Number.same_iff number number).mpr (Or.inl rfl)

namespace Json

theorem Reordered.same {left right : Json} (reordered : left.Reordered right) :
    left.same right = true := by
  induction reordered with
  | null => rfl
  | bool value => exact beq_self_eq_true value
  | number value => exact value.same_refl
  | string value => exact beq_self_eq_true value
  | array length _ ih =>
      rw [Json.same, sameElements_iff]
      exact forall₂_of_getElem? length ih
  | object distinct names each ih =>
      have inOrder : Entries.Reordered (fun left right : Json => left.same right = true) _ _ :=
        ⟨distinct, names, ih⟩
      rw [Json.same, Bool.and_eq_true, beq_iff_eq, sameMembers_iff]
      refine ⟨inOrder.length_eq, ?_⟩
      intro entry member
      exact Optional.exists_right (inOrder.lookup entry.1) (Entries.lookup_of_mem distinct member)

theorem same_refl {value : Json} (distinct : value.keysDistinct = true) : value.same value = true :=
  (Reordered.refl_of_keysDistinct value distinct).same

private theorem names_perm_of_same {lefts rights : List (String × Json)}
    (distinct : (Entries.names lefts).Nodup)
    (equal : (Json.object lefts).same (.object rights) = true) :
    (Entries.names lefts).Perm (Entries.names rights) := by
  rw [same, Bool.and_eq_true, beq_iff_eq, sameMembers_iff] at equal
  obtain ⟨length, found⟩ := equal
  have among : Entries.names lefts ⊆ Entries.names rights := by
    intro key member
    obtain ⟨entry, inLefts, rfl⟩ := List.mem_map.mp member
    obtain ⟨right, atRight, _⟩ := found entry inLefts
    exact Entries.mem_names_of_lookup atRight
  apply (distinct.subperm among).perm_of_length_le
  rw [Entries.names, Entries.names, List.length_map, List.length_map, length]

private theorem sameElements_symm {lefts rights : List Json}
    (turns : ∀ left ∈ lefts, ∀ right ∈ rights, left.same right = true → right.same left = true)
    (equal : sameElements lefts rights = true) : sameElements rights lefts = true := by
  rw [sameElements_iff] at equal ⊢
  induction equal with
  | nil => exact .nil
  | cons same _ ih =>
      refine .cons (turns _ List.mem_cons_self _ List.mem_cons_self same) (ih ?_)
      intro left inLefts right inRights
      exact turns left (List.mem_cons_of_mem _ inLefts) right (List.mem_cons_of_mem _ inRights)

private theorem sameMembers_symm {lefts rights : List (String × Json)}
    (names : (Entries.names lefts).Perm (Entries.names rights))
    (distinct : (Entries.names rights).Nodup)
    (turns : ∀ left ∈ lefts, ∀ right ∈ rights,
      left.2.same right.2 = true → right.2.same left.2 = true)
    (equal : sameMembers lefts rights = true) : sameMembers rights lefts = true := by
  rw [sameMembers_iff] at equal ⊢
  rintro ⟨key, right⟩ inRights
  obtain ⟨left, atLeft⟩ := Entries.exists_lookup (names.mem_iff.mpr (List.mem_map_of_mem inRights))
  have inLefts := Entries.mem_of_lookup atLeft
  obtain ⟨other, atRight, same⟩ := equal _ inLefts
  obtain rfl : right = other :=
    Option.some.inj ((Entries.lookup_of_mem distinct inRights).symm.trans atRight)
  exact ⟨left, atLeft, turns _ inLefts _ inRights same⟩

theorem same_symm {left right : Json} (distinctLeft : left.keysDistinct = true)
    (distinctRight : right.keysDistinct = true) (equal : left.same right = true) :
    right.same left = true := by
  induction weight : left.weight using Nat.strongRecOn generalizing left right with
  | ind _ ih =>
      subst weight
      have turns {first second : Json} {firstToken secondToken : String}
          (firstPart : left.Part firstToken first) (secondPart : right.Part secondToken second)
          (equal : first.same second = true) : second.same first = true :=
        ih _ firstPart.weight_lt (firstPart.keysDistinct distinctLeft)
          (secondPart.keysDistinct distinctRight) equal rfl
      cases left with
      | array lefts =>
          cases right with
          | array rights =>
              refine sameElements_symm ?_ equal
              intro first inLefts second inRights
              obtain ⟨_, firstPart⟩ := part_of_mem inLefts
              obtain ⟨_, secondPart⟩ := part_of_mem inRights
              exact turns firstPart secondPart
          | _ => cases equal
      | object lefts =>
          cases right with
          | object rights =>
              have names := names_perm_of_same (nodup_names rfl distinctLeft) equal
              rw [same, Bool.and_eq_true, beq_iff_eq] at equal ⊢
              refine ⟨equal.1.symm, sameMembers_symm names (nodup_names rfl distinctRight) ?_ equal.2⟩
              intro first inLefts second inRights
              exact turns (.member rfl inLefts) (.member rfl inRights)
          | _ => cases equal
      | number left =>
          cases right with
          | number right => exact (Number.same_comm right left).trans equal
          | _ => cases equal
      | bool value =>
          cases right with
          | bool other => exact eq_of_beq equal ▸ beq_self_eq_true value
          | _ => cases equal
      | string value =>
          cases right with
          | string other => exact eq_of_beq equal ▸ beq_self_eq_true value
          | _ => cases equal
      | null =>
          cases right with
          | null => rfl
          | _ => cases equal

theorem same_comm {left right : Json} (distinctLeft : left.keysDistinct = true)
    (distinctRight : right.keysDistinct = true) : left.same right = right.same left :=
  Bool.eq_iff_iff.mpr
    ⟨same_symm distinctLeft distinctRight, same_symm distinctRight distinctLeft⟩

/-- Equality of values whose objects hold each key once. A value equals itself; the two sides may be
exchanged; the order of keys, in objects at any depth of either side, makes no difference; and equal
objects have the same keys. -/
theorem same_refl_symm_reordered {left right : Json} (distinctLeft : left.keysDistinct = true)
    (distinctRight : right.keysDistinct = true) :
    left.same left = true ∧
    left.same right = right.same left ∧
    (∀ other changed, left.Reordered other → right.Reordered changed →
      other.same changed = left.same right) ∧
    ∀ lefts rights, left = .object lefts → right = .object rights → left.same right = true →
      ∀ key, key ∈ Entries.names lefts ↔ key ∈ Entries.names rights := by
  refine ⟨same_refl distinctLeft, same_comm distinctLeft distinctRight, ?_, ?_⟩
  · exact fun other changed reordered others => (reordered.same_eq others).symm
  · rintro lefts rights rfl rfl equal key
    exact (names_perm_of_same (nodup_names rfl distinctLeft) equal).mem_iff

def box : Json :=
  .object [("size", .object [("height", .number (.integer 3 (by decide))), ("width", .null)]),
    ("name", .string "box")]

def turnedBox : Json :=
  .object [("name", .string "box"),
    ("size", .object [("width", .null), ("height", .number (.double
      ⟨false, 0x18000000000000, 1023, by decide, by decide, Or.inr (by decide)⟩))])]

theorem same_refl_symm_reordered_boxes :
    box.keysDistinct = true ∧ turnedBox.keysDistinct = true ∧ box.same box = true ∧
      turnedBox.same box = true ∧ ∀ other, box.Reordered other → other.same turnedBox = true := by
  have distinct : box.keysDistinct = true := by decide
  have distinctTurned : turnedBox.keysDistinct = true := by decide
  have equal : box.same turnedBox = true := by decide +kernel
  obtain ⟨self, symm, reordered, -⟩ := same_refl_symm_reordered distinct distinctTurned
  refine ⟨distinct, distinctTurned, self, symm ▸ equal, ?_⟩
  intro other inOrder
  exact (reordered other turnedBox inOrder (.refl_of_keysDistinct _ distinctTurned)).trans equal

end Json

end JsonSchema
