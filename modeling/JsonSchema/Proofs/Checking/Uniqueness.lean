import JsonSchema.Proofs.Checking.Breaking
import JsonSchema.Proofs.Reordering.Equality

set_option autoImplicit false

/-! Values without those equal to an earlier one. Each value is compared only with the kept ones, and equality
need not pass on from value to value; still the values that are kept tell whether there are equal ones among
all, in any order of them. The main statement is `unique_keeps_first`. -/

namespace JsonSchema

namespace Json

variable {values others : List Json} {value : Json}

/-- Positions, in their order, at which the values of a list are kept. A value at any other position equals
one that is kept before it. -/
structure KeepsFirst (values : List Json) (positions : List Nat) : Prop where
  increasing : positions.Pairwise (· < ·)
  inside : ∀ position ∈ positions, position < values.length
  dropped : ∀ position value, values[position]? = some value → position ∉ positions →
    ∃ earlier ∈ positions, ∃ kept, earlier < position ∧ values[earlier]? = some kept ∧
      kept.same value = true

def AllDiffer (values : List Json) : Prop :=
  values.Pairwise fun left right => left.same right = false

instance (values : List Json) : Decidable (AllDiffer values) :=
  inferInstanceAs (Decidable (values.Pairwise fun left right => left.same right = false))

private theorem unique_concat (values : List Json) (value : Json) :
    unique (values ++ [value]) =
      if (unique values).any (·.same value) then unique values else unique values ++ [value] := by
  rw [unique, List.foldl_append]
  rfl

theorem unique_sublist (values : List Json) : (unique values).Sublist values := by
  induction values using List.reverseRecOn with
  | nil => exact .slnil
  | append_singleton rest value ih =>
      rw [unique_concat]
      split
      next => exact ih.trans (List.sublist_append_left _ _)
      next => exact ih.append (.refl _)

private theorem allDiffer_concat_iff :
    AllDiffer (values ++ [value]) ↔ AllDiffer values ∧ values.any (·.same value) = false := by
  simp [AllDiffer, List.pairwise_append]

theorem allDiffer_unique (values : List Json) : AllDiffer (unique values) := by
  induction values using List.reverseRecOn with
  | nil => exact List.Pairwise.nil
  | append_singleton rest value ih =>
      rw [unique_concat]
      split
      next => exact ih
      next apart => exact allDiffer_concat_iff.mpr ⟨ih, Bool.eq_false_iff.mpr apart⟩

private theorem unique_of_allDiffer (apart : AllDiffer values) : unique values = values := by
  induction values using List.reverseRecOn with
  | nil => rfl
  | append_singleton rest value ih =>
      obtain ⟨before, new⟩ := allDiffer_concat_iff.mp apart
      rw [unique_concat, ih before, if_neg (Bool.eq_false_iff.mp new)]

private theorem length_unique_eq_iff : (unique values).length = values.length ↔ AllDiffer values := by
  constructor
  · intro length
    -- The kept values differ, and here they are all the values: no equality is passed on.
    have whole := (unique_sublist values).eq_of_length length
    exact whole ▸ allDiffer_unique values
  · intro apart
    rw [unique_of_allDiffer apart]

/-! ### The positions that are kept -/

private theorem getElem?_concat_of_some {position : Nat} {found : Json} (value : Json)
    (isFound : values[position]? = some found) : (values ++ [value])[position]? = some found := by
  obtain ⟨inside, -⟩ := List.getElem?_eq_some_iff.mp isFound
  rwa [List.getElem?_append_left inside]

private theorem getElem?_concat_cases {position : Nat} {found : Json}
    (isFound : (values ++ [value])[position]? = some found) :
    values[position]? = some found ∨ position = values.length ∧ found = value := by
  obtain before | behind := Nat.lt_or_ge position values.length
  · rw [List.getElem?_append_left before] at isFound
    exact .inl isFound
  · rw [List.getElem?_append_right behind, List.getElem?_singleton] at isFound
    obtain ⟨last, isValue⟩ := Option.ite_none_right_eq_some.mp isFound
    exact .inr ⟨by omega, (Option.some.inj isValue).symm⟩

namespace KeepsFirst

variable {positions : List Nat}

private theorem at_concat (keeps : KeepsFirst values positions) (value : Json) :
    positions.filterMap ((values ++ [value])[·]?) = positions.filterMap (values[·]?) :=
  List.filterMap_congr fun position isKept => List.getElem?_append_left (keeps.inside position isKept)

private theorem inside_concat (keeps : KeepsFirst values positions) (value : Json) :
    ∀ position ∈ positions, position < (values ++ [value]).length := by
  intro position isKept
  rw [List.length_append]
  exact Nat.lt_add_right _ (keeps.inside position isKept)

private theorem dropped_concat (keeps : KeepsFirst values positions) (value : Json) {position : Nat}
    {found : Json} (isFound : values[position]? = some found) (isDropped : position ∉ positions) :
    ∃ earlier ∈ positions, ∃ kept, earlier < position ∧
      (values ++ [value])[earlier]? = some kept ∧ kept.same found = true := by
  obtain ⟨earlier, isKept, kept, before, isEarlier, equal⟩ :=
    keeps.dropped position found isFound isDropped
  exact ⟨earlier, isKept, kept, before, getElem?_concat_of_some value isEarlier, equal⟩

private theorem drop (keeps : KeepsFirst values positions)
    (equal : (positions.filterMap (values[·]?)).any (·.same value) = true) :
    KeepsFirst (values ++ [value]) positions where
  increasing := keeps.increasing
  inside := keeps.inside_concat value
  dropped := by
    intro position found isFound isDropped
    obtain before | ⟨rfl, rfl⟩ := getElem?_concat_cases isFound
    · exact keeps.dropped_concat value before isDropped
    · obtain ⟨kept, isKept, same⟩ := List.any_eq_true.mp equal
      obtain ⟨earlier, among, isEarlier⟩ := List.mem_filterMap.mp isKept
      exact ⟨earlier, among, kept, keeps.inside earlier among,
        getElem?_concat_of_some found isEarlier, same⟩

private theorem keep (keeps : KeepsFirst values positions) (value : Json) :
    KeepsFirst (values ++ [value]) (positions ++ [values.length]) where
  increasing := by
    rw [List.pairwise_append]
    refine ⟨keeps.increasing, List.pairwise_singleton _ _, ?_⟩
    intro position isKept last isLast
    rw [List.mem_singleton.mp isLast]
    exact keeps.inside position isKept
  inside := by
    rw [List.forall_mem_append, List.forall_mem_singleton]
    exact ⟨keeps.inside_concat value, by simp⟩
  dropped := by
    intro position found isFound isDropped
    rw [List.mem_append, not_or, List.mem_singleton] at isDropped
    have before := (getElem?_concat_cases isFound).resolve_right fun last => isDropped.2 last.1
    obtain ⟨earlier, isKept, rest⟩ := keeps.dropped_concat value before isDropped.1
    exact ⟨earlier, List.mem_append_left _ isKept, rest⟩

end KeepsFirst

private theorem exists_keepsFirst (values : List Json) :
    ∃ positions, KeepsFirst values positions ∧ unique values = positions.filterMap (values[·]?) := by
  induction values using List.reverseRecOn with
  | nil => exact ⟨[], ⟨.nil, nofun, nofun⟩, rfl⟩
  | append_singleton rest value ih =>
      obtain ⟨positions, keeps, isUnique⟩ := ih
      rw [unique_concat]
      split
      next equal =>
        refine ⟨positions, keeps.drop (isUnique ▸ equal), ?_⟩
        rw [keeps.at_concat, isUnique]
      next =>
        refine ⟨positions ++ [rest.length], keeps.keep value, ?_⟩
        rw [List.filterMap_append, keeps.at_concat, isUnique]
        simp

/-! ### Other orders -/

theorem AllDiffer.both (apart : AllDiffer values)
    (distinct : ∀ value ∈ values, value.keysDistinct = true) :
    values.Pairwise fun left right => left.same right = false ∧ right.same left = false := by
  refine List.Pairwise.imp_of_mem (fun isLeft isRight different => ⟨different, ?_⟩) apart
  rwa [same_comm (distinct _ isRight) (distinct _ isLeft)]

theorem AllDiffer.perm (apart : AllDiffer values)
    (distinct : ∀ value ∈ values, value.keysDistinct = true) (perm : values.Perm others) :
    AllDiffer others :=
  ((apart.both distinct).perm perm And.symm).imp And.left

private theorem allDiffer_iff_of_perm (distinct : ∀ value ∈ values, value.keysDistinct = true)
    (perm : values.Perm others) : AllDiffer values ↔ AllDiffer others := by
  refine ⟨fun apart => apart.perm distinct perm, fun apart => apart.perm ?_ perm.symm⟩
  exact fun value member => distinct value (perm.mem_iff.mpr member)

end Json

/-! ### The check -/

def uniqueItemsCheck? : Keyword → Json → Option Check
  | .uniqueItems, .bool true => some .uniqueItems
  | _, _ => none

section Node

variable {members : List (String × Json)}

private theorem readAs_uniqueItemsCheck? {keyword : Keyword}
    (isUnique : decide (keyword = .uniqueItems) = true) (argument : Json) :
    ReadAs members keyword argument (uniqueItemsCheck? keyword argument) := by
  obtain rfl := of_decide_eq_true isUnique
  constructor
  case compiles =>
    intro compiler compile scope
    cases argument with
    | bool flag => cases flag <;> rfl
    | _ => rfl
  case plain | named =>
    intro made isMade
    cases argument with
    | bool flag =>
        cases flag with
        | true =>
            cases isMade
            rfl
        | false => cases isMade
    | _ => cases isMade

private theorem isBroken_uniqueItems (demanded : members.lookup "uniqueItems" = some (.bool true))
    (elements : List Json) :
    isBroken uniqueItemsCheck? members (.array elements) .uniqueItems =
      !decide (Json.AllDiffer elements) := by
  change ((members.lookup "uniqueItems").bind _).any _ = _
  rw [demanded]
  change ((Json.unique elements).length != elements.length) = _
  rw [bne, Bool.not_inj_iff, Bool.eq_iff_iff, beq_iff_eq, decide_eq_true_iff]
  exact Json.length_unique_eq_iff

private theorem breaks_uniqueItems (only : HasOnly (· = .uniqueItems) members)
    (distinct : (Entries.names members).Nodup)
    (demanded : members.lookup "uniqueItems" = some (.bool true)) (elements : List Json) :
    Breaks members (.array elements) (if Json.AllDiffer elements then [] else [.uniqueItems]) := by
  have breaks := breaks_among only distinct (List.nodup_singleton .uniqueItems) (by decide)
    (by simp) rfl (fun _ isUnique argument _ => readAs_uniqueItemsCheck? isUnique argument)
    (.array elements)
  rwa [List.filter_singleton, isBroken_uniqueItems demanded, Bool.cond_not, Bool.cond_decide] at breaks

end Node

/-- What is kept of a list of values whose objects hold each key once, and what the keyword about it demands.
The values are kept in their order, and each that is dropped equals one that is kept before it. No two that
are kept are equal, to keep them again changes nothing, and all are kept if and only if no value equals one
behind it. An array breaks the keyword if it holds two equal elements, in whatever order they are written. -/
theorem Json.unique_keeps_first {values : List Json}
    (distinct : ∀ value ∈ values, value.keysDistinct = true) :
    (∃ positions, KeepsFirst values positions ∧
      unique values = positions.filterMap (values[·]?)) ∧
    ((unique values).Pairwise fun left right => left.same right = false ∧ right.same left = false) ∧
    unique (unique values) = unique values ∧
    ((unique values).length = values.length ↔ AllDiffer values) ∧
    ∀ members, HasOnly (· = .uniqueItems) members → (Entries.names members).Nodup →
      members.lookup "uniqueItems" = some (.bool true) → ∀ others, values.Perm others →
        Breaks members (.array others) (if AllDiffer values then [] else [.uniqueItems]) := by
  have kept := allDiffer_unique values
  refine ⟨exists_keepsFirst values, ?_, unique_of_allDiffer kept, length_unique_eq_iff, ?_⟩
  · exact kept.both fun value isKept => distinct value ((unique_sublist values).subset isKept)
  · intro members only names demanded others perm
    have breaks := breaks_uniqueItems only names demanded others
    rwa [if_congr (allDiffer_iff_of_perm distinct perm).symm rfl rfl] at breaks

/-- Two integers and, between them, the double that each of them equals: the integers are kept, and in every
order of the three the array is rejected. -/
theorem Json.unique_keeps_first_merged :
    unique [number power, number powerDouble, number behindPower] =
        [number power, number behindPower] ∧
      (number powerDouble).same (number behindPower) = true ∧
      ∀ others, [number power, number powerDouble, number behindPower].Perm others →
        Breaks [("uniqueItems", .bool true)] (.array others) [.uniqueItems] := by
  have distinct : ∀ value ∈ [number power, number powerDouble, number behindPower],
      value.keysDistinct = true := by decide
  obtain ⟨-, -, -, -, demanded⟩ := unique_keeps_first distinct
  refine ⟨by decide +kernel, by decide +kernel, fun others perm => ?_⟩
  have only : HasOnly (· = .uniqueItems) [("uniqueItems", .bool true)] := ⟨rfl, by decide⟩
  have breaks := demanded _ only (by decide) rfl others perm
  rwa [if_neg (by decide +kernel)] at breaks

end JsonSchema
