import Mathlib.Order.Bounds.Basic
import JsonSchema.Proofs.Building.Members

set_option autoImplicit false

/-! The elements of an array that has been built by a list of item schemas. An item for which the array has
an element replaces it; an item beyond the end adds nothing, or makes the array as long as it takes for
the value to be at its own position, so that the items behind it are built from absence as before.
The main statement is `Builder.elements_of_build`, which tells the length of the result and what is at
each of its positions. -/

namespace JsonSchema

namespace Builder

/-! ### Items one after the other -/

section Placing

variable {result : Nat → Option Json} {elements middle completed : List Json} {index : Nat}

def withElement (elements : List Json) (index : Nat) (result : Option Json) : List Json :=
  result.elim elements fun value =>
    if index < elements.length then elements.set index value
    else elements ++ List.replicate (index - elements.length) .null ++ [value]

@[simp] theorem length_withElement (elements : List Json) (index : Nat) (value : Json) :
    (withElement elements index (some value)).length = max elements.length (index + 1) := by
  rw [withElement, Option.elim_some]
  split
  next inRange =>
    rw [List.length_set]
    omega
  next beyond =>
    rw [List.length_append, List.length_append, List.length_replicate, List.length_singleton]
    omega

@[simp] theorem getElem?_withElement_self (elements : List Json) (index : Nat) (value : Json) :
    (withElement elements index (some value))[index]? = some value := by
  rw [withElement, Option.elim_some]
  split
  next inRange => exact List.getElem?_set_self inRange
  next beyond =>
    have length : (elements ++ List.replicate (index - elements.length) Json.null).length = index := by
      rw [List.length_append, List.length_replicate]
      omega
    rw [List.getElem?_append_right (Nat.le_of_eq length), length, Nat.sub_self]
    rfl

private theorem getElem?_withElement_of_lt {other : Nat} (later : index < other) (result : Option Json) :
    (withElement elements index result)[other]? = elements[other]? := by
  cases result with
  | none => rfl
  | some value =>
      by_cases inRange : index < elements.length
      · rw [withElement, Option.elim_some, if_pos inRange]
        exact List.getElem?_set_ne (Nat.ne_of_lt later)
      · have length := length_withElement elements index value
        rw [List.getElem?_eq_none (by omega), List.getElem?_eq_none (by omega)]

private theorem getElem?_withElement_of_gt {other : Nat} (before : other < index) (value : Json) :
    (withElement elements index (some value))[other]? = some (elements[other]?.getD .null) := by
  rw [withElement, Option.elim_some]
  split
  next inRange =>
    rw [List.getElem?_set_ne (Nat.ne_of_gt before), List.getElem?_eq_getElem (by omega)]
    rfl
  next beyond =>
    rw [List.getElem?_append_left (by rw [List.length_append, List.length_replicate]; omega)]
    by_cases given : other < elements.length
    · rw [List.getElem?_append_left given, List.getElem?_eq_getElem given]
      rfl
    · rw [List.getElem?_append_right (Nat.not_lt.mp given), List.getElem?_replicate_of_lt (by omega),
        List.getElem?_eq_none (Nat.not_lt.mp given)]
      rfl

/-- The results have been placed over the elements: the array reaches as far as the elements and the last
result do, and where there is neither a result nor an element, there is null. -/
structure PlacedBy (result : Nat → Option Json) (elements completed : List Json) : Prop where
  reaches : ∀ index, index < completed.length ↔
    index < elements.length ∨ ∃ later, index ≤ later ∧ (result later).isSome
  holds : ∀ index < completed.length,
    completed[index]? = some (((result index).or elements[index]?).getD .null)

private theorem placedBy_nothing (elements : List Json) : PlacedBy (fun _ => none) elements elements := by
  constructor
  · intro index
    simp
  · intro index inRange
    rw [List.getElem?_eq_getElem inRange]
    rfl

private theorem placedBy_withElement (elements : List Json) (index : Nat) (result : Option Json) :
    PlacedBy (fun position => if position = index then result else none) elements
      (withElement elements index result) := by
  cases result with
  | none =>
      simp only [ite_self]
      exact placedBy_nothing elements
  | some value =>
      have length := length_withElement elements index value
      constructor
      · intro position
        rw [length]
        constructor
        · intro inRange
          by_cases given : position < elements.length
          · exact .inl given
          · exact .inr ⟨index, by omega, Option.isSome_iff_exists.mpr ⟨value, if_pos rfl⟩⟩
        · rintro (given | ⟨later, below, isSome⟩)
          · omega
          · by_cases same : later = index
            · omega
            · rw [if_neg same] at isSome
              cases isSome
      · intro position inRange
        rw [length] at inRange
        rcases Nat.lt_trichotomy position index with before | same | after
        · rw [getElem?_withElement_of_gt before, if_neg (Nat.ne_of_lt before), Option.none_or]
        · rw [same, getElem?_withElement_self]
          simp
        · rw [getElem?_withElement_of_lt after, if_neg (Nat.ne_of_gt after),
            List.getElem?_eq_getElem (by omega)]
          rfl

theorem PlacedBy.trans {first second : Nat → Option Json} (before : PlacedBy first elements middle)
    (after : PlacedBy second middle completed) :
    PlacedBy (fun index => (second index).or (first index)) elements completed := by
  constructor
  · intro index
    rw [after.reaches, before.reaches, or_assoc, ← exists_or]
    refine or_congr_right (exists_congr fun later => ?_)
    rw [← and_or_left, Option.isSome_or, Bool.or_eq_true, or_comm]
  · intro index inRange
    rw [after.holds index inRange]
    cases second index with
    | some value => rfl
    | none =>
        by_cases given : index < middle.length
        · rw [Option.none_or, Option.none_or, before.holds index given]
          rfl
        · have noFirst : first index = none := by
            by_contra isSome
            exact given ((before.reaches index).mpr
              (.inr ⟨index, Nat.le_refl index, Option.isSome_iff_ne_none.mpr isSome⟩))
          have noElement : ¬index < elements.length :=
            fun inElements => given ((before.reaches index).mpr (.inl inElements))
          rw [noFirst, List.getElem?_eq_none (Nat.not_lt.mp given),
            List.getElem?_eq_none (Nat.not_lt.mp noElement)]
          rfl

theorem PlacedBy.getElem?_of_none (placed : PlacedBy result elements completed)
    (noResult : ∀ later, index ≤ later → result later = none) :
    completed[index]? = elements[index]? := by
  have reaches : index < completed.length ↔ index < elements.length := by
    rw [placed.reaches]
    refine or_iff_left ?_
    rintro ⟨later, behind, isSome⟩
    rw [noResult later behind] at isSome
    cases isSome
  by_cases given : index < elements.length
  · rw [placed.holds index (reaches.mpr given), noResult index (Nat.le_refl index),
      List.getElem?_eq_getElem given]
    rfl
  · rw [List.getElem?_eq_none (Nat.not_lt.mp given),
      List.getElem?_eq_none (Nat.not_lt.mp (mt reaches.mp given))]

/-- The length is that of the elements, or goes to the last result behind them. -/
theorem PlacedBy.length_of_isGreatest (placed : PlacedBy result elements completed) {last : Nat}
    (greatest : IsGreatest {index | elements.length ≤ index ∧ (result index).isSome} last) :
    completed.length = max elements.length (1 + last) := by
  obtain ⟨⟨beyond, isSome⟩, others⟩ := greatest
  refine Nat.le_antisymm (Nat.not_lt.mp fun longer => ?_) ?_
  · rcases (placed.reaches _).mp longer with given | ⟨later, behind, isLater⟩
    · omega
    · have atMost := others ⟨by omega, isLater⟩
      omega
  · have reached := (placed.reaches last).mpr (.inr ⟨last, Nat.le_refl last, isSome⟩)
    omega

theorem PlacedBy.length_of_none (placed : PlacedBy result elements completed)
    (noResult : ∀ index, elements.length ≤ index → result index = none) :
    completed.length = elements.length := by
  have atEnd := placed.getElem?_of_none noResult
  rw [List.getElem?_eq_none (Nat.le_refl _), List.getElem?_eq_none_iff] at atEnd
  refine Nat.le_antisymm atEnd (Nat.not_lt.mp fun shorter => ?_)
  exact Nat.lt_irrefl _ ((placed.reaches completed.length).mpr (.inl shorter))

end Placing

section Completing

variable {build : Json → Scope → Site → Option Json → Except Exhausted Built} {scope : Scope}
  {site : Site} {items elements completed : List Json}

def itemCall (build : Json → Scope → Site → Option Json → Except Exhausted Built) (scope : Scope)
    (site : Site) (elements : List Json) (item : Json) (index : Nat) : Except Exhausted Built :=
  build item scope site elements[index]?

/-- What there is for a position, by items that start at a position. -/
def itemResult (build : Json → Scope → Site → Option Json → Except Exhausted Built) (scope : Scope)
    (site : Site) (start : Nat) (items elements : List Json) (index : Nat) : Option Json :=
  if start ≤ index then
    items[index - start]?.bind fun item => Built.result (itemCall build scope site elements item index)
  else none

/-- An item does the same whether or not it has an element: it is built, and what there is of it is put
at its position. -/
theorem completeTuple_next (keeps : KeepsPresent build) (item : Json) (rest elements : List Json)
    (start : Nat) :
    completeTuple build scope site start (item :: rest) elements =
      itemCall build scope site elements item start >>= fun built =>
        completeTuple build scope site (start + 1) rest (withElement elements start built.value) := by
  rw [completeTuple, itemCall]
  cases found : elements[start]? with
  | none =>
      refine bind_congr fun built => ?_
      cases built.value with
      | none => rfl
      | some value =>
          rw [withElement, Option.elim_some,
            if_neg (Nat.not_lt.mpr (List.getElem?_eq_none_iff.mp found))]
          rfl
  | some value =>
      simp only [rebuild, bind_assoc, pure_bind]
      cases ran : build item scope site (some value) with
      | error stop => rfl
      | ok built =>
          obtain ⟨final, isFinal⟩ := keeps _ _ _ _ _ ran
          obtain ⟨inRange, _⟩ := List.getElem?_eq_some_iff.mp found
          rw [bind_of_ends rfl, bind_of_ends rfl, isFinal, withElement, Option.elim_some, if_pos inRange]
          rfl

private theorem itemCall_withElement {item : Json} {index start : Nat} (later : start < index)
    (result : Option Json) :
    itemCall build scope site (withElement elements start result) item index =
      itemCall build scope site elements item index := by
  unfold itemCall
  rw [getElem?_withElement_of_lt later]

private theorem completeTuple_ends_iff (keeps : KeepsPresent build) (start : Nat) (elements : List Json) :
    (∃ completed, completeTuple build scope site start items elements = .ok completed) ↔
      ∀ offset item, items[offset]? = some item →
        ∃ built, itemCall build scope site elements item (start + offset) = .ok built := by
  induction items generalizing start elements with
  | nil => exact ⟨fun _ => nofun, fun _ => ⟨elements, rfl⟩⟩
  | cons item rest ih =>
      have sameCalls (result : Option Json) (offset : Nat) (other : Json) :
          itemCall build scope site (withElement elements start result) other (start + 1 + offset) =
            itemCall build scope site elements other (start + (offset + 1)) := by
        rw [itemCall_withElement (by omega), Nat.add_assoc, Nat.add_comm 1]
      rw [completeTuple_next keeps]
      constructor
      · rintro ⟨completed, ran⟩ offset other isItem
        obtain ⟨built, ranFirst, ranRest⟩ := ends_of_bind ran
        cases offset with
        | zero =>
            obtain rfl := Option.some.inj isItem
            exact ⟨built, ranFirst⟩
        | succ offset =>
            rw [← sameCalls built.value]
            exact (ih _ _).mp ⟨completed, ranRest⟩ offset other isItem
      · intro ends
        obtain ⟨built, ranFirst⟩ := ends 0 item rfl
        rw [Nat.add_zero] at ranFirst
        rw [bind_of_ends ranFirst]
        refine (ih _ _).mpr fun offset other isItem => ?_
        rw [sameCalls]
        exact ends (offset + 1) other isItem

private theorem completeTuple_zero_ends_iff (keeps : KeepsPresent build) :
    (∃ completed, completeTuple build scope site 0 items elements = .ok completed) ↔
      ∀ index item, items[index]? = some item →
        ∃ built, itemCall build scope site elements item index = .ok built := by
  rw [completeTuple_ends_iff keeps]
  simp only [Nat.zero_add]

private theorem placedBy_of_completeTuple (keeps : KeepsPresent build) {start : Nat}
    (ran : completeTuple build scope site start items elements = .ok completed) :
    PlacedBy (itemResult build scope site start items elements) elements completed := by
  induction items generalizing start elements with
  | nil =>
      rw [← Except.ok.inj ran]
      have nothing : itemResult build scope site start [] elements = fun _ => none :=
        funext fun index => ite_self none
      rw [nothing]
      exact placedBy_nothing elements
  | cons item rest ih =>
      rw [completeTuple_next keeps] at ran
      obtain ⟨built, ranFirst, ranRest⟩ := ends_of_bind ran
      have results : itemResult build scope site start (item :: rest) elements = fun index =>
          (itemResult build scope site (start + 1) rest (withElement elements start built.value)
            index).or (if index = start then built.value else none) := by
        funext index
        unfold itemResult
        rcases Nat.lt_trichotomy index start with before | same | after
        · rw [if_neg (by omega), if_neg (by omega), if_neg (by omega)]
          rfl
        · subst same
          rw [if_pos (Nat.le_refl index), if_neg (by omega), if_pos rfl, Nat.sub_self, Option.none_or]
          exact Built.result_of_ends ranFirst
        · have offset : index - start = index - (start + 1) + 1 := by omega
          rw [if_pos (by omega), if_pos (by omega), if_neg (by omega), offset, Option.or_none,
            List.getElem?_cons_succ]
          simp only [itemCall_withElement after]
      rw [results]
      exact (placedBy_withElement elements start built.value).trans (ih ranRest)

private theorem mapM_rebuild_ends_iff (keeps : KeepsPresent build) {each : Json} :
    (∃ completed, elements.mapM (rebuild build each scope site) = .ok completed) ↔
      ∀ value ∈ elements, ∃ built, build each scope site (some value) = .ok built := by
  induction elements with
  | nil => exact ⟨fun _ => nofun, fun _ => ⟨[], rfl⟩⟩
  | cons value rest ih =>
      rw [List.mapM_cons, List.forall_mem_cons]
      constructor
      · rintro ⟨completed, ran⟩
        obtain ⟨final, ranFirst, ran⟩ := ends_of_bind ran
        obtain ⟨others, ranRest, _⟩ := ends_of_bind ran
        obtain ⟨built, ranInside, _⟩ := ends_of_bind ranFirst
        exact ⟨⟨built, ranInside⟩, ih.mp ⟨others, ranRest⟩⟩
      · rintro ⟨⟨built, ranInside⟩, ends⟩
        obtain ⟨final, isFinal⟩ := keeps _ _ _ _ _ ranInside
        obtain ⟨others, ranRest⟩ := ih.mpr ends
        have ranFirst := (rebuild_eq_ok_iff keeps).mpr ((Built.result_of_ends ranInside).trans isFinal)
        exact ⟨final :: others, by rw [bind_of_ends ranFirst, bind_of_ends ranRest]; rfl⟩

private theorem getElem?_of_mapM_rebuild (keeps : KeepsPresent build) {each : Json}
    (ran : elements.mapM (rebuild build each scope site) = .ok completed) (index : Nat) :
    completed[index]? = elements[index]?.bind fun value =>
      Built.result (build each scope site (some value)) := by
  induction elements generalizing completed index with
  | nil =>
      rw [← Except.ok.inj ran]
      rfl
  | cons value rest ih =>
      rw [List.mapM_cons] at ran
      obtain ⟨final, ranFirst, ran⟩ := ends_of_bind ran
      obtain ⟨others, ranRest, isCompleted⟩ := ends_of_bind ran
      rw [← Except.ok.inj isCompleted]
      cases index with
      | zero => exact ((rebuild_eq_ok_iff keeps).mp ranFirst).symm
      | succ index => exact ih ranRest index

private theorem itemResult_of_present (keeps : KeepsPresent build) {index : Nat}
    (ran : completeTuple build scope site 0 items elements = .ok completed)
    (inElements : index < elements.length) (inItems : index < items.length) :
    ∃ final, itemResult build scope site 0 items elements index = some final := by
  have isItem := List.getElem?_eq_getElem inItems
  obtain ⟨built, ranItem⟩ := (completeTuple_zero_ends_iff keeps).mp ⟨completed, ran⟩ index _ isItem
  have result : itemResult build scope site 0 items elements index = built.value := by
    rw [itemResult, if_pos (Nat.zero_le index), Nat.sub_zero, isItem]
    exact Built.result_of_ends ranItem
  rw [itemCall, List.getElem?_eq_getElem inElements] at ranItem
  obtain ⟨final, isFinal⟩ := keeps _ _ _ _ _ ranItem
  exact ⟨final, result.trans isFinal⟩

private theorem itemResult_beyond {index : Nat} (beyond : items.length ≤ index) :
    itemResult build scope site 0 items elements index = none := by
  rw [itemResult, if_pos (Nat.zero_le index), Nat.sub_zero, List.getElem?_eq_none beyond]
  rfl

private theorem drop_of_completeTuple (keeps : KeepsPresent build)
    (ran : completeTuple build scope site 0 items elements = .ok completed) :
    completed.drop items.length = elements.drop items.length := by
  refine List.ext_getElem? fun offset => ?_
  rw [List.getElem?_drop, List.getElem?_drop]
  refine (placedBy_of_completeTuple keeps ran).getElem?_of_none fun later behind => ?_
  exact itemResult_beyond (Nat.le_trans (Nat.le_add_right _ offset) behind)

/-- An array is completed by its items, and what is behind them is rebuilt by `additionalItems` if that
is an object. -/
theorem of_buildArray_tuple (keeps : KeepsPresent build) {schema : Json} {final : List Json}
    (ran : buildArray build schema scope site (.array items) elements = .ok final) :
    ∃ completed, completeTuple build scope site 0 items elements = .ok completed ∧
      final.length = completed.length ∧ final.take items.length = completed.take items.length ∧
      (∀ inner, schema.field? "additionalItems" = some (.object inner) →
        (elements.drop items.length).mapM (rebuild build (.object inner) scope site) =
          .ok (final.drop items.length)) ∧
      ((∀ inner, schema.field? "additionalItems" ≠ some (.object inner)) →
        final.drop items.length = elements.drop items.length) := by
  obtain ⟨completed, ranTuple, ran⟩ := ends_of_bind ran
  refine ⟨completed, ranTuple, ?_⟩
  have sameRest := drop_of_completeTuple keeps ranTuple
  split at ran
  next inner isObject =>
    obtain ⟨more, ranMore, isFinal⟩ := ends_of_bind ran
    obtain rfl := Except.ok.inj isFinal
    have moreLength := mapM_rebuild_length ranMore
    rw [List.length_drop] at moreLength
    obtain ⟨sameTake, sameDrop⟩ := take_drop_append moreLength
    refine ⟨?_, sameTake, ?_, fun noObject => absurd isObject (noObject inner)⟩
    · rw [List.length_append, List.length_take, moreLength]
      omega
    · intro other isOther
      obtain rfl := Json.object.inj (Option.some.inj (isObject.symm.trans isOther))
      rw [sameDrop, ← sameRest]
      exact ranMore
  next noObject =>
    obtain rfl := Except.ok.inj ran
    exact ⟨rfl, rfl, fun inner isObject => absurd isObject (noObject inner), fun _ => sameRest⟩

private theorem buildArray_tuple_ends_iff (keeps : KeepsPresent build) (schema : Json) :
    (∃ final, buildArray build schema scope site (.array items) elements = .ok final) ↔
      (∀ index item, items[index]? = some item →
        ∃ built, itemCall build scope site elements item index = .ok built) ∧
      ∀ inner, schema.field? "additionalItems" = some (.object inner) →
        ∀ value ∈ elements.drop items.length,
          ∃ built, build (.object inner) scope site (some value) = .ok built := by
  rw [← completeTuple_zero_ends_iff keeps]
  constructor
  · rintro ⟨final, ran⟩
    obtain ⟨completed, ranTuple, _, _, additional, _⟩ := of_buildArray_tuple keeps ran
    refine ⟨⟨completed, ranTuple⟩, fun inner isObject => ?_⟩
    exact (mapM_rebuild_ends_iff keeps).mp ⟨_, additional inner isObject⟩
  · rintro ⟨⟨completed, ranTuple⟩, additional⟩
    rw [buildArray, bind_of_ends ranTuple, drop_of_completeTuple keeps ranTuple]
    split
    next inner isObject =>
      obtain ⟨more, ranMore⟩ := (mapM_rebuild_ends_iff keeps).mpr (additional inner isObject)
      exact ⟨_, bind_of_ends ranMore⟩
    next => exact ⟨completed, rfl⟩

end Completing

/-! ### Nodes with a list of item schemas -/

section Node

variable {builder : Builder} {visit node : Visit} {tuple elements : List Json}

private theorem build_array (enters : builder.Enters visit node)
    (isTuple : node.schema.field? "items" = some (.array tuple))
    (given : node.given = some (.array elements)) (budget : Nat) :
    builder.build (budget + 1) visit.schema visit.scope visit.site visit.value =
      buildArray (builder.build budget) node.schema node.scope node.site.inside (.array tuple)
        elements >>= fun final => pure (.plain (some (.array final))) := by
  rw [build, buildNode_of_enters enters, buildTarget]
  dsimp only
  rw [show (node.value <|> node.schema.field? "default") = some (.array elements) from given, isTuple]
  rfl

private theorem forall_drop_iff {count : Nat} {holds : Json → Prop} {atIndex : Nat → Prop}
    (same : ∀ value index, elements[index]? = some value → (holds value ↔ atIndex index)) :
    (∀ value ∈ elements.drop count, holds value) ↔
      ∀ index, count ≤ index → index < elements.length → atIndex index := by
  constructor
  · intro all index behind inRange
    have isValue := List.getElem?_eq_getElem inRange
    refine (same _ _ isValue).mp (all _ (List.mem_iff_getElem?.mpr ⟨index - count, ?_⟩))
    rw [List.getElem?_drop, Nat.add_sub_cancel' behind, isValue]
  · intro all value isMember
    obtain ⟨offset, isValue⟩ := List.mem_iff_getElem?.mp isMember
    rw [List.getElem?_drop] at isValue
    obtain ⟨inRange, _⟩ := List.getElem?_eq_some_iff.mp isValue
    exact (same _ _ isValue).mpr (all _ (Nat.le_add_right _ _) inRange)

/-- What an array is built to, by any node with a list of item schemas, at whatever depth and whatever
references are being expanded. Building it ends exactly if the building does for each item, from the
element at its position or from absence, and for each element behind the items, if `additionalItems`
is an object. Then the result is as long as the array, or reaches to the last item behind the array
for which there is a value. An element with an item is what has been built from it; at a position beyond
the array is what has been built from absence, or null; and the elements behind the items stay as they
are, but for being rebuilt by `additionalItems` if that is an object. -/
theorem elements_of_build (enters : builder.Enters visit node)
    (isTuple : node.schema.field? "items" = some (.array tuple))
    (given : node.given = some (.array elements)) (budget : Nat) :
    let whole := builder.build (budget + 1) visit.schema visit.scope visit.site visit.value
    let call (item : Json) (index : Nat) :=
      builder.build budget item node.scope node.site.inside elements[index]?
    let result (index : Nat) := tuple[index]?.bind fun item => Built.result (call item index)
    let additional := node.schema.field? "additionalItems"
    ((∃ built, whole = .ok built) ↔
      (∀ index item, tuple[index]? = some item → ∃ built, call item index = .ok built) ∧
      ∀ inner, additional = some (.object inner) → ∀ index, tuple.length ≤ index →
        index < elements.length → ∃ built, call (.object inner) index = .ok built) ∧
      ∀ built, whole = .ok built → ∃ final, built = .plain (some (.array final)) ∧
        (∀ last, IsGreatest {index | elements.length ≤ index ∧ index < tuple.length ∧
            (result index).isSome} last → final.length = max elements.length (1 + last)) ∧
        ((∀ index, elements.length ≤ index → index < tuple.length → result index = none) →
          final.length = elements.length) ∧
        (∀ index, index < elements.length → index < tuple.length → final[index]? = result index) ∧
        (∀ index, elements.length ≤ index → index < final.length →
          final[index]? = some ((result index).getD .null)) ∧
        (∀ inner, additional = some (.object inner) → ∀ index, tuple.length ≤ index →
          index < elements.length → final[index]? = Built.result (call (.object inner) index)) ∧
        ((∀ inner, additional ≠ some (.object inner)) → ∀ index, tuple.length ≤ index →
          final[index]? = elements[index]?) := by
  intro whole call result additional
  have keeps := keepsPresent_build builder budget
  have ranWhole : whole = _ := build_array enters isTuple given budget
  constructor
  · have wholeEnds : (∃ built, whole = .ok built) ↔ ∃ final, buildArray (builder.build budget)
        node.schema node.scope node.site.inside (.array tuple) elements = .ok final := by
      rw [ranWhole]
      constructor
      · rintro ⟨built, ran⟩
        obtain ⟨final, ranArray, _⟩ := ends_of_bind ran
        exact ⟨final, ranArray⟩
      · rintro ⟨final, ranArray⟩
        exact ⟨_, bind_of_ends ranArray⟩
    rw [wholeEnds, buildArray_tuple_ends_iff keeps]
    refine and_congr_right fun _ => forall₂_congr fun inner isObject => ?_
    exact forall_drop_iff fun value index isValue => by rw [← isValue]
  · intro built ran
    rw [ranWhole] at ran
    obtain ⟨final, ranArray, isFinal⟩ := ends_of_bind ran
    obtain ⟨completed, ranTuple, sameLength, sameTake, rebuilt, kept⟩ :=
      of_buildArray_tuple keeps ranArray
    have placed : PlacedBy result elements completed := placedBy_of_completeTuple keeps ranTuple
    have reach := completeTuple_length ranTuple
    have before {index : Nat} (inTuple : index < tuple.length) : final[index]? = completed[index]? := by
      rw [← List.getElem?_take_of_lt inTuple, sameTake, List.getElem?_take_of_lt inTuple]
    have behind {index : Nat} (beyond : tuple.length ≤ index) :
        final[index]? = (final.drop tuple.length)[index - tuple.length]? ∧
          elements[index]? = (elements.drop tuple.length)[index - tuple.length]? := by
      rw [List.getElem?_drop, List.getElem?_drop, Nat.add_sub_cancel' beyond]
      exact ⟨rfl, rfl⟩
    have noItem {index : Nat} (beyond : tuple.length ≤ index) : result index = none :=
      itemResult_beyond beyond
    refine ⟨final, (Except.ok.inj isFinal).symm, ?_, ?_, ?_, ?_, ?_, ?_⟩
    · intro last greatest
      rw [sameLength]
      refine placed.length_of_isGreatest ⟨⟨greatest.1.1, greatest.1.2.2⟩, ?_⟩
      rintro index ⟨beyond, isSome⟩
      refine greatest.2 ⟨beyond, Nat.not_le.mp fun outside => ?_, isSome⟩
      rw [noItem outside] at isSome
      cases isSome
    · intro noResult
      rw [sameLength]
      refine placed.length_of_none fun index beyond => ?_
      rcases Nat.lt_or_ge index tuple.length with inTuple | outside
      · exact noResult index beyond inTuple
      · exact noItem outside
    · intro index inElements inTuple
      obtain ⟨value, isValue⟩ := itemResult_of_present keeps ranTuple inElements inTuple
      have isResult : result index = some value := isValue
      rw [before inTuple, placed.holds index (by omega), isResult]
      rfl
    · intro index beyond inFinal
      rw [before (by omega), placed.holds index (by omega), List.getElem?_eq_none beyond, Option.or_none]
    · intro inner isObject index beyond inElements
      rw [(behind beyond).1, getElem?_of_mapM_rebuild keeps (rebuilt inner isObject), ← (behind beyond).2]
      dsimp only [call]
      rw [List.getElem?_eq_getElem inElements]
      rfl
    · intro noObject index beyond
      rw [(behind beyond).1, kept noObject, ← (behind beyond).2]

def rowSchema : Json :=
  .object
    [("$ref", .string "#/definitions/row"),
      ("definitions", .object
        [("wide", .object [("default", .bool true)]),
          ("row", .object
            [("items", .array
                [.object [("properties", .object
                    [("wide", .object [("$ref", .string "#/definitions/wide")])])],
                  .object [], .object [("default", .string "left")], .object []]),
              ("additionalItems", .object [("default", .bool false)])])])]

theorem elements_of_build_row :
    let builder : Builder := ⟨⟨rowSchema, [], false⟩, true⟩
    ∃ final, builder.build 3 rowSchema .main .start (some (.array [.object []])) =
        .ok (.plain (some (.array final))) ∧
      final.length = 3 ∧ final[0]? = some (.object [("wide", .bool true)]) ∧ final[1]? = some .null ∧
      final[2]? = some (.string "left") := by
  intro builder
  let visit : Visit := ⟨rowSchema, .main, .start, some (.array [.object []])⟩
  have enters : builder.Enters visit _ := .reference rfl rfl (by rfl)
  have ran : builder.build 3 visit.schema visit.scope visit.site visit.value =
      .ok (.plain (some (.array [.object [("wide", .bool true)], .null, .string "left"]))) := by rfl
  obtain ⟨-, complete⟩ := elements_of_build enters rfl rfl 2
  obtain ⟨final, isFinal, reached, -, present, absent, -⟩ := complete _ ran
  have length : final.length = 3 := by
    refine reached 2 ⟨⟨by decide, by decide, rfl⟩, ?_⟩
    rintro index ⟨-, inTuple, isSome⟩
    change index < 4 at inTuple
    by_contra beyond
    obtain rfl : index = 3 := by omega
    cases isSome
  refine ⟨final, ran.trans (congrArg _ isFinal), length, ?_, ?_, ?_⟩
  · exact present 0 (by decide) (by decide)
  · exact absent 1 (by decide) (by omega)
  · exact absent 2 (by decide) (by omega)

end Node

end Builder

end JsonSchema
