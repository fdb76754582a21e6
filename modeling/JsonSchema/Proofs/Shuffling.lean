import Mathlib.Data.List.Perm.Basic

set_option autoImplicit false

/-! Lists that correspond item by item once one of them is put in another order, and options that
correspond. -/

namespace JsonSchema

abbrev SameEntry {Left Right : Type} (Same : Left → Right → Prop) (left : String × Left)
    (right : String × Right) : Prop :=
  left.1 = right.1 ∧ Same left.2 right.2

theorem sameEntry_self {Value : Type} (entries : List (String × Value)) :
    List.Forall₂ (SameEntry Eq) entries entries :=
  List.forall₂_same.mpr fun _ _ => ⟨rfl, rfl⟩

namespace Optional

variable {Left Right Item Other : Type} {Same : Left → Right → Prop} {Alike : Item → Other → Prop}
  {left : Option Left} {right : Option Right}

theorem eq_of_rel {left right : Option Item} (same : Option.Rel Eq left right) : left = right := by
  cases same with
  | none => rfl
  | some equal => rw [equal]

theorem rel_self (option : Option Item) : Option.Rel Eq option option := by
  cases option with
  | none => exact .none
  | some item => exact .some rfl

/-- Where two options correspond, a program goes on in the same way on both sides. -/
@[elab_as_elim]
theorem rel_elim {motive : Option Left → Option Right → Prop} (same : Option.Rel Same left right)
    (none : motive none none)
    (some : ∀ first second, Same first second → motive (some first) (some second)) :
    motive left right := by
  cases same with
  | none => exact none
  | some same => exact some _ _ same

theorem exists_right {first : Left} (same : Option.Rel Same left right) (found : left = some first) :
    ∃ second, right = some second ∧ Same first second := by
  cases same with
  | none => cases found
  | some same =>
      cases found
      exact ⟨_, rfl, same⟩

theorem exists_left {second : Right} (same : Option.Rel Same left right)
    (found : right = some second) : ∃ first, left = some first ∧ Same first second := by
  cases same with
  | none => cases found
  | some same =>
      cases found
      exact ⟨_, rfl, same⟩

theorem eq_none (same : Option.Rel Same left right) (absent : left = none) : right = none := by
  cases same with
  | none => rfl
  | some => cases absent

theorem isSome_eq (same : Option.Rel Same left right) : left.isSome = right.isSome := by
  cases same <;> rfl

theorem rel_getD (same : Option.Rel Same left right) {first : Left} {second : Right}
    (otherwise : Same first second) : Same (left.getD first) (right.getD second) := by
  cases same with
  | none => exact otherwise
  | some same => exact same

theorem rel_bind {leftNext : Left → Option Item} {rightNext : Right → Option Other}
    (same : Option.Rel Same left right)
    (carried : ∀ first second, Same first second →
      Option.Rel Alike (leftNext first) (rightNext second)) :
    Option.Rel Alike (left.bind leftNext) (right.bind rightNext) := by
  cases same with
  | none => exact .none
  | some same => exact carried _ _ same

theorem rel_map {leftNext : Left → Item} {rightNext : Right → Other}
    (same : Option.Rel Same left right)
    (carried : ∀ first second, Same first second → Alike (leftNext first) (rightNext second)) :
    Option.Rel Alike (left.map leftNext) (right.map rightNext) := by
  cases same with
  | none => exact .none
  | some same => exact .some (carried _ _ same)

theorem bind_eq {leftNext : Left → Option Item} {rightNext : Right → Option Item}
    (same : Option.Rel Same left right)
    (equal : ∀ first second, Same first second → leftNext first = rightNext second) :
    left.bind leftNext = right.bind rightNext := by
  cases same with
  | none => rfl
  | some same => exact equal _ _ same

theorem rel_getElem? {lefts : List Left} {rights : List Right}
    (each : List.Forall₂ Same lefts rights) (index : Nat) :
    Option.Rel Same lefts[index]? rights[index]? := by
  induction each generalizing index with
  | nil => exact .none
  | cons same _ ih =>
      cases index with
      | zero => exact .some same
      | succ index => exact ih index

theorem rel_lookup {lefts : List (String × Left)} {rights : List (String × Right)}
    (each : List.Forall₂ (SameEntry Same) lefts rights)
    (name : String) : Option.Rel Same (lefts.lookup name) (rights.lookup name) := by
  induction each with
  | nil => exact .none
  | @cons entry other _ _ same _ ih =>
      obtain ⟨key, value⟩ := entry
      obtain ⟨otherKey, otherValue⟩ := other
      obtain ⟨rfl, sameValue⟩ := same
      rw [List.lookup_cons, List.lookup_cons]
      cases name == key with
      | true => exact .some sameValue
      | false => exact ih

end Optional

theorem forall₂_exchange {Left Right Item Other : Type} {Same : Left → Right → Prop}
    {Leads : Left → Item → Prop} {Follows : Right → Other → Prop} {lefts : List Left}
    {rights : List Right} {items : List Item} {others : List Other}
    (each : List.Forall₂ Same lefts rights) (before : List.Forall₂ Leads lefts items)
    (after : List.Forall₂ Follows rights others) :
    List.Forall₂ (fun item other => ∃ left right, Same left right ∧ Leads left item ∧
      Follows right other) items others := by
  induction each generalizing items others with
  | nil =>
      cases before
      cases after
      exact .nil
  | cons same _ ih =>
      cases before with
      | cons leads before =>
          cases after with
          | cons follows after => exact .cons ⟨_, _, same, leads, follows⟩ (ih before after)

theorem forall₂_join {Item Left Right : Type} {holds : Item → Prop} {Leads : Item → Left → Prop}
    {Follows : Item → Right → Prop} {items : List Item} {lefts : List Left} {rights : List Right}
    (each : ∀ item ∈ items, holds item) (before : List.Forall₂ Leads items lefts)
    (after : List.Forall₂ Follows items rights) :
    List.Forall₂ (fun left right => ∃ item, holds item ∧ Leads item left ∧ Follows item right)
      lefts rights := by
  have same : List.Forall₂ (fun item other => item = other ∧ holds item) items items :=
    List.forall₂_same.mpr fun item member => ⟨rfl, each item member⟩
  apply (forall₂_exchange same before after).imp
  rintro left right ⟨item, _, ⟨rfl, known⟩, leads, follows⟩
  exact ⟨item, known, leads, follows⟩

theorem forall₂_flatMap_self {Source Item Other : Type} {Same : Item → Other → Prop}
    {left : Source → List Item} {right : Source → List Other} (sources : List Source)
    (each : ∀ source, List.Forall₂ Same (left source) (right source)) :
    List.Forall₂ Same (sources.flatMap left) (sources.flatMap right) := by
  have same : List.Forall₂ Eq sources sources := List.forall₂_refl sources
  refine List.rel_flatMap same ?_
  rintro source _ rfl
  exact each source

section Forall₂

variable {Left Right Item : Type} {Same : Left → Right → Prop} {lefts : List Left}
  {rights : List Right}

private theorem map_eq_of_forall₂ {left : Left → Item} {right : Right → Item}
    (each : List.Forall₂ Same lefts rights)
    (equal : ∀ first second, Same first second → left first = right second) :
    lefts.map left = rights.map right := by
  rw [← List.forall₂_eq_eq_eq]
  exact List.rel_map (fun _ _ same => equal _ _ same) each

theorem any_eq_of_forall₂ {left : Left → Bool} {right : Right → Bool}
    (each : List.Forall₂ Same lefts rights)
    (equal : ∀ first second, Same first second → left first = right second) :
    lefts.any left = rights.any right := by
  induction each with
  | nil => rfl
  | cons same _ ih => rw [List.any_cons, List.any_cons, equal _ _ same, ih]

theorem filterMap_eq_of_forall₂ {left : Left → Option Item} {right : Right → Option Item}
    (each : List.Forall₂ Same lefts rights)
    (equal : ∀ first second, Same first second → left first = right second) :
    lefts.filterMap left = rights.filterMap right := by
  induction each with
  | nil => rfl
  | cons same _ ih => rw [List.filterMap_cons, List.filterMap_cons, equal _ _ same, ih]

theorem mapM_eq_of_forall₂ {left : Left → Option Item} {right : Right → Option Item}
    (each : List.Forall₂ Same lefts rights)
    (equal : ∀ first second, Same first second → left first = right second) :
    lefts.mapM left = rights.mapM right := by
  induction each with
  | nil => rfl
  | cons same _ ih => rw [List.mapM_cons, List.mapM_cons, equal _ _ same, ih]

end Forall₂

/-- Some order of the list on the right has, item by item, what the list on the left has. -/
def Shuffled {Left Right : Type} (Same : Left → Right → Prop) (lefts : List Left)
    (rights : List Right) : Prop :=
  ∃ middle, List.Forall₂ Same lefts middle ∧ middle.Perm rights

namespace Shuffled

variable {Left Right Item Other : Type} {Same : Left → Right → Prop} {Alike : Item → Other → Prop}
  {lefts moreLefts : List Left} {rights moreRights : List Right}

theorem of_forall₂ (each : List.Forall₂ Same lefts rights) : Shuffled Same lefts rights :=
  ⟨rights, each, .refl rights⟩

theorem nil : Shuffled Same [] [] := of_forall₂ .nil

theorem single {left : Left} {right : Right} (same : Same left right) :
    Shuffled Same [left] [right] := of_forall₂ (.cons same .nil)

theorem of_option {left : Option Left} {right : Option Right} (same : Option.Rel Same left right) :
    Shuffled Same left.toList right.toList := by
  cases same with
  | none => exact nil
  | some same => exact single same

theorem imp {Weaker : Left → Right → Prop} (shuffled : Shuffled Same lefts rights)
    (implied : ∀ left right, Same left right → Weaker left right) :
    Shuffled Weaker lefts rights := by
  obtain ⟨middle, each, perm⟩ := shuffled
  exact ⟨middle, each.imp implied, perm⟩

theorem perm_right (shuffled : Shuffled Same lefts rights) (perm : rights.Perm moreRights) :
    Shuffled Same lefts moreRights := by
  obtain ⟨middle, each, before⟩ := shuffled
  exact ⟨middle, each, before.trans perm⟩

theorem perm_left (perm : moreLefts.Perm lefts) (shuffled : Shuffled Same lefts rights) :
    Shuffled Same moreLefts rights := by
  obtain ⟨middle, each, after⟩ := shuffled
  obtain ⟨other, eachOther, before⟩ := List.perm_comp_forall₂ perm each
  exact ⟨other, eachOther, before.trans after⟩

theorem append (shuffled : Shuffled Same lefts rights) (more : Shuffled Same moreLefts moreRights) :
    Shuffled Same (lefts ++ moreLefts) (rights ++ moreRights) := by
  obtain ⟨middle, each, perm⟩ := shuffled
  obtain ⟨moreMiddle, eachMore, permMore⟩ := more
  exact ⟨middle ++ moreMiddle, List.rel_append each eachMore, perm.append permMore⟩

theorem map {left : Left → Item} {right : Right → Other} (shuffled : Shuffled Same lefts rights)
    (carried : ∀ first second, Same first second → Alike (left first) (right second)) :
    Shuffled Alike (lefts.map left) (rights.map right) := by
  obtain ⟨middle, each, perm⟩ := shuffled
  exact ⟨middle.map right, List.rel_map (fun _ _ same => carried _ _ same) each, perm.map right⟩

theorem filter {left : Left → Bool} {right : Right → Bool} (shuffled : Shuffled Same lefts rights)
    (equal : ∀ first second, Same first second → left first = right second) :
    Shuffled Same (lefts.filter left) (rights.filter right) := by
  obtain ⟨middle, each, perm⟩ := shuffled
  refine ⟨middle.filter right, List.rel_filter ?_ each, perm.filter right⟩
  intro first second same
  dsimp only
  rw [equal first second same]

theorem filterMap {left : Left → Option Item} {right : Right → Option Other}
    (shuffled : Shuffled Same lefts rights)
    (carried : ∀ first second, Same first second → Option.Rel Alike (left first) (right second)) :
    Shuffled Alike (lefts.filterMap left) (rights.filterMap right) := by
  obtain ⟨middle, each, perm⟩ := shuffled
  exact ⟨middle.filterMap right, List.rel_filterMap (fun _ _ same => carried _ _ same) each,
    perm.filterMap right⟩

private theorem flatten {left : List (List Item)} {right : List (List Other)}
    (each : List.Forall₂ (Shuffled Alike) left right) :
    Shuffled Alike left.flatten right.flatten := by
  induction each with
  | nil => exact nil
  | cons first _ ih => exact first.append ih

theorem flatMap {left : Left → List Item} {right : Right → List Other}
    (shuffled : Shuffled Same lefts rights)
    (carried : ∀ first second, Same first second → Shuffled Alike (left first) (right second)) :
    Shuffled Alike (lefts.flatMap left) (rights.flatMap right) := by
  obtain ⟨middle, each, perm⟩ := shuffled
  have parts : Shuffled Alike (lefts.flatMap left) (middle.flatMap right) :=
    flatten (List.rel_map (fun _ _ same => carried _ _ same) each)
  exact parts.perm_right (perm.flatMap_right right)

theorem exchange {items : List Item} {others : List Other} {Leads : Left → Item → Prop}
    {Follows : Right → Other → Prop} (shuffled : Shuffled Same lefts rights)
    (before : List.Forall₂ Leads lefts items) (after : List.Forall₂ Follows rights others) :
    Shuffled (fun item other => ∃ left right, Same left right ∧ Leads left item ∧
      Follows right other) items others := by
  obtain ⟨middle, each, perm⟩ := shuffled
  obtain ⟨moved, eachMoved, permMoved⟩ := List.perm_comp_forall₂ perm after
  exact ⟨moved, forall₂_exchange each before eachMoved, permMoved⟩

theorem length_eq (shuffled : Shuffled Same lefts rights) : lefts.length = rights.length := by
  obtain ⟨middle, each, perm⟩ := shuffled
  exact each.length_eq.trans perm.length_eq

theorem exists_right {left : Left} (shuffled : Shuffled Same lefts rights) (member : left ∈ lefts) :
    ∃ right ∈ rights, Same left right := by
  obtain ⟨middle, each, perm⟩ := shuffled
  have found : ∃ right ∈ middle, Same left right := by
    clear perm
    induction each with
    | nil => cases member
    | cons same _ ih =>
        rcases List.mem_cons.mp member with rfl | later
        · exact ⟨_, List.mem_cons_self, same⟩
        · obtain ⟨right, isMiddle, sameRight⟩ := ih later
          exact ⟨right, List.mem_cons_of_mem _ isMiddle, sameRight⟩
  obtain ⟨right, isMiddle, same⟩ := found
  exact ⟨right, perm.mem_iff.mp isMiddle, same⟩

theorem perm_map {left : Left → Item} {right : Right → Item} (shuffled : Shuffled Same lefts rights)
    (equal : ∀ first second, Same first second → left first = right second) :
    (lefts.map left).Perm (rights.map right) := by
  obtain ⟨middle, each, perm⟩ := shuffled
  rw [map_eq_of_forall₂ each equal]
  exact perm.map right

private theorem head? (shuffled : Shuffled Same lefts rights) (single : lefts.length ≤ 1) :
    Option.Rel Same lefts.head? rights.head? := by
  obtain ⟨middle, each, perm⟩ := shuffled
  cases each with
  | nil =>
      rw [← perm.nil_eq]
      exact .none
  | cons same more =>
      obtain rfl := List.length_eq_zero_iff.mp (Nat.le_zero.mp (Nat.le_of_succ_le_succ single))
      rw [List.forall₂_nil_left_iff.mp more] at perm
      rw [← List.singleton_perm.mp perm]
      exact .some same

/-- The first items of two orders of one list, if any two items correspond. -/
theorem take_one {Same : Left → Left → Prop} {lefts rights : List Left} (perm : lefts.Perm rights)
    (any : ∀ left ∈ lefts, ∀ right ∈ rights, Same left right) :
    Shuffled Same (lefts.take 1) (rights.take 1) := by
  cases lefts with
  | nil =>
      rw [← perm.nil_eq]
      exact nil
  | cons left moreLeft =>
      cases rights with
      | nil => cases perm.eq_nil
      | cons right moreRight =>
          exact single (any left List.mem_cons_self right List.mem_cons_self)

theorem find? {left : Left → Bool} {right : Right → Bool} (shuffled : Shuffled Same lefts rights)
    (equal : ∀ first second, Same first second → left first = right second)
    (single : (lefts.filter left).length ≤ 1) :
    Option.Rel Same (lefts.find? left) (rights.find? right) := by
  rw [← List.head?_filter, ← List.head?_filter]
  exact (shuffled.filter equal).head? single

end Shuffled

/-- A way for lists to correspond, given one for their items: item by item, or so in some order. Lists that
are made in one way from corresponding ones correspond as well. -/
structure Listwise (Lists : ∀ {Item Other : Type}, (Item → Other → Prop) → List Item → List Other → Prop) :
    Prop where
  of_forall₂ : ∀ {Left Right : Type} {Same : Left → Right → Prop} {lefts : List Left} {rights : List Right},
    List.Forall₂ Same lefts rights → Lists Same lefts rights
  length_eq : ∀ {Left Right : Type} {Same : Left → Right → Prop} {lefts : List Left} {rights : List Right},
    Lists Same lefts rights → lefts.length = rights.length
  flatMap : ∀ {Left Right Item Other : Type} {Same : Left → Right → Prop} {Alike : Item → Other → Prop}
    {lefts : List Left} {rights : List Right} {left : Left → List Item} {right : Right → List Other},
    Lists Same lefts rights → (∀ first second, Same first second → Lists Alike (left first) (right second)) →
      Lists Alike (lefts.flatMap left) (rights.flatMap right)

theorem listwise_forall₂ : Listwise List.Forall₂ where
  of_forall₂ := id
  length_eq := List.Forall₂.length_eq
  flatMap := fun each carried => List.rel_flatMap each fun _ _ same => carried _ _ same

theorem listwise_shuffled : Listwise Shuffled where
  of_forall₂ := Shuffled.of_forall₂
  length_eq := Shuffled.length_eq
  flatMap := Shuffled.flatMap

namespace Listwise

variable {Lists : ∀ {Item Other : Type}, (Item → Other → Prop) → List Item → List Other → Prop}
  {Left Right Item Other : Type} {Same : Left → Right → Prop} {Alike : Item → Other → Prop}

theorem map (listwise : Listwise Lists) {lefts : List Left} {rights : List Right} {left : Left → Item}
    {right : Right → Other} (each : Lists Same lefts rights)
    (carried : ∀ first second, Same first second → Alike (left first) (right second)) :
    Lists Alike (lefts.map left) (rights.map right) := by
  rw [List.map_eq_flatMap, List.map_eq_flatMap]
  exact listwise.flatMap each fun _ _ same => listwise.of_forall₂ (.cons (carried _ _ same) .nil)

theorem of_option (listwise : Listwise Lists) {left : Option Left} {right : Option Right}
    (same : Option.Rel Same left right) : Lists Same left.toList right.toList := by
  cases same with
  | none => exact listwise.of_forall₂ .nil
  | some same => exact listwise.of_forall₂ (.cons same .nil)

end Listwise

end JsonSchema
