import Mathlib.Data.List.Induction
import JsonSchema.Proofs.Compiling.Keywords

set_option autoImplicit false

/-! The groups of a node's checks. The compiler adds the checks one by one to the group of their kind;
what comes out is, for every kind that comes up, the list of all checks of that kind. This is how the
interpreter states it. -/

namespace JsonSchema

theorem nodup_eraseDups {Item : Type} [BEq Item] [LawfulBEq Item] (items : List Item) :
    items.eraseDups.Nodup := by
  induction items using List.reverseRecOn with
  | nil => exact List.nodup_nil
  | append_singleton before item ih =>
      rw [List.eraseDups_append]
      by_cases present : item ∈ before
      · simpa [List.removeAll, present] using ih
      · have last : ([item].removeAll before).eraseDups = [item] := by
          simp [List.removeAll, present, List.eraseDups_cons]
        rw [last, List.nodup_append]
        refine ⟨ih, List.pairwise_singleton _ item, ?_⟩
        intro earlier member other isLast equal
        rw [List.mem_singleton.mp isLast] at equal
        exact present (equal ▸ List.mem_eraseDups.mp member)

namespace Check

def ofKind (emitted : List (Keyword × Check)) (kind : Option Kind) : List Check :=
  (emitted.filter fun entry => entry.1.kind? = kind).map (·.2)

def kindsOf (emitted : List (Keyword × Check)) : List Kind :=
  (emitted.filterMap fun entry => entry.1.kind?).eraseDups

private theorem addGuarded_map {kind : Kind} {check : Check} {kinds : List Kind}
    {groups : Kind → List Check} (distinct : kinds.Nodup) :
    addGuarded kind check (kinds.map fun each => (each, groups each)) =
      if kind ∈ kinds then
        kinds.map fun each => (each, if each = kind then groups each ++ [check] else groups each)
      else (kinds.map fun each => (each, groups each)) ++ [(kind, [check])] := by
  induction kinds with
  | nil => rfl
  | cons first rest ih =>
      rw [List.map_cons, addGuarded]
      obtain ⟨notInRest, distinctRest⟩ := List.nodup_cons.mp distinct
      by_cases equal : first = kind
      · subst equal
        rw [if_pos rfl, if_pos List.mem_cons_self, List.map_cons, if_pos rfl]
        congr 1
        apply List.map_congr_left
        intro each member
        have other : each ≠ first := by
          rintro rfl
          exact notInRest member
        rw [if_neg other]
      · rw [if_neg equal, ih distinctRest]
        by_cases inRest : kind ∈ rest
        · rw [if_pos inRest, if_pos (List.mem_cons_of_mem first inRest), List.map_cons,
            if_neg equal]
        · have notMember : kind ∉ first :: rest := by
            intro member
            rcases List.mem_cons.mp member with same | later
            · exact equal same.symm
            · exact inRest later
          rw [if_neg inRest, if_neg notMember]
          rfl

@[simp] theorem ofKind_append (before : List (Keyword × Check)) (keyword : Keyword) (check : Check)
    (kind : Option Kind) :
    ofKind (before ++ [(keyword, check)]) kind =
      if keyword.kind? = kind then ofKind before kind ++ [check] else ofKind before kind := by
  unfold ofKind
  rw [List.filter_append, List.map_append]
  by_cases same : keyword.kind? = kind
  · simp [same]
  · simp [same]

theorem kindsOf_append_general {before : List (Keyword × Check)} {keyword : Keyword} {check : Check}
    (general : keyword.kind? = none) : kindsOf (before ++ [(keyword, check)]) = kindsOf before := by
  unfold kindsOf
  rw [List.filterMap_append]
  simp [general]

theorem kindsOf_append_guarded {before : List (Keyword × Check)} {keyword : Keyword} {check : Check}
    {kind : Kind} (guarded : keyword.kind? = some kind) :
    kindsOf (before ++ [(keyword, check)]) =
      if kind ∈ kindsOf before then kindsOf before else kindsOf before ++ [kind] := by
  by_cases present : kind ∈ kindsOf before
  · rw [if_pos present]
    unfold kindsOf at present ⊢
    rw [List.mem_eraseDups] at present
    rw [List.filterMap_append, List.eraseDups_append]
    simp [guarded, present, List.removeAll]
  · rw [if_neg present]
    unfold kindsOf at present ⊢
    rw [List.mem_eraseDups] at present
    rw [List.filterMap_append, List.eraseDups_append]
    simp [guarded, present, List.removeAll]
    rfl

theorem nodup_kindsOf (emitted : List (Keyword × Check)) : (kindsOf emitted).Nodup :=
  nodup_eraseDups _

theorem ofKind_eq_nil {emitted : List (Keyword × Check)} {kind : Kind}
    (absent : kind ∉ kindsOf emitted) : ofKind emitted (some kind) = [] := by
  unfold kindsOf at absent
  rw [List.mem_eraseDups] at absent
  unfold ofKind
  rw [List.map_eq_nil_iff, List.filter_eq_nil_iff]
  intro entry member ofThis
  exact absent (List.mem_filterMap.mpr ⟨entry, member, of_decide_eq_true ofThis⟩)

theorem grouped_append (before : List (Keyword × Check)) (keyword : Keyword) (check : Check) :
    grouped (before ++ [(keyword, check)]) =
      match keyword.kind? with
      | none => ((grouped before).1 ++ [check], (grouped before).2)
      | some kind => ((grouped before).1, addGuarded kind check (grouped before).2) := by
  unfold grouped
  rw [List.foldl_append]
  rfl

theorem grouped_eq (emitted : List (Keyword × Check)) :
    grouped emitted =
      (ofKind emitted none, (kindsOf emitted).map fun kind => (kind, ofKind emitted (some kind))) := by
  induction emitted using List.reverseRecOn with
  | nil => rfl
  | append_singleton before entry ih =>
      obtain ⟨keyword, check⟩ := entry
      rw [grouped_append, ih, ofKind_append]
      cases found : keyword.kind? with
      | none =>
          rw [kindsOf_append_general found, if_pos rfl]
          dsimp only
          congr 1
          apply List.map_congr_left
          intro kind _
          simp [found]
      | some kind =>
          rw [kindsOf_append_guarded found, if_neg (Option.some_ne_none kind)]
          dsimp only
          rw [addGuarded_map (nodup_kindsOf before)]
          congr 1
          have others {each : Kind} (other : each ≠ kind) :
              ofKind (before ++ [(keyword, check)]) (some each) = ofKind before (some each) := by
            simp [found, other.symm]
          have own : ofKind (before ++ [(keyword, check)]) (some kind) =
              ofKind before (some kind) ++ [check] := by
            simp [found]
          split
          next present =>
            apply List.map_congr_left
            intro each _
            by_cases same : each = kind
            · rw [if_pos same, same, own]
            · rw [if_neg same, others same]
          next absent =>
            rw [List.map_append, List.map_singleton, own, ofKind_eq_nil absent, List.nil_append]
            congr 1
            apply List.map_congr_left
            intro each member
            rw [others fun same => absent (same ▸ member)]

end Check

/-! ### The groups of the interpreter -/

/-- A check of a keyword makes what the interpreter asks by this keyword. -/
def Emits (Same : SchemaNode → Rule → Prop) (messages : Messages)
    (ask : Keyword × (Json → List (Demand SchemaNode))) (entry : Keyword × Check) : Prop :=
  ask.1 = entry.1 ∧ entry.2.Answers Same messages ask.2

section Groups

variable {Same : SchemaNode → Rule → Prop} {messages : Messages}
  {asks : List (Keyword × (Json → List (Demand SchemaNode)))} {emitted : List (Keyword × Check)}

private theorem kinds_of_emits (emits : List.Forall₂ (Emits Same messages) asks emitted) :
    (asks.filterMap fun ask => ask.1.kind?) = emitted.filterMap fun entry => entry.1.kind? := by
  induction emits with
  | nil => rfl
  | cons entry _ ih =>
      rw [List.filterMap_cons, List.filterMap_cons, ih, entry.1]

private theorem allAlike_ofKind (emits : List.Forall₂ (Emits Same messages) asks emitted)
    (kind : Option Kind) (value : Json) :
    Demand.AllAlike Same
      ((asks.filter fun ask => ask.1.kind? = kind).flatMap fun ask => ask.2 value)
      ((Check.ofKind emitted kind).flatMap (Check.demands messages value)) := by
  unfold Check.ofKind
  rw [List.flatMap_map]
  induction emits with
  | nil => exact .nil
  | @cons ask entry _ _ emitsFirst _ ih =>
      rw [List.filter_cons, List.filter_cons, emitsFirst.1]
      split
      next =>
        rw [List.flatMap_cons, List.flatMap_cons]
        exact List.rel_append (emitsFirst.2 value) ih
      next => exact ih

/-- The grouped checks make what the interpreter asks in groups. -/
theorem allAlike_grouped (emits : List.Forall₂ (Emits Same messages) asks emitted) (value : Json) :
    Demand.AllAlike Same (Interpreter.grouped asks value)
      ((Check.grouped emitted).1.flatMap (Check.demands messages value) ++
        (Check.grouped emitted).2.flatMap fun (kind, group) =>
          if kind.accepts value then group.flatMap (Check.demands messages value) else []) := by
  rw [Check.grouped_eq]
  unfold Interpreter.grouped
  refine List.rel_append (allAlike_ofKind emits none value) ?_
  rw [List.flatMap_map, kinds_of_emits emits]
  apply forall₂_flatMap_self
  intro kind
  dsimp only
  split
  next => exact allAlike_ofKind emits (some kind) value
  next => exact .nil

end Groups

end JsonSchema
