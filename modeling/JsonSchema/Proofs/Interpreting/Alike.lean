import Mathlib.Data.List.Forall2
import JsonSchema.Proofs.Checking.Demand
import JsonSchema.Proofs.Compatible
import JsonSchema.Proofs.Shuffling

set_option autoImplicit false

/-! Demands that correspond, by the values and the nodes in them. When these correspond in a compatible
way, so do the findings; this serves for the agreement of two semantics as well as for the growth of
one with its fuel. The forms in which keywords make demands yield demands that correspond. -/

namespace JsonSchema

namespace Demand

variable {Left Right : Type}

/-- Two demands that differ in nothing but values and nodes that are the same in the given senses. -/
inductive Corresponds (SameValue : Json → Json → Prop) (Same : Left → Right → Prop) :
    Demand Left → Demand Right → Prop where
  | failure {keyword : Keyword} {property message : Option String} :
      Corresponds SameValue Same (.failure keyword property message) (.failure keyword property message)
  | same {left : Left} {right : Right} (nodes : Same left right) :
      Corresponds SameValue Same (.same left) (.same right)
  | inner {token : String} {value other : Json} {left : Left} {right : Right}
      (values : SameValue value other) (nodes : Same left right) :
      Corresponds SameValue Same (.inner token value left) (.inner token other right)
  | choice {wanted : Choice} {message : Option String} {lefts : List Left} {rights : List Right}
      (nodes : List.Forall₂ Same lefts rights) :
      Corresponds SameValue Same (.choice wanted message lefts) (.choice wanted message rights)

abbrev Alike (Same : Left → Right → Prop) : Demand Left → Demand Right → Prop := Corresponds Eq Same

abbrev AllAlike (Same : Left → Right → Prop) : List (Demand Left) → List (Demand Right) → Prop :=
  List.Forall₂ (Alike Same)

def map (change : Left → Right) : Demand Left → Demand Right
  | .failure keyword property message => .failure keyword property message
  | .same node => .same (change node)
  | .inner token value node => .inner token value (change node)
  | .choice wanted message branches => .choice wanted message (branches.map change)

theorem AllAlike.map_eq {Same : Left → Right → Prop} {change : Left → Right}
    {demands : List (Demand Left)} {others : List (Demand Right)}
    (alike : AllAlike Same demands others) (same : ∀ node other, Same node other → change node = other) :
    demands.map (map change) = others := by
  have each : List.Forall₂ (fun demand other => map change demand = other) demands others := by
    refine alike.imp fun demand other alike => ?_
    cases alike with
    | failure => rfl
    | same nodes => rw [map, same _ _ nodes]
    | inner equal nodes => rw [map, equal, same _ _ nodes]
    | choice nodes =>
        have branches := nodes.imp same
        rw [← List.forall₂_map_left_iff, List.forall₂_eq_eq_eq] at branches
        rw [map, branches]
  rwa [← List.forall₂_map_left_iff, List.forall₂_eq_eq_eq] at each

theorem allAlike_refl {Node : Type} (demands : List (Demand Node)) : AllAlike Eq demands demands := by
  refine List.forall₂_same.mpr fun demand _ => ?_
  cases demand with
  | failure keyword property message => exact .failure
  | same node => exact .same rfl
  | inner token value node => exact .inner rfl rfl
  | choice wanted message branches => exact .choice (List.forall₂_refl branches)

private theorem alike_self {Node : Type} {nodes : List Node} {value : Json} {demand : Demand Node}
    (within : demand.Within nodes value) :
    Alike (fun node other => node = other ∧ node ∈ nodes) demand demand := by
  cases demand with
  | failure keyword property message => exact .failure
  | same node => exact .same ⟨rfl, within⟩
  | inner token part node => exact .inner rfl ⟨rfl, within.1⟩
  | choice wanted message branches =>
      exact .choice (List.forall₂_same.mpr fun branch member => ⟨rfl, within branch member⟩)

theorem Corresponds.imp {SameValue : Json → Json → Prop} {Same Weaker : Left → Right → Prop}
    {left : Demand Left} {right : Demand Right} (corresponds : Corresponds SameValue Same left right)
    (implied : ∀ left right, Same left right → Weaker left right) :
    Corresponds SameValue Weaker left right := by
  cases corresponds with
  | failure => exact .failure
  | same nodes => exact .same (implied _ _ nodes)
  | inner values nodes => exact .inner values (implied _ _ nodes)
  | choice nodes => exact .choice (nodes.imp implied)

theorem Corresponds.exchange {Item Other : Type} {SameValue : Json → Json → Prop}
    {Same : Left → Right → Prop} {Leads : Left → Item → Prop} {Follows : Right → Other → Prop}
    {left : Demand Left} {right : Demand Right} {item : Demand Item} {other : Demand Other}
    (corresponds : Corresponds SameValue Same left right) (before : Alike Leads left item)
    (after : Alike Follows right other) :
    Corresponds SameValue (fun item other => ∃ left right, Same left right ∧ Leads left item ∧
      Follows right other) item other := by
  cases corresponds with
  | failure =>
      cases before
      cases after
      exact .failure
  | same nodes =>
      cases before with
      | same leads =>
          cases after with
          | same follows => exact .same ⟨_, _, nodes, leads, follows⟩
  | inner values nodes =>
      cases before with
      | inner equal leads =>
          cases after with
          | inner otherEqual follows =>
              subst equal otherEqual
              exact .inner values ⟨_, _, nodes, leads, follows⟩
  | choice nodes =>
      cases before with
      | choice leads =>
          cases after with
          | choice follows => exact .choice (forall₂_exchange nodes leads follows)

/-- Demands that are alike to the same ones are alike, by way of the nodes of these. -/
theorem allAlike_join {Node : Type} {Leads : Node → Left → Prop} {Follows : Node → Right → Prop}
    {nodes : List Node} {value : Json} {demands : List (Demand Node)} {lefts : List (Demand Left)}
    {rights : List (Demand Right)} (within : ∀ demand ∈ demands, demand.Within nodes value)
    (before : AllAlike Leads demands lefts) (after : AllAlike Follows demands rights) :
    AllAlike (fun left right => ∃ node, node ∈ nodes ∧ Leads node left ∧ Follows node right)
      lefts rights := by
  apply (forall₂_join within before after).imp
  rintro left right ⟨demand, isWithin, leads, follows⟩
  apply ((alike_self isWithin).exchange leads follows).imp
  rintro left right ⟨node, _, ⟨rfl, member⟩, ofNode, toNode⟩
  exact ⟨node, member, ofNode, toNode⟩

/-! ### The forms in which keywords make demands -/

section Forms

variable {SameValue : Json → Json → Prop} {Same : Left → Right → Prop}

theorem corresponds_failIf {fails : Bool} {keyword : Keyword} {message : Option String} :
    List.Forall₂ (Corresponds SameValue Same) (failIf fails keyword message)
      (failIf fails keyword message) := by
  cases fails with
  | false => exact .nil
  | true => exact .cons .failure .nil

theorem corresponds_ofElements {left : Left} {right : Right} (node : Same left right) (first : Nat)
    {elements others : List Json} (values : List.Forall₂ SameValue elements others) :
    List.Forall₂ (Corresponds SameValue Same) (ofElements left first elements)
      (ofElements right first others) := by
  unfold ofElements
  induction values generalizing first with
  | nil => exact .nil
  | cons value _ ih => exact .cons (.inner value node) (ih (first + 1))

theorem corresponds_ofPositions {lefts : List Left} {rights : List Right}
    (nodes : List.Forall₂ Same lefts rights) {elements others : List Json}
    (values : List.Forall₂ SameValue elements others) :
    List.Forall₂ (Corresponds SameValue Same) (ofPositions lefts elements)
      (ofPositions rights others) := by
  unfold ofPositions
  -- The position counts on, so the induction is over any first position.
  generalize 0 = first
  induction nodes generalizing elements others first with
  | nil => exact .nil
  | cons node _ ih =>
      cases values with
      | nil => exact .nil
      | cons value values => exact .cons (.inner value node) (ih values (first + 1))

theorem corresponds_ofNames {members others : List (String × Json)} {keyword : Keyword}
    {message : String → Option String} (names : List String)
    (sameKeys : ∀ name, Entries.hasKey members name = Entries.hasKey others name) :
    List.Forall₂ (Corresponds SameValue Same) (ofNames keyword message names members)
      (ofNames keyword message names others) := by
  apply forall₂_flatMap_self
  intro name
  rw [sameKeys name]
  cases Entries.hasKey others name with
  | false => exact .cons .failure .nil
  | true => exact .nil

/-! Forms that go through a table, whose entries correspond one by one or in some order. -/

variable {Lists : ∀ {Item Other : Type}, (Item → Other → Prop) → List Item → List Other → Prop}
  (listwise : Listwise Lists) {members others : List (String × Json)}

include listwise

theorem corresponds_ofDeclared {lefts : List (String × Left)} {rights : List (String × Right)}
    (nodes : Lists (SameEntry Same) lefts rights)
    (values : ∀ name, Option.Rel SameValue (members.lookup name) (others.lookup name)) :
    Lists (Corresponds SameValue Same) (ofDeclared lefts members) (ofDeclared rights others) := by
  refine listwise.flatMap nodes ?_
  rintro ⟨name, left⟩ ⟨_, right⟩ ⟨rfl, same⟩
  exact listwise.of_option (Optional.rel_map (values name) fun _ _ value => .inner value same)

theorem corresponds_ofMembers {lefts : String → List Left} {rights : String → List Right}
    {leftOthers : String → Json → List (Demand Left)}
    {rightOthers : String → Json → List (Demand Right)}
    (nodes : ∀ name, Lists Same (lefts name) (rights name))
    (rest : ∀ name value other, SameValue value other →
      Lists (Corresponds SameValue Same) (leftOthers name value) (rightOthers name other))
    (values : Lists (SameEntry SameValue) members others) :
    Lists (Corresponds SameValue Same) (ofMembers lefts leftOthers members)
      (ofMembers rights rightOthers others) := by
  refine listwise.flatMap values ?_
  rintro ⟨name, value⟩ ⟨_, other⟩ ⟨rfl, same⟩
  have named := nodes name
  have length := listwise.length_eq named
  dsimp only at same ⊢
  cases atLeft : lefts name with
  | nil =>
      rw [atLeft] at length
      rw [List.length_eq_zero_iff.mp length.symm]
      exact rest name value other same
  | cons left moreLeft =>
      cases atRight : rights name with
      | nil =>
          rw [atLeft, atRight] at length
          cases length
      | cons right moreRight =>
          rw [atLeft, atRight] at named
          exact listwise.map named fun _ _ node => .inner same node

theorem corresponds_ofPresent {Entry Other : Type} {SameAsk : Entry → Other → Prop}
    {ask : Entry → List (Demand Left)} {otherAsk : Other → List (Demand Right)}
    {entries : List (String × Entry)} {otherEntries : List (String × Other)}
    (asks : ∀ entry other, SameAsk entry other →
      Lists (Corresponds SameValue Same) (ask entry) (otherAsk other))
    (each : Lists (SameEntry SameAsk) entries otherEntries)
    (sameKeys : ∀ name, Entries.hasKey members name = Entries.hasKey others name) :
    Lists (Corresponds SameValue Same) (ofPresent ask entries members)
      (ofPresent otherAsk otherEntries others) := by
  refine listwise.flatMap each ?_
  rintro ⟨name, entry⟩ ⟨_, other⟩ ⟨rfl, same⟩
  dsimp only
  rw [sameKeys name]
  cases Entries.hasKey others name with
  | false => exact listwise.of_forall₂ .nil
  | true => exact asks entry other same

omit listwise in
theorem allAlike_ofMembers {lefts : String → List Left} {rights : String → List Right}
    {leftOthers : String → Json → List (Demand Left)}
    {rightOthers : String → Json → List (Demand Right)}
    (nodes : ∀ name, List.Forall₂ Same (lefts name) (rights name))
    (others : ∀ name value, AllAlike Same (leftOthers name value) (rightOthers name value))
    (members : List (String × Json)) :
    AllAlike Same (ofMembers lefts leftOthers members) (ofMembers rights rightOthers members) := by
  refine corresponds_ofMembers listwise_forall₂ nodes ?_ (sameEntry_self members)
  rintro name value _ rfl
  exact others name value

end Forms

end Demand

/-! ### Findings of demands that are alike -/

namespace Findings

/-- Two findings that are both empty or both not, if both are known. -/
def SameVerdict (left right : Findings) : Prop :=
  ∀ found other, left = some found → right = some other → found.isEmpty = other.isEmpty

theorem SameVerdict.refl (findings : Findings) : SameVerdict findings findings := by
  intro found other atLeft atRight
  cases atLeft.symm.trans atRight
  rfl

theorem gather_verdict {lefts rights : List Findings}
    (each : List.Forall₂ SameVerdict lefts rights) : SameVerdict (gather lefts) (gather rights) := by
  induction each with
  | nil => exact .refl _
  | cons first _ ih =>
      intro found other atLeft atRight
      obtain ⟨own, more, atOwn, atMore, rfl⟩ := combine_cons_eq_some atLeft
      obtain ⟨otherOwn, otherMore, atOtherOwn, atOtherMore, rfl⟩ := combine_cons_eq_some atRight
      have sameOwn := first own otherOwn atOwn atOtherOwn
      have sameMore := ih more otherMore atMore atOtherMore
      cases own with
      | nil =>
          cases otherOwn with
          | nil => exact sameMore
          | cons => cases sameOwn
      | cons =>
          cases otherOwn with
          | nil => cases sameOwn
          | cons => rfl

theorem tally_agree {lefts rights : List Findings} (each : List.Forall₂ SameVerdict lefts rights) :
    Agree (tally lefts) (tally rights) := by
  induction each with
  | nil =>
      intro count other atLeft atRight
      exact Option.some.inj (atLeft.symm.trans atRight)
  | cons first _ ih =>
      intro count other atLeft atRight
      obtain ⟨own, more, atOwn, atMore, sum⟩ := combine_cons_eq_some atLeft
      obtain ⟨otherOwn, otherMore, atOtherOwn, atOtherMore, otherSum⟩ := combine_cons_eq_some atRight
      rw [sum, otherSum, first own otherOwn atOwn atOtherOwn, ih more otherMore atMore atOtherMore]

end Findings

section Compatible

variable {Match : ∀ {Answer : Type}, Option Answer → Option Answer → Prop}

theorem Findings.combine_match (compatible : Compatible Option Option Match) {Total : Type}
    {add : List ValidationError → Total → Total} {nothing : Total} {lefts rights : List Findings}
    (each : List.Forall₂ Match lefts rights) :
    Match (combine add nothing lefts) (combine add nothing rights) := by
  induction each with
  | nil => exact compatible.known nothing
  | cons first _ ih =>
      refine compatible.bind first fun own => ?_
      exact compatible.bind ih fun more => compatible.known (add own more)

variable {Left Right : Type} {Same : Left → Right → Prop} {leftSame : Left → Findings}
  {rightSame : Right → Findings} {leftInner : String → Json → Left → Findings}
  {rightInner : String → Json → Right → Findings} {tokens : List String}

theorem Demand.Alike.findings_match (compatible : Compatible Option Option Match)
    (atSame : ∀ left right, Same left right → Match (leftSame left) (rightSame right))
    (atInner : ∀ token value left right, Same left right →
      Match (leftInner token value left) (rightInner token value right))
    {left : Demand Left} {right : Demand Right} (alike : Demand.Alike Same left right) :
    Match (left.findings leftSame leftInner tokens)
      (right.findings rightSame rightInner tokens) := by
  cases alike with
  | failure => exact compatible.known _
  | same nodes => exact atSame _ _ nodes
  | inner equal nodes =>
      subst equal
      exact atInner _ _ _ _ nodes
  | choice nodes =>
      refine compatible.bind ?_ fun count => compatible.known _
      apply Findings.combine_match compatible
      apply List.forall₂_map_left_iff.mpr
      apply List.forall₂_map_right_iff.mpr
      exact nodes.imp atSame

/-- Lists of demands that are alike find what corresponds if nodes that are the same do. -/
theorem Demand.findingsOf_match (compatible : Compatible Option Option Match)
    (atSame : ∀ left right, Same left right → Match (leftSame left) (rightSame right))
    (atInner : ∀ token value left right, Same left right →
      Match (leftInner token value left) (rightInner token value right))
    {lefts : List (Demand Left)} {rights : List (Demand Right)}
    (alike : Demand.AllAlike Same lefts rights) :
    Match (Demand.findingsOf leftSame leftInner tokens lefts)
      (Demand.findingsOf rightSame rightInner tokens rights) := by
  apply Findings.combine_match compatible
  apply List.forall₂_map_left_iff.mpr
  apply List.forall₂_map_right_iff.mpr
  exact alike.imp fun _ _ => Demand.Alike.findings_match compatible atSame atInner

end Compatible

end JsonSchema
