import JsonSchema.Proofs.Reordering.Demands

set_option autoImplicit false

/-! What demands find when they come in another order. If nodes that correspond find the same errors in
some order, so do lists of demands; the branches of a combinator keep their order, and it is enough for
them whether there are errors at all. -/

namespace JsonSchema

namespace Findings

def Permute (left right : Findings) : Prop :=
  ∀ found other, left = some found → right = some other → found.Perm other

theorem permute_refl (found : List ValidationError) : Permute (some found) (some found) := by
  intro first second atLeft atRight
  cases atLeft
  cases atRight
  exact .refl found

private theorem parts_of_gather {all : List Findings} {found : List ValidationError}
    (known : gather all = some found) :
    ∃ parts, List.Forall₂ (fun each own => each = some own) all parts ∧ found = parts.flatten := by
  induction all generalizing found with
  | nil => exact ⟨[], .nil, (Option.some.inj known).symm⟩
  | cons first rest ih =>
      obtain ⟨own, more, atFirst, atRest, sum⟩ := combine_cons_eq_some known
      obtain ⟨parts, each, flat⟩ := ih atRest
      refine ⟨own :: parts, .cons atFirst each, ?_⟩
      rw [sum, flat, List.flatten_cons]

private theorem gather_permute {lefts rights : List Findings} (each : Shuffled Permute lefts rights) :
    Permute (gather lefts) (gather rights) := by
  intro found other atLeft atRight
  obtain ⟨parts, ofLefts, rfl⟩ := parts_of_gather atLeft
  obtain ⟨others, ofRights, rfl⟩ := parts_of_gather atRight
  obtain ⟨middle, same, perm⟩ := each.exchange ofLefts ofRights
  have parted : List.Forall₂ List.Perm parts middle := by
    apply same.imp
    rintro own more ⟨left, right, permute, atOwn, atMore⟩
    exact permute own more atOwn atMore
  exact (List.Perm.flatten_congr parted).trans perm.flatten

theorem Permute.sameVerdict {left right : Findings} (permute : Permute left right) :
    SameVerdict left right :=
  fun found other atLeft atRight => (permute found other atLeft atRight).isEmpty_eq

end Findings

namespace Demand

variable {Left Right : Type} {Same : Left → Right → Prop} {leftSame : Left → Findings}
  {rightSame : Right → Findings} {leftInner : String → Json → Left → Findings}
  {rightInner : String → Json → Right → Findings} {tokens : List String}

theorem Reordered.findings_permute
    (atSame : ∀ left right, Same left right → (leftSame left).Permute (rightSame right))
    (atInner : ∀ token value other left right, value.Reordered other → Same left right →
      (leftInner token value left).Permute (rightInner token other right))
    {left : Demand Left} {right : Demand Right} (reordered : Reordered Same left right) :
    (left.findings leftSame leftInner tokens).Permute
      (right.findings rightSame rightInner tokens) := by
  cases reordered with
  | failure => exact Findings.permute_refl _
  | same nodes => exact atSame _ _ nodes
  | inner values nodes => exact atInner _ _ _ _ _ values nodes
  | choice nodes =>
      intro found other atLeft atRight
      obtain ⟨count, counted, rfl⟩ := findings_choice_eq_some _ _ _ atLeft
      obtain ⟨otherCount, otherCounted, rfl⟩ := findings_choice_eq_some _ _ _ atRight
      have each := List.rel_map (fun left right same => (atSame left right same).sameVerdict) nodes
      rw [Findings.tally_agree each count otherCount counted otherCounted]

/-- Demands in another order find the same errors in some order, if nodes that correspond do. -/
theorem findingsOf_permute
    (atSame : ∀ left right, Same left right → (leftSame left).Permute (rightSame right))
    (atInner : ∀ token value other left right, value.Reordered other → Same left right →
      (leftInner token value left).Permute (rightInner token other right))
    {lefts : List (Demand Left)} {rights : List (Demand Right)}
    (reordered : AllReordered Same lefts rights) :
    (findingsOf leftSame leftInner tokens lefts).Permute
      (findingsOf rightSame rightInner tokens rights) :=
  Findings.gather_permute (reordered.map fun _ _ same => same.findings_permute atSame atInner)

end Demand

end JsonSchema
