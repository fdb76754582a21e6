import JsonSchema.Proofs.Compiling.Runs

set_option autoImplicit false

/-! External documents beside different main ones. A reference of an external document is looked up among
the external documents only, and whatever it finds stands in one of these again. So neither what a node
there stands for nor what compiling it needs depends on the main document. -/

namespace JsonSchema

def Scope.IsExternal (scope : Scope) : Prop := ∃ name, scope = .external name

namespace Documents

def withMain (documents : Documents) (other : Json) : Documents := { documents with main := other }

variable {documents : Documents} {other node target : Json} {scope targetScope : Scope}

private theorem lookup_withMain (isExternal : scope.IsExternal) (reference : String) :
    (documents.withMain other).lookup scope reference = documents.lookup scope reference := by
  obtain ⟨name, rfl⟩ := isExternal
  rfl

private theorem isExternal_of_lookup {reference : String} (isExternal : scope.IsExternal)
    (found : documents.lookup scope reference = .ok (some (target, targetScope))) :
    targetScope.IsExternal := by
  rcases lookup_cases found with ⟨rfl, _⟩ | ⟨name, external⟩
  · exact isExternal
  · obtain ⟨schema, _, same⟩ := Option.map_eq_some_iff.mp external
    cases same
    exact ⟨name, rfl⟩

private theorem follow_withMain {budget : Nat} {seen : List (Scope × String)}
    (isExternal : scope.IsExternal) :
    (documents.withMain other).follow budget seen node scope =
      documents.follow budget seen node scope := by
  induction budget using Nat.strongRecOn generalizing seen node scope with
  | _ budget ih =>
      refine follow_congr rfl (lookup_withMain isExternal) fun _ _ _ _ _ found => ?_
      rw [lookup_withMain isExternal] at found
      cases budget with
      | zero => rfl
      | succ budget =>
          exact ih budget (Nat.lt_succ_self budget) (isExternal_of_lookup isExternal found)

/-- After its first reference a chain is inside the documents, where their weight is enough to follow it to
the end. -/
theorem follow_found {reference : String} {seen : List (Scope × String)}
    (found : documents.lookup scope reference = .ok (some (target, targetScope))) (more : Nat) :
    documents.follow (documents.weight + more) seen target targetScope =
      documents.follow documents.weight seen target targetScope := by
  apply follow_more (holds_of_lookup found)
  exact Nat.le_trans (leftOf_le _ _) documents.references_card_le

/-- What a node of an external document stands for does not depend on the main document. -/
theorem resolve_withMain (isExternal : scope.IsExternal) :
    (documents.withMain other).resolve node scope = documents.resolve node scope := by
  refine follow_congr rfl (lookup_withMain isExternal) fun reference target targetScope _ _ otherFound => ?_
  have found : documents.lookup scope reference = .ok (some (target, targetScope)) :=
    (lookup_withMain isExternal _).symm.trans otherFound
  -- The budgets come from different weights, so both are raised to their sum.
  rw [followRest, followRest, ← follow_found found (documents.withMain other).weight,
    ← follow_found otherFound documents.weight, Nat.add_comm]
  exact follow_withMain (isExternal_of_lookup isExternal found)

theorem isExternal_of_resolve (isExternal : scope.IsExternal)
    (resolved : documents.resolve node scope = .ok (some (target, targetScope))) :
    targetScope.IsExternal :=
  (follow_keeps (fun _ _ _ _ _ isExternal found => isExternal_of_lookup isExternal found) isExternal
    resolved).2

end Documents

namespace Compiler

def withMain (compiler : Compiler) (other : Json) : Compiler :=
  { compiler with documents := compiler.documents.withMain other }

variable {compiler : Compiler} {other : Json} {node needed : SchemaNode}

theorem Needs.isExternal (needs : compiler.Needs node needed)
    (isExternal : node.scope.IsExternal) : needed.scope.IsExternal := by
  cases needs with
  | inside _ isInside =>
      rw [(holdsInside_of_nodesInside isInside).1]
      exact isExternal
  | target _ resolved => exact Documents.isExternal_of_resolve isExternal resolved

theorem Needs.withMain (needs : compiler.Needs node needed) (other : Json)
    (isExternal : node.scope.IsExternal) : (compiler.withMain other).Needs node needed := by
  cases needs with
  | inside noReference isInside => exact .inside noReference isInside
  | target named resolved =>
      exact .target named ((Documents.resolve_withMain isExternal).trans resolved)

theorem Faulty.withMain (faulty : compiler.Faulty node) (other : Json)
    (isExternal : node.scope.IsExternal) : (compiler.withMain other).Faulty node := by
  cases faulty with
  | pattern noReference unreadable => exact .pattern noReference unreadable
  | noText named noText => exact .noText named noText
  | unresolved named resolved =>
      exact .unresolved named ((Documents.resolve_withMain isExternal).trans resolved)

private theorem needs_withMain (needs : Relation.ReflTransGen compiler.Needs node needed) (other : Json)
    (isExternal : node.scope.IsExternal) :
    Relation.ReflTransGen (compiler.withMain other).Needs node needed ∧
      needed.scope.IsExternal := by
  induction needs with
  | refl => exact ⟨.refl, isExternal⟩
  | tail _ next ih =>
      obtain ⟨before, inExternal⟩ := ih
      exact ⟨before.tail (next.withMain other inExternal), next.isExternal inExternal⟩

theorem Sound.withMain (sound : compiler.Sound node) (other : Json)
    (isExternal : node.scope.IsExternal) : (compiler.withMain other).Sound node := by
  intro needed needs faulty
  -- With its own main document again it is the first compiler.
  obtain ⟨back, inExternal⟩ := needs_withMain needs compiler.documents.main isExternal
  exact sound needed back (faulty.withMain compiler.documents.main inExternal)

end Compiler

end JsonSchema
