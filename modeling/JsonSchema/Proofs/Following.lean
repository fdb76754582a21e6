import JsonSchema.Proofs.Building.References

set_option autoImplicit false

/-! Where references lead. Starting from a part of a document a chain of references leads to a part of a
document again, of the same or of another one. The references of a chain are different ones, so that
the chain comes to an end. -/

namespace JsonSchema

namespace Documents

def Contains (documents : Documents) (node : Json) : Scope → Prop
  | .main => documents.main.Holds node
  | .external name => ∃ schema, documents.externals.lookup name = some schema ∧ schema.Holds node

variable {documents : Documents} {node target : Json} {scope targetScope : Scope}

theorem Contains.holds (contains : documents.Contains node scope) :
    documents.Holds node scope := by
  cases scope with
  | main => exact contains
  | external name =>
      obtain ⟨schema, atName, holds⟩ := contains
      simpa [Holds, atName] using holds

theorem Contains.of_holds {other : Json} (contains : documents.Contains other scope)
    (holds : documents.Holds node scope) : documents.Contains node scope := by
  cases scope with
  | main => exact holds
  | external name =>
      obtain ⟨schema, atName, _⟩ := contains
      exact ⟨schema, atName, by simpa [Holds, atName] using holds⟩

private theorem contains_of_external? {name : String}
    (found : documents.external? name = some (target, targetScope)) :
    documents.Contains target targetScope := by
  obtain ⟨schema, atName, same⟩ := Option.map_eq_some_iff.mp found
  cases same
  exact ⟨target, atName, .refl⟩

private theorem contains_of_lookup {reference : String} (contains : documents.Contains node scope)
    (found : documents.lookup scope reference = .ok (some (target, targetScope))) :
    documents.Contains target targetScope := by
  rcases lookup_cases found with ⟨rfl, holds⟩ | ⟨name, external⟩
  · exact contains.of_holds holds
  · exact contains_of_external? external

theorem contains_of_resolve (contains : documents.Contains node scope)
    (resolved : documents.resolve node scope = .ok (some (target, targetScope))) :
    documents.Contains target targetScope :=
  (follow_keeps (fun _ _ _ _ _ contained found => contains_of_lookup contained found) contains resolved).2

/-- What comes of a reference that has found a node, with so many more of them to be followed. -/
def followRest (documents : Documents) : Nat → List (Scope × String) → Json → Scope →
    Except ResolveError (Option (Json × Scope))
  | 0, _, _, _ => .ok none
  | budget + 1, seen, target, scope => documents.follow budget seen target scope

/-- Chains from one node come to the same if they do from what its reference finds. -/
theorem follow_congr {others : Documents} {budget otherBudget : Nat} {seen : List (Scope × String)}
    (sameAllowed : documents.missingAllowed = others.missingAllowed)
    (sameLookup : ∀ reference, documents.lookup scope reference = others.lookup scope reference)
    (sameRest : ∀ reference target targetScope, node.field? "$ref" = some (.string reference) →
      (scope, reference) ∉ seen →
      documents.lookup scope reference = .ok (some (target, targetScope)) →
        documents.followRest budget ((scope, reference) :: seen) target targetScope =
          others.followRest otherBudget ((scope, reference) :: seen) target targetScope) :
    documents.follow budget seen node scope = others.follow otherBudget seen node scope := by
  unfold follow
  cases named : node.field? "$ref" with
  | none => rfl
  | some value =>
      cases value with
      | string reference =>
          dsimp only
          rw [← sameLookup, ← sameAllowed]
          split
          next => rfl
          next isNew =>
            cases found : documents.lookup scope reference with
            | error error => rfl
            | ok target =>
                cases target with
                | none => rfl
                | some target =>
                    obtain ⟨target, targetScope⟩ := target
                    have same := sameRest reference target targetScope named isNew found
                    cases budget <;> cases otherBudget <;> exact same
      | _ => rfl

/-- A budget for the references that are left is one more than a budget for those left after a new one. -/
theorem exists_budget_of_new {budget : Nat} {seen : List (Scope × String)} {reference : String}
    (holds : documents.Holds node scope) (named : node.field? "$ref" = some (.string reference))
    (isNew : (scope, reference) ∉ seen)
    (enough : leftOf documents.references.toFinset seen ≤ budget) :
    ∃ less, budget = less + 1 ∧
      leftOf documents.references.toFinset ((scope, reference) :: seen) ≤ less := by
  have inDocuments : (scope, reference) ∈ documents.references :=
    mem_references holds (by rw [named]; rfl)
  have fewer := leftOf_cons_lt (List.mem_toFinset.mpr inDocuments) isNew
  exact ⟨budget - 1, by omega, by omega⟩

/-- References that are followed are different ones, so a chain cannot be longer than there are
references. -/
theorem follow_more {budget : Nat} {seen : List (Scope × String)}
    (holds : documents.Holds node scope)
    (enough : leftOf documents.references.toFinset seen ≤ budget) (more : Nat) :
    documents.follow (budget + more) seen node scope = documents.follow budget seen node scope := by
  induction budget using Nat.strongRecOn generalizing seen node scope with
  | _ budget ih =>
      refine follow_congr rfl (fun _ => rfl) fun reference target targetScope named isNew found => ?_
      obtain ⟨less, rfl, enoughLess⟩ := exists_budget_of_new holds named isNew enough
      rw [Nat.add_right_comm]
      exact ih less (Nat.lt_succ_self less) (holds_of_lookup found) enoughLess

theorem follow_eq_resolve (holds : documents.Holds node scope) (more : Nat) :
    documents.follow (documents.weight + 1 + more) [] node scope =
      documents.resolve node scope := by
  apply follow_more holds
  have all : leftOf documents.references.toFinset [] ≤ documents.references.toFinset.card :=
    leftOf_le _ _
  have few := documents.references_card_le
  omega

end Documents

end JsonSchema
