import JsonSchema.Proofs.Interpreting.Alike
import JsonSchema.Proofs.Interpreting.Interpreter
import JsonSchema.Proofs.Reordering.Values

set_option autoImplicit false

/-! Demands on values with their keys in another order. Two demands correspond when they hand parts that
correspond to nodes that do, and two lists of demands when they do so in some order. -/

namespace JsonSchema

structure SchemaNode.Reordered (left right : SchemaNode) : Prop where
  schema : left.schema.Reordered right.schema
  scope : left.scope = right.scope

theorem SchemaNode.reordered_mk {left right : Json} (schema : left.Reordered right) (scope : Scope) :
    SchemaNode.Reordered ⟨left, scope⟩ ⟨right, scope⟩ :=
  ⟨schema, rfl⟩

theorem SchemaNode.Reordered.of_object {members : List (String × Json)} {scope : Scope}
    {other : SchemaNode} (same : SchemaNode.Reordered ⟨.object members, scope⟩ other) :
    ∃ others, other = ⟨.object others, scope⟩ ∧
      Entries.Reordered Json.Reordered members others := by
  obtain ⟨schema, otherScope⟩ := other
  obtain ⟨sameSchema, sameScope⟩ := same
  dsimp only at sameSchema sameScope
  subst sameScope
  cases sameSchema with
  | object distinct names each => exact ⟨_, rfl, distinct, names, each⟩

theorem SchemaNode.reordered_map {lefts rights : List Json}
    (each : List.Forall₂ Json.Reordered lefts rights) (scope : Scope) :
    List.Forall₂ SchemaNode.Reordered (lefts.map (SchemaNode.mk · scope))
      (rights.map (SchemaNode.mk · scope)) := by
  rw [List.forall₂_map_left_iff, List.forall₂_map_right_iff]
  exact each.imp fun _ _ same => reordered_mk same scope

namespace Demand

variable {Left Right : Type} {Same : Left → Right → Prop}

/-- Two demands that differ in nothing but nodes that are the same in the given sense and the order of
keys in values. -/
abbrev Reordered (Same : Left → Right → Prop) : Demand Left → Demand Right → Prop :=
  Corresponds Json.Reordered Same

abbrev AllReordered (Same : Left → Right → Prop) : List (Demand Left) → List (Demand Right) → Prop :=
  Shuffled (Reordered Same)

theorem allReordered_exchange {Item Other : Type} {Leads : Left → Item → Prop}
    {Follows : Right → Other → Prop} {lefts : List (Demand Left)} {rights : List (Demand Right)}
    {items : List (Demand Item)} {others : List (Demand Other)}
    (reordered : AllReordered Same lefts rights) (before : AllAlike Leads lefts items)
    (after : AllAlike Follows rights others) :
    AllReordered (fun item other => ∃ left right, Same left right ∧ Leads left item ∧
      Follows right other) items others := by
  apply (Shuffled.exchange reordered before after).imp
  rintro item other ⟨left, right, same, leads, follows⟩
  exact same.exchange leads follows

end Demand

end JsonSchema
