import JsonSchema.Documents
import JsonSchema.Proofs.Reordering.Values

set_option autoImplicit false

/-! Documents with their keys in another order. A pointer goes by keys and positions; an identifier goes
by the order of keys only where it is given twice. So what a reference stands for in one set of
documents corresponds to what it stands for in the other. -/

namespace JsonSchema

/-! ### Identifiers -/

namespace Json

/- The search for an identifier goes through the objects in their order. -/
mutual

theorem findById?_eq (id : String) : (value : Json) →
    value.findById? id = value.objects.find? fun object => decide (object.identifier? = some id)
  | .null | .bool _ | .number _ | .string _ => rfl
  | .array elements => by
      rw [findById?, objects, findInElements?_eq id elements]
  | .object members => by
      rw [findById?, objects, List.find?_cons, findInMembers?_eq id members]
      change (if (Json.object members).identifier? = some id then _ else _) = _
      by_cases named : (Json.object members).identifier? = some id
      · rw [if_pos named, decide_eq_true named]
      · rw [if_neg named, decide_eq_false named]

theorem findInElements?_eq (id : String) : (elements : List Json) →
    findInElements? id elements =
      (elementsObjects elements).find? fun object => decide (object.identifier? = some id)
  | [] => rfl
  | element :: rest => by
      rw [findInElements?, elementsObjects, List.find?_append, findById?_eq id element,
        findInElements?_eq id rest]
      exact Option.orElse_eq_or

theorem findInMembers?_eq (id : String) : (members : List (String × Json)) →
    findInMembers? id members =
      (membersObjects members).find? fun object => decide (object.identifier? = some id)
  | [] => rfl
  | (_, value) :: rest => by
      rw [findInMembers?, membersObjects, List.find?_append, findById?_eq id value,
        findInMembers?_eq id rest]
      exact Option.orElse_eq_or

end

private theorem identified_length_le_one {value : Json} (distinct : value.identifiers.Nodup) (id : String) :
    (value.objects.filter fun object => decide (object.identifier? = some id)).length ≤ 1 := by
  have once : value.identifiers.count id ≤ 1 := List.nodup_iff_count_le_one.mp distinct id
  unfold identifiers at once
  rw [List.count, List.countP_filterMap] at once
  rw [← List.countP_eq_length_filter]
  refine Nat.le_trans (Nat.le_of_eq ?_) once
  apply List.countP_congr
  intro object _
  cases object.identifier? <;> simp

theorem Reordered.findById? {left right : Json} (reordered : left.Reordered right)
    (distinct : left.identifiers.Nodup) (id : String) :
    Option.Rel Reordered (left.findById? id) (right.findById? id) := by
  rw [findById?_eq, findById?_eq]
  refine reordered.objects.find? ?_ (identified_length_le_one distinct id)
  intro object other same
  rw [same.identifier?_eq]

theorem Reordered.nodup_identifiers {left right : Json} (reordered : left.Reordered right)
    (distinct : left.identifiers.Nodup) : right.identifiers.Nodup := by
  have shuffled : Shuffled Eq left.identifiers right.identifiers := by
    refine reordered.objects.filterMap ?_
    intro object other same
    rw [same.identifier?_eq]
    cases other.identifier? with
    | none => exact .none
    | some id => exact .some rfl
  obtain ⟨middle, equal, perm⟩ := shuffled
  rw [List.forall₂_eq_eq_eq] at equal
  exact (equal ▸ perm).nodup_iff.mp distinct

end Json

/-! ### Pointers -/

namespace Pointer

inductive Alike : Except PointerError Json → Except PointerError Json → Prop where
  | error (error : PointerError) : Alike (.error error) (.error error)
  | ok {left right : Json} (same : left.Reordered right) : Alike (.ok left) (.ok right)

variable {left right : Json}

@[elab_as_elim]
theorem Alike.elim {motive : (left right : Except PointerError Json) → Prop}
    {first second : Except PointerError Json} (alike : Alike first second)
    (error : ∀ error, motive (.error error) (.error error))
    (ok : ∀ left right, left.Reordered right → motive (.ok left) (.ok right)) :
    motive first second := by
  cases alike with
  | error => exact error _
  | ok same => exact ok _ _ same

private theorem step?_reordered (reordered : left.Reordered right) (token : String) :
    Option.Rel Json.Reordered (step? token left) (step? token right) := by
  cases reordered with
  | array length each =>
      have elements := Json.forall₂_of_getElem? length each
      unfold step?
      dsimp only
      cases index? token with
      | none => exact .none
      | some index => exact Optional.rel_getElem? elements index
  | object distinct names each => exact Entries.Reordered.lookup ⟨distinct, names, each⟩ token
  | _ => exact .none

private theorem walk_reordered (pointer : String) (tokens : List String)
    (reordered : left.Reordered right) :
    Alike (walk pointer tokens left) (walk pointer tokens right) := by
  induction tokens generalizing left right with
  | nil => exact .ok reordered
  | cons token rest ih =>
      rw [walk, walk]
      refine Optional.rel_elim (step?_reordered reordered token) (.error _) ?_
      exact fun _ _ same => ih same

private theorem resolve_reordered (reordered : left.Reordered right) (pointer : String) :
    Alike (resolve left pointer) (resolve right pointer) := by
  unfold resolve
  split
  next => exact .ok reordered
  next expression _ _ =>
    cases tokens? expression with
    | none => exact .error _
    | some tokens => exact walk_reordered pointer tokens reordered
  next =>
    refine Optional.rel_elim (reordered.field? pointer) (.error _) ?_
    exact fun _ _ same => .ok same

end Pointer

/-! ### References -/

namespace Documents

/-- The documents of two sets are the same but for the order of keys. -/
structure Reordered (left right : Documents) : Prop where
  main : left.main.Reordered right.main
  externals : List.Forall₂ (SameEntry Json.Reordered) left.externals right.externals
  missingAllowed : left.missingAllowed = right.missingAllowed

/-- In no document do two objects have the same identifier. -/
structure Identified (documents : Documents) : Prop where
  main : documents.main.identifiers.Nodup
  externals : ∀ entry ∈ documents.externals, entry.2.identifiers.Nodup

def SameTarget (left right : Json × Scope) : Prop := left.1.Reordered right.1 ∧ left.2 = right.2

inductive Alike : (left right : Except ResolveError (Option (Json × Scope))) → Prop where
  | error (left right : ResolveError) : Alike (.error left) (.error right)
  | ok {left right : Option (Json × Scope)} (same : Option.Rel SameTarget left right) :
      Alike (.ok left) (.ok right)

@[elab_as_elim]
theorem Alike.elim {motive : (left right : Except ResolveError (Option (Json × Scope))) → Prop}
    {first second : Except ResolveError (Option (Json × Scope))} (alike : Alike first second)
    (error : ∀ left right, motive (.error left) (.error right))
    (ok : ∀ left right, Option.Rel SameTarget left right → motive (.ok left) (.ok right)) :
    motive first second := by
  cases alike with
  | error => exact error _ _
  | ok same => exact ok _ _ same

variable {left right : Documents}

theorem Reordered.symm (reordered : left.Reordered right) : right.Reordered left where
  main := reordered.main.symm
  externals := by
    apply List.Forall₂.flip
    exact reordered.externals.imp fun _ _ same => ⟨same.1.symm, same.2.symm⟩
  missingAllowed := reordered.missingAllowed.symm

theorem Reordered.weight_eq (reordered : left.Reordered right) : left.weight = right.weight := by
  have each := Shuffled.of_forall₂ reordered.externals
  rw [weight, weight, reordered.main.weight_eq, Json.membersWeight_eq, Json.membersWeight_eq,
    (each.perm_map fun _ _ same => same.2.weight_eq).sum_eq]

theorem Reordered.external (reordered : left.Reordered right) (name : String) :
    Option.Rel Json.Reordered (left.externals.lookup name) (right.externals.lookup name) :=
  Optional.rel_lookup reordered.externals name

theorem Reordered.root (reordered : left.Reordered right) (scope : Scope) :
    (left.root scope).Reordered (right.root scope) := by
  cases scope with
  | main => exact reordered.main
  | external name => exact Optional.rel_getD (reordered.external name) .null

theorem Identified.root {documents : Documents} (identified : documents.Identified)
    (scope : Scope) : (documents.root scope).identifiers.Nodup := by
  cases scope with
  | main => exact identified.main
  | external name =>
      unfold Documents.root
      dsimp only
      cases found : documents.externals.lookup name with
      | none => exact List.nodup_nil
      | some schema => exact identified.externals _ (Entries.mem_of_lookup found)

theorem Identified.of_reordered (identified : left.Identified) (reordered : left.Reordered right) :
    right.Identified where
  main := reordered.main.nodup_identifiers identified.main
  externals := by
    intro other member
    obtain ⟨entry, isEntry, _, same⟩ :=
      (Shuffled.of_forall₂ reordered.symm.externals).exists_right member
    exact same.symm.nodup_identifiers (identified.externals entry isEntry)

theorem Reordered.external? (reordered : left.Reordered right) (name : String) :
    Option.Rel SameTarget (left.external? name) (right.external? name) :=
  Optional.rel_map (reordered.external name) fun _ _ same => ⟨same, rfl⟩

theorem Reordered.lookup (reordered : left.Reordered right) (identified : left.Identified)
    (scope : Scope) (reference : String) :
    Alike (left.lookup scope reference) (right.lookup scope reference) := by
  have roots := reordered.root scope
  unfold Documents.lookup
  dsimp only
  split
  next => exact .error _ _
  next =>
    refine Pointer.Alike.elim (Pointer.resolve_reordered roots reference) ?_ ?_
    · intro error
      cases error with
      | malformed => exact .error _ _
      | absent => exact .ok (reordered.external? _)
    · exact fun _ _ same => .ok (.some ⟨same, rfl⟩)
  next =>
    refine Optional.rel_elim (roots.field? reference) ?_ fun _ _ same => .ok (.some ⟨same, rfl⟩)
    refine Optional.rel_elim (reordered.external? reference) ?_ fun _ _ same => .ok (.some same)
    have found := roots.findById? (identified.root scope) reference
    exact .ok (Optional.rel_map found fun _ _ same => ⟨same, rfl⟩)

theorem Reordered.follow (reordered : left.Reordered right) (identified : left.Identified)
    (budget : Nat) (seen : List (Scope × String)) {node other : Json} (nodes : node.Reordered other)
    (scope : Scope) : Alike (left.follow budget seen node scope) (right.follow budget seen other scope) := by
  induction budget using Nat.strongRecOn generalizing seen node other scope with
  | _ budget ih =>
      unfold Documents.follow
      refine Optional.rel_elim (nodes.field? "$ref") (.ok (.some ⟨nodes, rfl⟩)) ?_
      intro reference otherReference same
      cases same with
      | string reference =>
          dsimp only
          split
          next => exact .ok .none
          next =>
            refine Alike.elim (reordered.lookup identified scope reference) ?_ ?_
            · exact fun _ _ => .error _ _
            · rw [reordered.missingAllowed]
              intro targets otherTargets same
              cases same with
              | none =>
                  dsimp only
                  split
                  next => exact .ok .none
                  next => exact .error _ _
              | @some target otherTarget same =>
                  obtain ⟨target, targetScope⟩ := target
                  obtain ⟨otherTarget, otherScope⟩ := otherTarget
                  obtain ⟨sameTarget, rfl⟩ := same
                  cases budget with
                  | zero => exact .ok .none
                  | succ budget => exact ih budget (Nat.lt_succ_self budget) _ sameTarget targetScope
      | _ => exact .error _ _

theorem Reordered.resolve (reordered : left.Reordered right) (identified : left.Identified)
    {node other : Json} (nodes : node.Reordered other) (scope : Scope) :
    Alike (left.resolve node scope) (right.resolve other scope) := by
  unfold Documents.resolve
  rw [reordered.weight_eq]
  exact reordered.follow identified _ [] nodes scope

end Documents

end JsonSchema
