import JsonSchema.Documents
import JsonSchema.Proofs.Parts

set_option autoImplicit false

/-! The references that documents hold. Whatever a reference stands for is again held by one of the
documents, so that following references never leads out of a finite stock of them. -/

namespace JsonSchema

/- The references of all objects that a value holds. -/
mutual

def Json.references : Json → List String
  | .object members =>
      ((members.lookup "$ref").bind Json.string?).toList ++ Json.membersReferences members
  | .array elements => Json.elementsReferences elements
  | _ => []

def Json.elementsReferences : List Json → List String
  | [] => []
  | element :: rest => element.references ++ Json.elementsReferences rest

def Json.membersReferences : List (String × Json) → List String
  | [] => []
  | (_, value) :: rest => value.references ++ Json.membersReferences rest

end

namespace Json

private theorem elementsReferences_eq (elements : List Json) :
    elementsReferences elements = elements.flatMap references := by
  induction elements with
  | nil => rfl
  | cons element rest ih => rw [elementsReferences, List.flatMap_cons, ih]

private theorem membersReferences_eq (members : List (String × Json)) :
    membersReferences members = members.flatMap fun member => member.2.references := by
  induction members with
  | nil => rfl
  | cons member rest ih =>
      obtain ⟨key, value⟩ := member
      rw [membersReferences, List.flatMap_cons, ih]

theorem Part.references_subset {value part : Json} {token : String}
    (isPart : value.Part token part) {reference : String}
    (member : reference ∈ part.references) : reference ∈ value.references := by
  cases isPart with
  | element isArray found =>
      obtain rfl := elements?_eq_some_iff.mp isArray
      rw [references, elementsReferences_eq]
      exact List.mem_flatMap.mpr ⟨part, List.mem_of_getElem? found, member⟩
  | member isObject found =>
      obtain rfl := members?_eq_some_iff.mp isObject
      rw [references, membersReferences_eq]
      exact List.mem_append_right _ (List.mem_flatMap.mpr ⟨_, found, member⟩)

private theorem mem_references_of_holds {value node : Json} {reference : String}
    (holds : value.Holds node) (named : (node.field? "$ref").bind Json.string? = some reference) :
    reference ∈ value.references := by
  induction holds using Relation.ReflTransGen.head_induction_on with
  | refl =>
      cases node with
      | object members =>
          have own : ((members.lookup "$ref").bind Json.string?) = some reference := named
          rw [references, own]
          exact List.mem_append_left _ List.mem_cons_self
      | _ => cases named
  | head isPart _ ih =>
      obtain ⟨token, isPart⟩ := isPart
      exact isPart.references_subset ih

theorem weight_pos (value : Json) : 0 < value.weight := by
  cases value <;> simp [weight]

mutual

private theorem references_length_le : (value : Json) → value.references.length ≤ value.weight
  | .object members => by
      have inside := membersReferences_length_le members
      have own : ((members.lookup "$ref").bind Json.string?).toList.length ≤ 1 := by
        cases (members.lookup "$ref").bind Json.string? <;> simp
      rw [references, weight, List.length_append]
      omega
  | .array elements => by
      have inside := elementsReferences_length_le elements
      rw [references, weight]
      omega
  | .null => Nat.zero_le _
  | .bool _ => Nat.zero_le _
  | .number _ => Nat.zero_le _
  | .string _ => Nat.zero_le _

theorem elementsReferences_length_le : (elements : List Json) →
    (elementsReferences elements).length ≤ elementsWeight elements
  | [] => Nat.zero_le _
  | element :: rest => by
      have first := references_length_le element
      have others := elementsReferences_length_le rest
      rw [elementsReferences, elementsWeight, List.length_append]
      omega

theorem membersReferences_length_le : (members : List (String × Json)) →
    (membersReferences members).length ≤ membersWeight members
  | [] => Nat.zero_le _
  | (_, value) :: rest => by
      have first := references_length_le value
      have others := membersReferences_length_le rest
      rw [membersReferences, membersWeight, List.length_append]
      omega

end

mutual

private theorem holds_of_findById? {id : String} {target : Json} : (value : Json) →
    value.findById? id = some target → value.Holds target
  | .object members, found => by
      unfold findById? at found
      split at found
      next =>
        obtain rfl := Option.some.inj found
        exact .refl
      next =>
        obtain ⟨key, value, member, holds⟩ := holds_of_findInMembers? members found
        exact .head ⟨key, .member rfl member⟩ holds
  | .array elements, found => by
      unfold findById? at found
      obtain ⟨value, member, holds⟩ := holds_of_findInElements? elements found
      obtain ⟨index, atIndex⟩ := List.mem_iff_getElem?.mp member
      exact .head ⟨_, .element rfl atIndex⟩ holds
  | .null, found => by cases found
  | .bool _, found => by cases found
  | .number _, found => by cases found
  | .string _, found => by cases found

theorem holds_of_findInElements? {id : String} {target : Json} : (elements : List Json) →
    findInElements? id elements = some target → ∃ value ∈ elements, value.Holds target
  | [], found => by cases found
  | element :: rest, found => by
      unfold findInElements? at found
      cases atFirst : element.findById? id with
      | some node =>
          rw [atFirst] at found
          obtain rfl := Option.some.inj found
          exact ⟨element, List.mem_cons_self, holds_of_findById? element atFirst⟩
      | none =>
          rw [atFirst] at found
          obtain ⟨value, member, holds⟩ := holds_of_findInElements? rest found
          exact ⟨value, List.mem_cons_of_mem element member, holds⟩

theorem holds_of_findInMembers? {id : String} {target : Json} :
    (members : List (String × Json)) → findInMembers? id members = some target →
      ∃ key value, (key, value) ∈ members ∧ value.Holds target
  | [], found => by cases found
  | (key, value) :: rest, found => by
      unfold findInMembers? at found
      cases atFirst : value.findById? id with
      | some node =>
          rw [atFirst] at found
          obtain rfl := Option.some.inj found
          exact ⟨key, value, List.mem_cons_self, holds_of_findById? value atFirst⟩
      | none =>
          rw [atFirst] at found
          obtain ⟨name, inner, member, holds⟩ := holds_of_findInMembers? rest found
          exact ⟨name, inner, List.mem_cons_of_mem (key, value) member, holds⟩

end

end Json

/-! ### Pointers -/

namespace Pointer

private theorem holds_of_step? {token : String} {value next : Json}
    (found : step? token value = some next) :
    ∃ token, value.Part token next := by
  cases value with
  | object members => exact ⟨token, .member rfl (Entries.mem_of_lookup found)⟩
  | array elements =>
      obtain ⟨index, _, atIndex⟩ := Option.bind_eq_some_iff.mp found
      exact ⟨_, .element rfl atIndex⟩
  | _ => cases found

private theorem holds_of_walk {pointer : String} {tokens : List String} {value target : Json}
    (walked : walk pointer tokens value = .ok target) : value.Holds target := by
  induction tokens generalizing value with
  | nil =>
      cases walked
      exact .refl
  | cons token rest ih =>
      unfold walk at walked
      split at walked
      next next found => exact .head (holds_of_step? found) (ih walked)
      next => cases walked

private theorem holds_of_resolve {document target : Json} {pointer : String}
    (resolved : resolve document pointer = .ok target) : document.Holds target := by
  unfold resolve at resolved
  split at resolved
  next =>
    cases resolved
    exact .refl
  next =>
    split at resolved
    next => exact holds_of_walk resolved
    next => cases resolved
  next =>
    split at resolved
    next found =>
      cases resolved
      exact .single ⟨_, .of_field found⟩
    next => cases resolved

end Pointer

/-! ### Documents -/

namespace Documents

def Holds (documents : Documents) (node : Json) (scope : Scope) : Prop :=
  (documents.root scope).Holds node

def references (documents : Documents) : List (Scope × String) :=
  documents.main.references.map (Scope.main, ·) ++
    documents.externals.flatMap fun (name, schema) =>
      schema.references.map (Scope.external name, ·)

@[simp] theorem root_external (documents : Documents) (name : String) :
    documents.root (.external name) = (documents.externals.lookup name).getD .null := rfl

theorem mem_references {documents : Documents} {node : Json} {scope : Scope} {reference : String}
    (holds : documents.Holds node scope)
    (named : (node.field? "$ref").bind Json.string? = some reference) :
    (scope, reference) ∈ documents.references := by
  have atRoot := Json.mem_references_of_holds holds named
  cases scope with
  | main => exact List.mem_append_left _ (List.mem_map.mpr ⟨reference, atRoot, rfl⟩)
  | external name =>
      rw [root_external] at atRoot
      cases found : documents.externals.lookup name with
      | none =>
          rw [found] at atRoot
          cases atRoot
      | some schema =>
          rw [found] at atRoot
          refine List.mem_append_right _ (List.mem_flatMap.mpr ?_)
          exact ⟨(name, schema), Entries.mem_of_lookup found, List.mem_map.mpr ⟨_, atRoot, rfl⟩⟩

private theorem externalReferences_length_le (externals : List (String × Json)) :
    (externals.flatMap fun (name, schema) =>
      schema.references.map (Scope.external name, ·)).length ≤ Json.membersWeight externals := by
  induction externals with
  | nil => exact Nat.zero_le _
  | cons entry rest ih =>
      obtain ⟨name, schema⟩ := entry
      have first := schema.references_length_le
      rw [List.flatMap_cons, List.length_append, List.length_map, Json.membersWeight]
      omega

private theorem references_length_le (documents : Documents) :
    documents.references.length ≤ documents.weight := by
  have atMain := documents.main.references_length_le
  have atExternals := externalReferences_length_le documents.externals
  unfold references weight
  rw [List.length_append, List.length_map]
  omega

theorem references_card_le (documents : Documents) :
    documents.references.toFinset.card ≤ documents.weight :=
  Nat.le_trans (List.toFinset_card_le _) documents.references_length_le

theorem weight_le_of_holds {documents : Documents} {node : Json} {scope : Scope}
    (holds : documents.Holds node scope) : node.weight ≤ documents.weight := by
  apply Nat.le_trans (Json.Holds.weight_le holds)
  unfold weight
  cases scope with
  | main => exact Nat.le_add_right _ _
  | external name =>
      rw [root_external]
      cases found : documents.externals.lookup name with
      | none => exact Nat.le_trans documents.main.weight_pos (Nat.le_add_right _ _)
      | some schema =>
          have bound : schema.weight ≤ Json.membersWeight documents.externals :=
            Json.weight_le_membersWeight (Entries.mem_of_lookup found)
          exact Nat.le_trans bound (Nat.le_add_left _ _)

private theorem holds_of_external? {documents : Documents} {name : String} {target : Json} {scope : Scope}
    (found : documents.external? name = some (target, scope)) : documents.Holds target scope := by
  obtain ⟨schema, atName, same⟩ := Option.map_eq_some_iff.mp found
  cases same
  have isRoot : documents.root (.external name) = target := by
    rw [root, atName]
    rfl
  rw [Holds, isRoot]
  exact .refl

/-- What a reference finds lies in its own document or is the whole of an external one. -/
theorem lookup_cases {documents : Documents} {scope targetScope : Scope} {reference : String}
    {target : Json} (found : documents.lookup scope reference = .ok (some (target, targetScope))) :
    (targetScope = scope ∧ documents.Holds target scope) ∨
      ∃ name, documents.external? name = some (target, targetScope) := by
  unfold lookup at found
  dsimp only at found
  split at found
  next => cases found
  next =>
    split at found
    next resolved =>
      cases found
      exact .inl ⟨rfl, Pointer.holds_of_resolve resolved⟩
    next => cases found
    next => exact .inr ⟨_, Except.ok.inj found⟩
  next =>
    split at found
    next atField =>
      cases found
      exact .inl ⟨rfl, .single ⟨_, .of_field atField⟩⟩
    next =>
      split at found
      next external =>
        cases found
        exact .inr ⟨_, external⟩
      next =>
        obtain ⟨node, atId, same⟩ := Option.map_eq_some_iff.mp (Except.ok.inj found)
        cases same
        exact .inl ⟨rfl, Json.holds_of_findById? _ atId⟩

theorem holds_of_lookup {documents : Documents} {scope targetScope : Scope} {reference : String}
    {target : Json} (found : documents.lookup scope reference = .ok (some (target, targetScope))) :
    documents.Holds target targetScope := by
  rcases lookup_cases found with ⟨rfl, holds⟩ | ⟨name, external⟩
  · exact holds
  · exact holds_of_external? external

/-- Following ends at a node without a reference, or goes on from a node that the reference finds. -/
theorem follow_cases {documents : Documents} {budget : Nat} {seen : List (Scope × String)}
    {node target : Json} {scope targetScope : Scope}
    (followed : documents.follow budget seen node scope = .ok (some (target, targetScope))) :
    (node.field? "$ref" = none ∧ target = node ∧ targetScope = scope) ∨
      ∃ rest more reference next nextScope, budget = rest + 1 ∧
        documents.lookup scope reference = .ok (some (next, nextScope)) ∧
        documents.follow rest more next nextScope = .ok (some (target, targetScope)) := by
  unfold follow at followed
  split at followed
  next noReference =>
    cases followed
    exact .inl ⟨noReference, rfl, rfl⟩
  next reference _ =>
    split at followed
    next => cases followed
    next =>
      split at followed
      next => cases followed
      next => split at followed <;> cases followed
      next next nextScope found =>
        cases budget with
        | zero => cases followed
        | succ rest =>
            exact .inr ⟨rest, _, reference, next, nextScope, rfl, found, followed⟩
  next => cases followed

/-- What every step of a chain keeps is kept along it, and the node at its end has no reference. -/
theorem follow_keeps {documents : Documents} {motive : Json → Scope → Prop}
    (step : ∀ node scope reference next nextScope, motive node scope →
      documents.lookup scope reference = .ok (some (next, nextScope)) → motive next nextScope)
    {budget : Nat} {seen : List (Scope × String)} {node target : Json} {scope targetScope : Scope}
    (start : motive node scope)
    (followed : documents.follow budget seen node scope = .ok (some (target, targetScope))) :
    target.field? "$ref" = none ∧ motive target targetScope := by
  induction budget using Nat.strongRecOn generalizing seen node scope with
  | _ budget ih =>
      rcases follow_cases followed with ⟨noReference, rfl, rfl⟩ | ⟨rest, _, _, _, _, rfl, found, goesOn⟩
      · exact ⟨noReference, start⟩
      · exact ih rest (Nat.lt_succ_self rest) (step _ _ _ _ _ start found) goesOn

theorem holds_of_resolve {documents : Documents} {node target : Json} {scope targetScope : Scope}
    (holds : documents.Holds node scope)
    (resolved : documents.resolve node scope = .ok (some (target, targetScope))) :
    documents.Holds target targetScope :=
  (follow_keeps (fun _ _ _ _ _ _ found => holds_of_lookup found) holds resolved).2

theorem noReference_of_resolve {documents : Documents} {node target : Json} {scope targetScope : Scope}
    (resolved : documents.resolve node scope = .ok (some (target, targetScope))) :
    target.field? "$ref" = none :=
  (follow_keeps (motive := fun _ _ => True) (fun _ _ _ _ _ _ _ => trivial) trivial resolved).1

theorem isText_of_resolve {documents : Documents} {node reference : Json} {scope : Scope}
    {target : Option (Json × Scope)} (named : node.field? "$ref" = some reference)
    (resolved : documents.resolve node scope = .ok target) :
    ∃ name, reference = .string name := by
  unfold resolve follow at resolved
  rw [named] at resolved
  cases reference with
  | string name => exact ⟨name, rfl⟩
  | _ => cases resolved

theorem resolve_plain {documents : Documents} {node target : Json} {scope targetScope : Scope}
    (noReference : (node.field? "$ref").bind Json.string? = none)
    (resolved : documents.resolve node scope = .ok (some (target, targetScope))) :
    target = node := by
  unfold resolve follow at resolved
  split at resolved
  next =>
    cases resolved
    rfl
  next reference named =>
    rw [named] at noReference
    cases noReference
  next => cases resolved

end Documents

end JsonSchema
