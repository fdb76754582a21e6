import JsonSchema.Proofs.Building.Applying
import JsonSchema.Proofs.Interpreting.Asking
import JsonSchema.Proofs.Reordering.Compiling

set_option autoImplicit false

/-! The references that building meets. The compiler and the builder go through a schema in different
ways, by its keywords and by the shape of the value, but the builder comes only to nodes that the
compiler needs, and in the same scope. A schema that has been compiled has no fault at any of these, so
building never meets a reference that cannot be resolved. -/

namespace JsonSchema

/-! ### The nodes of a run -/

namespace Builder

abbrev Listing : Type → Type := ExceptT Exhausted (StateM (List SchemaNode))

namespace Listing

def note (node : SchemaNode) : Listing Unit := modify (node :: ·)

variable {Answer : Type}

def outcome (run : Listing Answer) (earlier : List SchemaNode) :
    Except Exhausted Answer × List SchemaNode := StateT.run (ExceptT.run run) earlier

private theorem outcome_bind {More : Type} (first : Listing Answer) (next : Answer → Listing More)
    (earlier : List SchemaNode) :
    (first >>= next).outcome earlier =
      match first.outcome earlier with
      | (.ok answer, middle) => (next answer).outcome middle
      | (.error stop, middle) => (.error stop, middle) := by
  change (match first.outcome earlier with
    | (result, middle) => ExceptT.bindCont next result middle) = _
  obtain ⟨result, middle⟩ := first.outcome earlier
  cases result <;> rfl

end Listing

/-- Builds a node and the nodes inside it, and notes each of them. -/
def buildListing (builder : Builder) : Nat → Json → Scope → Site → Option Json → Listing Built
  | 0, schema, scope, _, _ => do
      Listing.note ⟨schema, scope⟩
      throw ⟨⟩
  | budget + 1, schema, scope, site, value => do
      Listing.note ⟨schema, scope⟩
      builder.buildNode (builder.buildListing budget) schema scope site value

def Lists (kind : SchemaNode → Prop) {Answer : Type} (left : Listing Answer)
    (right : Except Exhausted Answer) : Prop :=
  ∀ earlier, (left.outcome earlier).1 = right ∧
    ∀ node ∈ (left.outcome earlier).2, node ∈ earlier ∨ kind node

private theorem compatible_lists (kind : SchemaNode → Prop) :
    Compatible Listing (Except Exhausted) (@Lists kind) := by
  constructor
  · intro _ answer earlier
    exact ⟨rfl, fun node member => Or.inl member⟩
  · intro _ _ left right leftNext rightNext lists next earlier
    obtain ⟨rfl, noted⟩ := lists earlier
    rw [Listing.outcome_bind]
    generalize left.outcome earlier = done at noted ⊢
    obtain ⟨result, middle⟩ := done
    cases result with
    | error stop => exact ⟨rfl, noted⟩
    | ok answer =>
        obtain ⟨same, notedNext⟩ := next answer middle
        refine ⟨same, fun node member => ?_⟩
        exact (notedNext node member).elim (noted node) Or.inr

theorem Lists.note {kind : SchemaNode → Prop} {node : SchemaNode} {run : Listing Built}
    {plain : Except Exhausted Built} (isKind : kind node) (lists : Lists kind run plain) :
    Lists kind (Listing.note node >>= fun _ => run) plain := by
  intro earlier
  obtain ⟨same, noted⟩ := lists (node :: earlier)
  refine ⟨same, fun other member => ?_⟩
  rcases noted other member with old | ofKind
  · rcases List.mem_cons.mp old with rfl | old
    · exact Or.inr isKind
    · exact Or.inl old
  · exact Or.inr ofKind

/-- The run that notes its nodes comes to the same as the one that does not, and notes only nodes to which
building comes. -/
theorem buildListing_lists (builder : Builder) {budget : Nat} {schema : Json} {scope : Scope}
    {site : Site} {value : Option Json} (comes : builder.documents.ComesTo schema scope) :
    Lists (fun node => builder.documents.ComesTo node.schema node.scope)
      (builder.buildListing budget schema scope site value)
      (builder.build budget schema scope site value) := by
  induction budget generalizing schema scope site value with
  | zero => exact Lists.note comes fun earlier => ⟨rfl, fun node member => Or.inl member⟩
  | succ budget ih =>
      apply Lists.note comes
      apply buildNode_match_of_tasks (compatible_lists _)
      intro target targetScope entered opens task isTask value
      have noReference := Documents.noReference_of_resolve opens.resolved
      exact ih (.inside (.target comes opens.resolved) noReference isTask)

end Builder

/-! ### What the compiler has seen to -/

namespace Compiler

variable {compiler : Compiler} {members : List (String × Json)} {scope : Scope}

private theorem mem_nodesInside_of_keyword (keyword : Keyword) {argument : Json} {node : SchemaNode}
    (found : members.lookup keyword.name = some argument)
    (inside : node ∈ keywordInside members scope keyword argument) :
    node ∈ nodesInside members scope := by
  unfold nodesInside
  rcases exists_leading found with own | ⟨about, leading, isLeading, leadingAbout⟩
  · refine List.mem_flatMap.mpr ⟨keyword, own, ?_⟩
    rwa [found]
  · refine List.mem_flatMap.mpr ⟨leading, isLeading, ?_⟩
    have present := Option.isSome_iff_exists.mpr ⟨_, found⟩
    rw [keywordInside_of_about scope leadingAbout (hasKey_of_mem_keywordsOf isLeading),
      ← keywordInside_of_about scope about present, found]
    exact inside

private theorem mem_nodesInside_of_task {task : Builder.Task}
    (isTask : Builder.IsTask (.object members) task) :
    ⟨task.schema, scope⟩ ∈ nodesInside members scope := by
  cases isTask with
  | @member properties property declared isProperty =>
      obtain ⟨written, found, isObject⟩ := Option.bind_eq_some_iff.mp declared
      refine mem_nodesInside_of_keyword .properties found (List.mem_append_left _ ?_)
      have inTable : table members "properties" = properties := by
        unfold table
        rw [show members.lookup "properties" = some written from found, Option.bind_some, isObject]
        rfl
      rw [inTable]
      exact List.mem_map.mpr ⟨property, isProperty, rfl⟩
  | position found isItem =>
      refine mem_nodesInside_of_keyword .items found (List.mem_append_left _ ?_)
      exact List.mem_map.mpr ⟨_, List.mem_of_getElem? isItem, rfl⟩
  | @additional tuple inner index found written =>
      refine mem_nodesInside_of_keyword .items found (List.mem_append_right _ ?_)
      rw [show members.lookup "additionalItems" = some (.object inner) from written]
      exact List.mem_cons_self
  | each found => exact mem_nodesInside_of_keyword .items found List.mem_cons_self
  | branch found isBranch =>
      exact mem_nodesInside_of_keyword .allOf found (List.mem_map.mpr ⟨_, isBranch, rfl⟩)

private theorem needsAtAll_of_comesTo {schema : Json} (comes : compiler.documents.ComesTo schema scope) :
    compiler.NeedsAtAll ⟨schema, scope⟩ := by
  induction comes with
  | main => exact .refl
  | @target schema target scope targetScope _ resolved ih =>
      cases named : schema.field? "$ref" with
      | none =>
          rw [Documents.resolve_eq_self named] at resolved
          cases resolved
          exact ih
      | some reference =>
          obtain ⟨members, rfl⟩ := Json.object_of_field named
          obtain ⟨name, rfl⟩ := Documents.isText_of_resolve named resolved
          exact .tail ih (.target named resolved)
  | @inside schema scope task _ noReference isTask ih =>
      obtain ⟨members, rfl⟩ := isTask.ofObject
      exact .tail ih (.inside noReference (mem_nodesInside_of_task isTask))

/-- A node at which nothing is wrong is no reference, or one that can be resolved. -/
theorem resolves_of_not_faulty {node : SchemaNode} (sound : ¬compiler.Faulty node) :
    ∃ target, compiler.documents.resolve node.schema node.scope = .ok target := by
  obtain ⟨schema, scope⟩ := node
  cases named : schema.field? "$ref" with
  | none => exact ⟨_, Documents.resolve_eq_self named scope⟩
  | some reference =>
      obtain ⟨members, rfl⟩ := Json.object_of_field named
      cases text : reference.string? with
      | none => exact absurd (.noText named text) sound
      | some name =>
          have isText : reference = .string name := by
            cases reference with
            | string value => exact congrArg Json.string (Option.some.inj text)
            | _ => cases text
          subst isText
          cases resolved : compiler.documents.resolve (.object members) scope with
          | ok target => exact ⟨target, rfl⟩
          | error error => exact absurd (.unresolved named resolved) sound

end Compiler

namespace Validator

/-- A schema that has been compiled never makes building meet a reference that cannot be resolved: of all
nodes at which a run is called, up to where it ends or is given up, each stands for a node or makes no
demand. -/
theorem build_resolves {schema : Json} {options : Options} {validator : Validator}
    (compiled : compile schema options = .ok validator) (additionalAllowed : Bool) (budget : Nat)
    (value : Option Json) :
    let builder : Builder := ⟨validator.documents, additionalAllowed⟩
    let listing := builder.buildListing budget builder.documents.main .main .start value
    (listing.outcome []).1 = builder.build budget builder.documents.main .main .start value ∧
      ∀ node ∈ (listing.outcome []).2,
        ∃ target, builder.documents.resolve node.schema node.scope = .ok target := by
  dsimp only
  obtain ⟨-, -, documents, -⟩ := compile_eq_ok compiled
  have isOk : (compile schema options).isOk = true := by
    rw [compiled]
    rfl
  have sound := ((compile_isOk_iff schema options).mp isOk).2
  rw [documents]
  obtain ⟨same, noted⟩ := Builder.buildListing_lists
    ⟨⟨schema, options.schemas, options.missingRefAllowed⟩, additionalAllowed⟩ .main []
  refine ⟨same, fun node member => ?_⟩
  have comes := (noted node member).resolve_left List.not_mem_nil
  exact Compiler.resolves_of_not_faulty (sound node (Compiler.needsAtAll_of_comesTo comes))

def referringSchema : Json :=
  .object [("properties", .object [("a", .object [("$ref", .string "#/definitions/c")])]),
    ("definitions", .object [("c", .object [("default", .object []),
      ("properties", .object [("b", .object [("default", .null)])])])])]

theorem build_resolves_referring :
    ∃ validator, compile referringSchema .default = .ok validator ∧
      let builder : Builder := ⟨validator.documents, true⟩
      let listing := builder.buildListing 4 builder.documents.main .main .start (some (.object []))
      (listing.outcome []).2.length = 3 ∧ ∀ node ∈ (listing.outcome []).2,
        ∃ target, builder.documents.resolve node.schema node.scope = .ok target := by
  have compiles : (compile referringSchema .default).isOk = true := by decide +kernel
  obtain ⟨validator, compiled, documents⟩ := exists_of_isOk _ _ compiles
  obtain ⟨-, resolves⟩ := build_resolves compiled true 4 (some (.object []))
  refine ⟨validator, compiled, ?_, resolves⟩
  rw [documents]
  decide +kernel

end Validator

end JsonSchema
