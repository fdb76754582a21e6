import JsonSchema.Proofs.Building.Keeping

set_option autoImplicit false

/-! Building only extends. Where no node closes the objects that it completes, nothing of a value that is
there is lost or changed, at any depth; the main statement is `Validator.build_extends`. -/

namespace JsonSchema

/-- A value is extended. What has no parts stays as it is. An object keeps its keys, in their order and
with extended values, and has only new keys behind them; an array keeps its elements, extended, in their
places. -/
inductive Json.ExtendedBy : Json → Json → Prop where
  | plain {value : Json} (noMembers : value.members? = none) (noElements : value.elements? = none) :
      ExtendedBy value value
  | object {members final : List (String × Json)} {more : List String}
      (names : Entries.names final = Entries.names members ++ more)
      (new : ∀ name ∈ more, name ∉ Entries.names members)
      (parts : ∀ name value later, members.lookup name = some value →
        final.lookup name = some later → ExtendedBy value later) :
      ExtendedBy (.object members) (.object final)
  | array {elements final : List Json} (length : elements.length ≤ final.length)
      (parts : ∀ (index : Nat) (value later : Json), elements[index]? = some value →
        final[index]? = some later → ExtendedBy value later) :
      ExtendedBy (.array elements) (.array final)

theorem Json.KeptIn.extendedBy {losses : Losses} {value final : Json}
    (kept : value.KeptIn losses final) (nothing : ∀ location name, ¬losses location name) :
    value.ExtendedBy final := by
  induction kept with
  | plain noMembers noElements => exact .plain noMembers noElements
  | @object losses members final keep more names lost new parts ih =>
      have keepsAll : ∀ name ∈ Entries.names members, keep name = true := by
        intro name member
        cases keeps : keep name with
        | true => rfl
        | false => exact absurd (lost name member keeps) (nothing [] name)
      rw [List.filter_eq_self.mpr keepsAll] at names
      refine .object names ?_ ?_
      · intro name isMore member
        have dropped := new name isMore member
        rw [keepsAll name member] at dropped
        cases dropped
      · intro name value later found atLater
        have keeps := keepsAll name (Entries.mem_names_of_lookup found)
        exact ih name value later keeps found atLater fun location => nothing (.member name :: location)
  | array length parts ih =>
      refine .array length ?_
      intro index value later found atLater
      exact ih index value later found atLater fun location => nothing (.element index :: location)

/-- Building only extends. For a schema none of whose nodes that building comes to has
`additionalProperties` false, and where members that are not declared are allowed, a run that ends gives
back the value that it was given, extended. The run may take any budget. -/
theorem Validator.build_extends {validator : Validator} {value : Json} {budget : Nat} {built : Built}
    (distinct : validator.documents.keysDistinct = true) (ofValue : value.keysDistinct = true)
    (noneClosed : ∀ node scope, validator.documents.ComesTo node scope →
      node.field? "additionalProperties" ≠ some (.bool false))
    (ends : Builder.build ⟨validator.documents, true⟩ budget validator.documents.main .main .start
      (some value) = .ok built) :
    ∃ final, built.value = some final ∧ value.ExtendedBy final := by
  let builder : Builder := ⟨validator.documents, true⟩
  let visit : Visit := ⟨validator.documents.main, .main, .start, some value⟩
  have proper : builder.Proper visit := ⟨.main, Json.distinctIn_some ofValue⟩
  obtain ⟨final, isFinal, kept⟩ := Builder.build_keeps distinct proper built value ends rfl
  refine ⟨final, isFinal, kept.extendedBy ?_⟩
  intro location name
  exact Builder.not_drops .main noneClosed

def taggedNodes : List Json :=
  let number := .object [("default", .string "0")]
  let next := .object [("$ref", .string "#")]
  let node := .object [("properties", .object [("number", number), ("next", next)])]
  let tag := .object [("default", .string "none")]
  let pair := .object [("items", .array [number, tag])]
  let tagged := .object [("properties", .object [("tag", tag), ("pair", pair)])]
  [.object [("allOf", .array [node, tagged])], node, tagged, number, next, tag, pair,
    .array [number, tag]]

def taggedDocuments : Documents := ⟨taggedNodes.headD .null, [], false⟩

theorem Validator.build_extends_tagged :
    ∃ validator, Validator.compile taggedDocuments.main .default = .ok validator ∧
      let given : Json := .object [("pair", .array [.null]), ("next", .object [("number", .null)])]
      let final : Json := .object [("pair", .array [.null, .string "none"]),
        ("next", .object [("number", .null), ("tag", .string "none")]), ("number", .string "0"),
        ("tag", .string "none")]
      validator.build (some given) true = .ok (some final) ∧ given.ExtendedBy final := by
  obtain ⟨validator, compiled, documents⟩ :=
    Validator.exists_of_isOk taggedDocuments.main .default (by decide +kernel)
  have isTagged : validator.documents = taggedDocuments := documents
  refine ⟨validator, compiled, ?_⟩
  intro given final
  have ran : Builder.run ⟨taggedDocuments, true⟩ (some given) = .ok (some final) := rfl
  rw [← isTagged] at ran
  obtain ⟨built, ends, result⟩ := ends_of_bind ran
  have noneClosed : ∀ node scope, validator.documents.ComesTo node scope →
      node.field? "additionalProperties" ≠ some (.bool false) := by
    intro node scope comes
    rw [isTagged] at comes
    have isNode : node ∈ taggedNodes :=
      (comes.mem (by decide +kernel) (by decide +kernel) (by decide +kernel)).1
    have noAdditional : ∀ node ∈ taggedNodes, node.field? "additionalProperties" = none := by
      decide +kernel
    rw [noAdditional node isNode]
    nofun
  have distinct : validator.documents.keysDistinct = true := by
    rw [isTagged]
    decide +kernel
  obtain ⟨last, isLast, extended⟩ :=
    Validator.build_extends distinct (by decide +kernel) noneClosed ends
  obtain rfl : last = final := Option.some.inj (isLast.symm.trans (Except.ok.inj result))
  exact ⟨ran, extended⟩

end JsonSchema
