import JsonSchema.Proofs.Building.Keeping

set_option autoImplicit false

/-! Values that are there stay there. Each task takes a part out and puts back what is built of it, so a
whole that is there can only be lost if a run loses it, and no run does: what it gives back is a value
of the same type. The main statement is `Validator.build_present`, by which the two ways of building a
value that is there come to the same. -/

namespace JsonSchema

namespace Json

/-- The type of a value; integers are numbers. -/
def typeName : Json → TypeName
  | .null => .null
  | .bool _ => .boolean
  | .number _ => .number
  | .string _ => .string
  | .array _ => .array
  | .object _ => .object

@[simp] theorem typeName_put (step : Step) (value part : Json) :
    (value.put step part).typeName = value.typeName := by
  cases step with
  | member name => cases value <;> rfl
  | element index =>
      cases value with
      | array elements =>
          simp only [put]
          split <;> rfl
      | _ => rfl

/-- If there is a value, there is one of its type afterwards. -/
def Stays (before after : Option Json) : Prop :=
  ∀ present ∈ before, after.map typeName = some present.typeName

namespace Stays

variable {before middle after : Option Json}

theorem refl (value : Option Json) : Stays value value := by
  rintro present ⟨⟩
  rfl

theorem trans (first : Stays before middle) (second : Stays middle after) : Stays before after := by
  intro present isThere
  obtain ⟨later, isLater, sameType⟩ := Option.map_eq_some_iff.mp (first present isThere)
  rw [← sameType]
  exact second later isLater

theorem exists_eq {present : Json} (stays : Stays (some present) after) :
    ∃ final, after = some final ∧ final.typeName = present.typeName :=
  Option.map_eq_some_iff.mp (stays present rfl)

end Stays

end Json

open Json (Stays)

namespace Builder

variable {builder : Builder} {node : Visit}

theorem Task.putBack_stays {task : Task} {whole result : Option Json}
    (ofPart : Stays (task.part whole) result) : Stays whole (task.putBack whole result) := by
  have put (step : Step) (part : Json) : Stays whole (whole.map fun value => value.put step part) := by
    rintro present ⟨⟩
    simp
  cases place : task.place with
  | none =>
      unfold part at ofPart
      rw [place] at ofPart
      unfold putBack
      rw [place]
      exact ofPart
  | some step =>
      unfold putBack
      rw [place]
      dsimp only
      split
      next => exact put step _
      next => exact put step _
      next => exact .refl whole

private theorem runTasks_stays {build : Json → Scope → Site → Option Json → Except Exhausted Built}
    (each : ∀ schema scope site value built, build schema scope site value = .ok built →
      Stays value built.value)
    {tasks : List Task} {whole final : Option Json} {undeclared : List String}
    (ran : runTasks build node tasks whole = .ok (final, undeclared)) : Stays whole final := by
  induction tasks generalizing whole undeclared with
  | nil =>
      cases ran
      exact .refl _
  | cons task rest ih =>
      obtain ⟨built, more, ranTask, ranRest, _⟩ := runTasks_cons_cases ran
      exact (Task.putBack_stays (each _ _ _ _ _ ranTask)).trans (ih ranRest)

/-- Closing a node drops members of an object, never the object. -/
theorem finish_stays (final : Option Json) (undeclared : List String) :
    Stays final (builder.finish node final undeclared).value := by
  rintro present ⟨⟩
  unfold finish
  split
  next =>
    cases present with
    | object completed =>
        unfold close
        dsimp only
        split
        next => rfl
        next => split <;> rfl
    | _ => rfl
  next => rfl
  next => cases present <;> rfl

/-- A run that is given a value gives back one of its type, whatever node it is at, and however deeply it
is nested in other runs. -/
theorem build_stays {budget : Nat} {schema : Json} {scope : Scope} {site : Site}
    {value : Option Json} {built : Built}
    (ran : builder.build budget schema scope site value = .ok built) : Stays value built.value := by
  induction budget generalizing schema scope site value built with
  | zero => cases ran
  | succ budget ih =>
      let visit : Visit := ⟨schema, scope, site, value⟩
      have ranVisit : builder.build (budget + 1) visit.schema visit.scope visit.site visit.value =
        .ok built := ran
      rcases build_cases ranVisit with
        ⟨node, final, undeclared, enters, ranTasks, rfl⟩ | ⟨_, rfl⟩
      · have given : Stays value node.given := by
          rintro present ⟨⟩
          rw [Visit.given, enters.value_eq]
          rfl
        have done : Stays node.given final :=
          runTasks_stays (fun _ _ _ _ _ ranInside => ih ranInside) ranTasks
        exact (given.trans done).trans (finish_stays final undeclared)
      · exact .refl value

/-- What is put back for a value is always what was built of it. -/
theorem rebuild_of_build {budget : Nat} {schema value : Json} {scope : Scope} {site : Site}
    {built : Built} (ran : builder.build budget schema scope site (some value) = .ok built) :
    ∃ final, built.value = some final ∧ final.typeName = value.typeName ∧
      rebuild (builder.build budget) schema scope site value = .ok final := by
  obtain ⟨final, isFinal, sameType⟩ := (build_stays ran).exists_eq
  refine ⟨final, isFinal, sameType, ?_⟩
  rw [rebuild, bind_of_ends ran, isFinal]
  rfl

end Builder

namespace Validator

/-- A value that is there stays there. Every run that is given one and ends gives back one of the same
type, which is what takes its place; so building comes to a value, and building in place leaves just
that, also with any other budget. -/
theorem build_present (validator : Validator) (additionalAllowed : Bool) :
    let builder : Builder := ⟨validator.documents, additionalAllowed⟩
    (∀ (budget : Nat) (schema : Json) (scope : Scope) (site : Site) (value : Json) (built : Built),
      builder.build budget schema scope site (some value) = .ok built →
      ∃ final, built.value = some final ∧ final.typeName = value.typeName ∧
        Builder.rebuild (builder.build budget) schema scope site value = .ok final) ∧
    (∀ (value : Json) (result : Option Json),
      validator.build (some value) additionalAllowed = .ok result →
      ∃ final, result = some final ∧ final.typeName = value.typeName ∧
        validator.buildInPlace value additionalAllowed = .ok final) ∧
    ∀ value final : Json, validator.buildInPlace value additionalAllowed = .ok final →
      validator.build (some value) additionalAllowed = .ok (some final) := by
  intro builder
  refine ⟨fun _ _ _ _ _ _ ran => Builder.rebuild_of_build ran, ?_, ?_⟩
  · intro value result ran
    obtain ⟨built, ranMain, isResult⟩ := ends_of_bind ran
    cases isResult
    exact Builder.rebuild_of_build ranMain
  · intro value final ran
    obtain ⟨built, ranMain, isFinal⟩ := ends_of_bind ran
    obtain ⟨own, isOwn, _, _⟩ := Builder.rebuild_of_build ranMain
    rw [isOwn] at isFinal
    cases isFinal
    unfold build Builder.run
    rw [bind_of_ends ranMain, isOwn]
    rfl

def threadedSchema : Json :=
  let reference (name : String) : Json := .object [("$ref", .string name)]
  .object
    [("allOf", .array [reference "#", reference "#/definitions/circle", reference "#/definitions/pair"]),
      ("definitions", .object
        [("circle", reference "#/definitions/circle"),
          ("pair", .object
            [("properties", .object
              [("left", .object [("default", .null), ("allOf", .array [reference "#"])]),
                ("right", .object [("default", .bool false)])])])])]

theorem build_present_threaded :
    ∃ validator, compile threadedSchema .default = .ok validator ∧
      let given : Json := .object [("other", .null), ("left", .null)]
      let final : Json := .object [("other", .null), ("left", .null), ("right", .bool false)]
      validator.build (some given) true = .ok (some final) ∧
        validator.buildInPlace given true = .ok final := by
  obtain ⟨validator, compiled, documents⟩ :=
    exists_of_isOk threadedSchema .default (by decide +kernel)
  refine ⟨validator, compiled, ?_⟩
  intro given final
  have ran : validator.build (some given) true = .ok (some final) := by
    unfold build
    rw [documents]
    rfl
  refine ⟨ran, ?_⟩
  obtain ⟨last, isLast, _, inPlace⟩ := (build_present validator true).2.1 given _ ran
  cases isLast
  exact inPlace

end Validator

end JsonSchema
