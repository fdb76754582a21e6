import JsonSchema.Validator
import JsonSchema.Proofs.Checking.Budget
import JsonSchema.Proofs.Checking.Meets

set_option autoImplicit false

/-! Where errors lie. Every error that is reported names a place in the value, by the tokens that lead
to it. An error about a property that is missing names the place where the property would stand, below
an object that lacks it. The main statement is `Validator.errors_located`; its last case, an object
under the empty key of the root, is a place whose name is left out. -/

namespace JsonSchema

/-! ### How places are written -/

private theorem intercalate_eq_empty_iff (tokens : List String) :
    String.intercalate "." tokens = "" ↔ tokens = [] ∨ tokens = [""] := by
  match tokens with
  | [] => simp
  | [token] => simp
  | first :: second :: rest => simp

/-- A missing property is written as one token more, unless the tokens before it are the empty key
alone, which leaves no trace. -/
theorem errorPath_property (tokens : List String) (name : String) :
    errorPath tokens (some name) =
      if tokens = [""] then name else String.intercalate "." (tokens.reverse ++ [name]) := by
  unfold errorPath
  dsimp only
  by_cases unwritten : String.intercalate "." tokens.reverse = ""
  · have nothing : "".isEmpty = true := by decide
    rw [unwritten, if_pos nothing]
    rcases (intercalate_eq_empty_iff tokens.reverse).mp unwritten with none | emptyKey
    · have atRoot : tokens = [] := List.reverse_eq_nil_iff.mp none
      rw [if_neg (by simp [atRoot]), atRoot]
      exact String.intercalate_singleton.symm
    · have underEmptyKey : tokens = [""] := List.reverse_eq_cons_iff.mp emptyKey
      rw [if_pos underEmptyKey]
  · have tokensWritten : tokens.reverse ≠ [] := fun none => unwritten (none ▸ rfl)
    have notEmptyKey : tokens ≠ [""] := fun emptyKey => unwritten (emptyKey ▸ rfl)
    rw [if_neg (mt String.isEmpty_iff.mp unwritten), if_neg notEmptyKey,
      String.intercalate_append_of_ne_nil tokensWritten (List.cons_ne_nil name []),
      String.intercalate_singleton]

/-- The place of an error. An error of a keyword that looks for properties is about one that an object
lacks, any other error about what stands at the place. -/
inductive ValidationError.LocatedIn (root : Json) (error : ValidationError) : Prop where
  | atPlace {place : Place} (inside : place.Inside root)
      (ofValue : error.keyword ≠ .required ∧ error.keyword ≠ .dependencies)
      (path : error.path = String.intercalate "." place.tokens.reverse) : LocatedIn root error
  | missing {place : Place} {members : List (String × Json)} {name : String}
      (inside : place.Inside root)
      (ofProperty : error.keyword = .required ∨ error.keyword = .dependencies)
      (isObject : place.value = .object members) (absent : Entries.hasKey members name = false)
      (path : error.path =
        if place.tokens = [""] then name
        else String.intercalate "." (place.tokens.reverse ++ [name])) : LocatedIn root error

/-! ### What failures are about -/

def FailsAt (value : Json) (keyword : Keyword) : Option String → Prop
  | none => keyword ≠ .required ∧ keyword ≠ .dependencies
  | some name => (keyword = .required ∨ keyword = .dependencies) ∧
      ∃ members, value = .object members ∧ Entries.hasKey members name = false

def FailAt (value : Json) (demands : List (Demand Rule)) : Prop :=
  ∀ keyword property message, .failure keyword property message ∈ demands →
    FailsAt value keyword property

private theorem failAt_ofNames {value : Json} {members : List (String × Json)} {keyword : Keyword}
    {message : String → Option String} {names : List String}
    (looks : keyword = .required ∨ keyword = .dependencies) (isObject : value = .object members) :
    FailAt value (Demand.ofNames keyword message names members) := by
  intro other property text failure
  obtain ⟨name, _, absent, same⟩ := Demand.mem_ofNames.mp failure
  obtain ⟨rfl, rfl, _⟩ := Demand.failure.inj same
  exact ⟨looks, members, isObject, absent⟩

theorem Additional.failAt_demands (messages : Messages) (additional : Additional) (name : String)
    (value part : Json) : FailAt value (additional.demands messages name part) := by
  intro keyword property message failure
  cases additional with
  | allowed => cases failure
  | forbidden =>
      cases List.mem_singleton.mp failure
      exact ⟨nofun, nofun⟩
  | rule inside => cases List.mem_singleton.mp failure

theorem Dependency.failAt_demands {members : List (String × Json)} {value : Json}
    (isObject : value = .object members) (messages : Messages) (dependency : Dependency) :
    FailAt value (dependency.demands messages members) := by
  cases dependency with
  | rule whole =>
      intro keyword property message failure
      cases List.mem_singleton.mp failure
  | names required => exact failAt_ofNames (.inr rfl) isObject

theorem Check.failAt_demands (messages : Messages) (value : Json) (check : Check) :
    FailAt value (check.demands messages value) := by
  intro keyword property message failure
  cases check with
  | items each =>
      obtain ⟨_, _, _, isElement⟩ := Demand.mem_ofElements.mp failure
      cases isElement
  | tuple declared additional =>
      rcases List.mem_append.mp failure with atPosition | atRest
      · obtain ⟨_, _, _, _, _, isElement⟩ := Demand.mem_ofPositions.mp atPosition
        cases isElement
      · obtain ⟨_, _, inside⟩ := List.mem_flatMap.mp atRest
        obtain ⟨_, _, _, isElement⟩ := Demand.mem_ofElements.mp inside
        cases isElement
  | required names =>
      cases value with
      | object members => exact failAt_ofNames (.inl rfl) rfl keyword property message failure
      | _ => cases failure
  | properties declared =>
      obtain ⟨_, _, _, _, _, isMember⟩ := Demand.mem_ofDeclared.mp failure
      cases isMember
  | members declared patterns additional =>
      obtain ⟨name, part, _, ⟨_, ofOthers⟩ | ⟨_, _, isMember⟩⟩ := Demand.mem_ofMembers.mp failure
      · exact additional.failAt_demands messages name value part keyword property message ofOthers
      · cases isMember
  | dependencies entries =>
      obtain ⟨_, dependency, _, present, ofEntry⟩ := Demand.mem_ofPresent.mp failure
      cases value with
      | object members =>
          exact dependency.failAt_demands rfl messages keyword property message ofEntry
      | _ => cases present
  | allOf branches =>
      obtain ⟨_, _, isSame⟩ := List.mem_map.mp failure
      cases isSame
  | anyOf branches => cases List.mem_singleton.mp failure
  | oneOf branches => cases List.mem_singleton.mp failure
  | not rule => cases List.mem_singleton.mp failure
  | _ =>
      obtain ⟨rfl, rfl, _⟩ := Demand.failure.inj (Demand.mem_failIf.mp failure).2
      exact ⟨nofun, nofun⟩

theorem Rule.failAt_demands (general : List Check) (guarded : List (Kind × List Check))
    (formats : List FormatCheck) (messages : Messages) (value : Json) :
    FailAt value (Rule.demands general guarded formats messages value) := by
  intro keyword property message failure
  rcases Rule.mem_demands failure with ofFormat | ⟨check, _, ofCheck⟩
  · obtain ⟨rfl, rfl, _⟩ := Demand.failure.inj ofFormat
    exact ⟨nofun, nofun⟩
  · exact check.failAt_demands messages value keyword property message ofCheck

/-! ### The errors of a run -/

theorem FailsAt.located {root value : Json} {tokens : List String} {keyword : Keyword}
    {property message : Option String} (inside : Place.Inside root ⟨tokens, value⟩)
    (fails : FailsAt value keyword property) :
    ValidationError.LocatedIn root ⟨errorPath tokens property, keyword, message⟩ := by
  cases property with
  | none => exact .atPlace inside fails rfl
  | some name =>
      obtain ⟨looks, members, isObject, absent⟩ := fails
      exact .missing inside looks isObject absent (errorPath_property tokens name)

theorem Findings.forall_of_gather {Holds : ValidationError → Prop} {all : List Findings}
    {found : List ValidationError} (known : gather all = some found)
    (each : ∀ one ∈ all, ∀ own, one = some own → ∀ error ∈ own, Holds error) :
    ∀ error ∈ found, Holds error := by
  induction all generalizing found with
  | nil =>
      cases known
      intro error member
      cases member
  | cons first rest ih =>
      obtain ⟨own, more, atFirst, atRest, rfl⟩ := combine_cons_eq_some known
      have ofRest := ih atRest fun one member => each one (List.mem_cons_of_mem first member)
      exact List.forall_mem_append.mpr ⟨each first List.mem_cons_self own atFirst, ofRest⟩

/-- What a rule finds at a place in a value lies in the value. The induction is on the budget; the errors
of branches that are only tried are none of the value's. -/
theorem Findings.located_of_ofRule {table : Array Rule} {root : Json} {budget : Nat}
    {tokens : List String} {here : List Nat} {rule : Rule} {value : Json}
    {found : List ValidationError} (inside : Place.Inside root ⟨tokens, value⟩)
    (known : Findings.ofRule table budget tokens here rule value = some found) :
    ∀ error ∈ found, error.LocatedIn root := by
  induction budget generalizing tokens here rule value found with
  | zero => cases known
  | succ budget ih =>
      cases rule with
      | free =>
          cases known
          intro error member
          cases member
      | slot slot =>
          rw [Findings.ofRule] at known
          split at known
          next =>
            cases known
            intro error member
            cases member
          next =>
            cases filled : table[slot]? with
            | none =>
                rw [filled] at known
                cases known
                intro error member
                cases member
            | some body =>
                rw [filled] at known
                exact ih inside known
      | checks general guarded formats messages =>
          rw [Findings.ofRule] at known
          refine forall_of_gather known ?_
          intro one member own atDemand
          obtain ⟨demand, asked, rfl⟩ := List.mem_map.mp member
          cases demand with
          | failure keyword property message =>
              obtain rfl := Option.some.inj atDemand
              have fails := Rule.failAt_demands _ _ _ _ _ _ _ _ asked
              intro error isError
              rw [List.mem_singleton.mp isError]
              exact fails.located inside
          | same other => exact ih inside atDemand
          | inner token part other =>
              have isPart := (Rule.demands_within asked).2
              exact ih (inside.part isPart) atDemand
          | choice wanted message branches =>
              obtain ⟨count, _, rfl⟩ := Demand.findings_choice_eq_some _ _ _ atDemand
              intro error isError
              split at isError
              next => cases isError
              next =>
                rw [List.mem_singleton.mp isError]
                have aboutValue : FailsAt value wanted.keyword none := by
                  cases wanted <;> constructor <;> decide
                exact aboutValue.located inside

/-- Errors carry the place of what fails. Every error that is reported, in either mode, is written with
the tokens that lead to a place in the value; where a property is missing its name follows them. Only
below the empty key of the root does the name stand alone. -/
theorem Validator.errors_located (validator : Validator) (value : Json) :
    ∃ errors, validator.validate value = .ok errors ∧ ∀ error ∈ errors, error.LocatedIn value := by
  obtain ⟨found, known, reported⟩ := validator.checker.errors_eq_findings validator.entry value
  have located := Findings.located_of_ofRule .whole known
  refine ⟨_, reported, ?_⟩
  intro error member
  split at member
  next => exact located error member
  next => exact located error (List.mem_of_mem_take member)

def emptyKeySchema : Json :=
  .object [("properties", .object
    [("", .object [("required", .array [.string "x"])])])]

/-- Below the empty key of the root a missing property is reported at a place where nothing is
missing. -/
theorem Validator.missing_under_empty_key :
    ∃ validator, Validator.compile emptyKeySchema .default = .ok validator ∧
      let value : Json := .object [("", .object []), ("x", .null)]
      validator.validate value = .ok [⟨"x", .required, none⟩] ∧
        ¬∃ (place : Place) (members : List (String × Json)) (name : String),
          place.Inside value ∧ place.value = .object members ∧
            Entries.hasKey members name = false ∧
            "x" = String.intercalate "." (place.tokens.reverse ++ [name]) := by
  let value : Json := .object [("", .object []), ("x", .null)]
  have ran : ((Validator.compile emptyKeySchema .default).toOption.map (·.validate value)) =
      some (.ok [⟨"x", .required, none⟩]) := rfl
  cases compiled : Validator.compile emptyKeySchema .default with
  | error stop =>
      rw [compiled] at ran
      cases ran
  | ok validator =>
      rw [compiled] at ran
      refine ⟨validator, rfl, Option.some.inj ran, ?_⟩
      rintro ⟨place, members, name, inside, isObject, absent, path⟩
      by_cases atRoot : place.tokens = []
      · rw [atRoot, List.reverse_nil, List.nil_append, String.intercalate_singleton] at path
        cases inside with
        | whole =>
            cases isObject
            rw [← path] at absent
            cases absent
        | part => cases atRoot
      · have below : place.tokens.reverse ≠ [] := mt List.reverse_eq_nil_iff.mp atRoot
        rw [String.intercalate_append_of_ne_nil below (List.cons_ne_nil name [])] at path
        have point : '.' ∈ "x".toList := by
          rw [path]
          simp
        revert point
        decide

end JsonSchema
