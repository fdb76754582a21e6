import JsonSchema.Proofs.Checking.Breaking
import JsonSchema.Proofs.Numbers.Comparing

set_option autoImplicit false

/-! Bounds on numbers. A number breaks a bound that it is beyond, or an exclusive bound that it meets, as its
value is compared with that of the bound. The two are compared through doubles: where one double is nearest to
both and they differ, the number is taken to meet the bound. The main statement is `bounds_compared`. -/

namespace JsonSchema

def Keyword.isBound : Keyword → Bool
  | .minimum | .exclusiveMinimum | .maximum | .exclusiveMaximum => true
  | _ => false

inductive Side where
  | lower
  | upper

namespace Side

def bound : Side → Keyword
  | .lower => .minimum
  | .upper => .maximum

def exclusive : Side → Keyword
  | .lower => .exclusiveMinimum
  | .upper => .exclusiveMaximum

def beyond (side : Side) (value bound : Int) : Bool :=
  match side with
  | .lower => value < bound
  | .upper => bound < value

def bound? (side : Side) (members : List (String × Json)) : Option Number :=
  (members.lookup side.bound.name).bind Json.number?

def isExclusive (side : Side) (members : List (String × Json)) : Bool :=
  ((members.lookup side.exclusive.name).bind Json.bool?).getD false

/-- The keywords of one side that a number breaks when values are compared. -/
def broken (side : Side) (members : List (String × Json)) (number : Number) : List Keyword :=
  match side.bound? members with
  | none => []
  | some bound =>
      if side.beyond number.units bound.units then [side.bound]
      else if number.units = bound.units ∧ side.isExclusive members then [side.exclusive]
      else []

/-- The same, when a number that has its nearest double in common with the bound is taken to meet it. -/
def brokenRounded (side : Side) (members : List (String × Json)) (number : Number) : List Keyword :=
  match side.bound? members with
  | none => []
  | some bound =>
      if number.Blurs bound then if side.isExclusive members then [side.exclusive] else []
      else side.broken members number

private theorem brokenRounded_eq {side : Side} {members : List (String × Json)} {number : Number}
    (separate : ∀ bound ∈ side.bound? members, ¬ number.Blurs bound) :
    side.brokenRounded members number = side.broken members number := by
  unfold brokenRounded
  cases found : side.bound? members with
  | none => rw [broken, found]
  | some bound => exact if_neg (separate bound found)

end Side

def boundCheck? (members : List (String × Json)) : Keyword → Json → Option Check
  | .minimum, argument => argument.binary64?.map .minimum
  | .exclusiveMinimum, argument =>
      (Compiler.exclusiveBound? members argument .minimum).map .exclusiveMinimum
  | .maximum, argument => argument.binary64?.map .maximum
  | .exclusiveMaximum, argument =>
      (Compiler.exclusiveBound? members argument .maximum).map .exclusiveMaximum
  | _, _ => none

section Node

variable {members : List (String × Json)}

private theorem readAs_boundCheck? {keyword : Keyword} (isBound : keyword.isBound = true)
    (argument : Json) : ReadAs members keyword argument (boundCheck? members keyword argument) := by
  cases keyword
  case minimum | maximum | exclusiveMinimum | exclusiveMaximum =>
    refine ⟨fun _ _ _ => rfl, ?_, ?_⟩
    all_goals
      intro made isMade
      obtain ⟨_, _, rfl⟩ := Option.map_eq_some_iff.mp isMade
      rfl
  all_goals cases isBound

private theorem isBroken_bound (side : Side) (number : Number) :
    isBroken (boundCheck? members) members (.number number) side.bound =
      (side.bound? members).any fun bound =>
        side.beyond number.toBinary64.units bound.toBinary64.units := by
  unfold isBroken Side.bound?
  cases members.lookup side.bound.name with
  | none => rfl
  | some argument => cases side <;> cases argument <;> rfl

private theorem isBroken_exclusive (side : Side) (number : Number) :
    isBroken (boundCheck? members) members (.number number) side.exclusive =
      (side.isExclusive members && (side.bound? members).any fun bound =>
        decide (number.toBinary64.units = bound.toBinary64.units)) := by
  unfold isBroken Side.isExclusive
  cases members.lookup side.exclusive.name with
  | none => rfl
  | some argument =>
      cases argument with
      | bool flag =>
          cases flag with
          | false => cases side <;> rfl
          | true =>
              cases side
              all_goals
                simp only [Option.bind_some, boundCheck?, Compiler.exclusiveBound?, Side.exclusive,
                  Side.bound?, Side.bound, Option.any_map]
                cases members.lookup _ with
                | none => rfl
                | some argument => cases argument <;> rfl
      | _ => cases side <;> rfl

private theorem beyond_toBinary64 (side : Side) (number bound : Number) :
    side.beyond number.toBinary64.units bound.toBinary64.units =
      (side.beyond number.units bound.units && !decide (number.Blurs bound)) := by
  rw [Bool.eq_iff_iff, Bool.and_eq_true, Bool.not_eq_true', decide_eq_false_iff_not]
  cases side with
  | lower =>
      simp only [Side.beyond, decide_eq_true_eq]
      exact Number.units_toBinary64_lt_iff
  | upper =>
      simp only [Side.beyond, decide_eq_true_eq]
      rw [Number.units_toBinary64_lt_iff]
      exact and_congr_right fun _ => not_congr ⟨Number.Blurs.symm, Number.Blurs.symm⟩

private theorem beyond_ne (side : Side) {value bound : Int} (beyond : side.beyond value bound = true) :
    value ≠ bound := by
  cases side with
  | lower => exact Int.ne_of_lt (of_decide_eq_true beyond)
  | upper => exact (Int.ne_of_lt (of_decide_eq_true beyond)).symm

private theorem filter_isBroken (side : Side) (number : Number) :
    [side.bound, side.exclusive].filter (isBroken (boundCheck? members) members (.number number)) =
      side.brokenRounded members number := by
  rw [List.filter_cons, List.filter_singleton, isBroken_bound, isBroken_exclusive, Side.brokenRounded,
    Side.broken]
  cases side.bound? members with
  | none => simp
  | some bound =>
      simp only [Option.any_some, beyond_toBinary64, Number.units_toBinary64_eq_iff]
      by_cases blurs : number.Blurs bound
      · cases side.isExclusive members <;> simp [blurs]
      · cases isBeyond : side.beyond number.units bound.units with
        | true => simp [blurs, beyond_ne side isBeyond]
        | false =>
            cases side.isExclusive members <;> simp [blurs]

/-- What a number breaks is one keyword at most of each side. -/
theorem breaks_brokenRounded (only : HasOnly Keyword.isBound members)
    (distinct : (Entries.names members).Nodup) (number : Number) :
    Breaks members (.number number)
      (Side.lower.brokenRounded members number ++ Side.upper.brokenRounded members number) := by
  rw [← filter_isBroken, ← filter_isBroken, ← List.filter_append]
  refine breaks_among only distinct (by decide) (by decide) ?_ rfl
    (fun _ isBound argument _ => readAs_boundCheck? isBound argument) _
  intro keyword isBound
  cases keyword <;> first | decide | cases isBound

/-- A number that shares its double with no bound of the node breaks just what it breaks by value: on each
side the bound if it is beyond it, the exclusive bound if it meets that, and nothing else. A number and a
bound that are different can have a double in common only if one of them is an integer beyond `2 ^ 53`, and
are then taken to meet. -/
theorem bounds_compared (only : HasOnly Keyword.isBound members)
    (distinct : (Entries.names members).Nodup) (number : Number) :
    ((∀ side : Side, ∀ bound ∈ side.bound? members, ¬ number.Blurs bound) →
      Breaks members (.number number)
        (Side.lower.broken members number ++ Side.upper.broken members number)) ∧
    Breaks members (.number number)
      (Side.lower.brokenRounded members number ++ Side.upper.brokenRounded members number) ∧
    (∀ side : Side, ∀ bound ∈ side.bound? members, number.Blurs bound →
      number.isWide = true ∨ bound.isWide = true) := by
  have breaks := breaks_brokenRounded only distinct number
  refine ⟨fun separate => ?_, breaks, fun _ _ _ => Number.Blurs.isWide⟩
  rwa [Side.brokenRounded_eq (separate .lower), Side.brokenRounded_eq (separate .upper)] at breaks

end Node

/-- The integer `2 ^ 53` is no more than the double `2 ^ 53`, and meets it: there is one error. -/
theorem bounds_compared_at_power :
    HasOnly Keyword.isBound [("maximum", .number Json.powerDouble), ("exclusiveMaximum", .bool true)] ∧
      Breaks [("maximum", .number Json.powerDouble), ("exclusiveMaximum", .bool true)]
        (.number Json.power) [.exclusiveMaximum] := by
  have only : HasOnly Keyword.isBound
      [("maximum", .number Json.powerDouble), ("exclusiveMaximum", .bool true)] := ⟨rfl, by decide⟩
  have equal : Json.power.units = Json.powerDouble.units := by decide +kernel
  obtain ⟨byValue, -, -⟩ := bounds_compared only (by decide) Json.power
  refine ⟨only, (byValue ?_).perm (.of_eq (by decide +kernel))⟩
  intro side bound isBound blurs
  cases side with
  | lower => cases isBound
  | upper =>
      cases isBound
      exact blurs.1 equal

/-- The integer behind `2 ^ 53` is more than `2 ^ 53`. Yet as a number it is taken to meet that bound, and as
a bound it is not missed by that number. -/
theorem exclusive_behindPower :
    Json.power.units < Json.behindPower.units ∧
      Breaks [("minimum", .number Json.power), ("exclusiveMinimum", .bool true)]
        (.number Json.behindPower) [.exclusiveMinimum] ∧
      Breaks [("minimum", .number Json.behindPower)] (.number Json.power) [] := by
  refine ⟨by decide +kernel, ?_, ?_⟩
  · have only : HasOnly Keyword.isBound
        [("minimum", .number Json.power), ("exclusiveMinimum", .bool true)] := ⟨rfl, by decide⟩
    exact (breaks_brokenRounded only (by decide) Json.behindPower).perm (.of_eq (by decide +kernel))
  · have only : HasOnly Keyword.isBound [("minimum", .number Json.behindPower)] := ⟨rfl, by decide⟩
    exact (breaks_brokenRounded only (by decide) Json.power).perm (.of_eq (by decide +kernel))

end JsonSchema
